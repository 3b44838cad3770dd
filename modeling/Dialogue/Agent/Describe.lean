import Dialogue.Chat.Message
import Dialogue.Text.Bytes

set_option autoImplicit false

namespace Dialogue

def descriptionLimit : Nat := 200

def describeToolCall (call : ToolCall) : String :=
  let arguments := Text.trim call.arguments
  if arguments.isEmpty ∨ arguments = "\x7b\x7d" then "run " ++ call.name
  else
    let preview := Text.truncate arguments descriptionLimit
    let ellipsis := if Text.bytes preview < Text.bytes arguments then "…" else ""
    "run " ++ call.name ++ " with " ++ preview ++ ellipsis

end Dialogue
