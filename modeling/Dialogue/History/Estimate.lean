import Dialogue.Chat.Message
import Dialogue.Text.Bytes

set_option autoImplicit false

namespace Dialogue

def ToolCall.chars (call : ToolCall) : Nat :=
  Text.bytes call.id + Text.bytes call.name + Text.bytes call.arguments

def Message.chars (message : Message) : Nat :=
  Text.bytes message.kind.name + Text.bytes message.content +
    (message.toolCallId.map Text.bytes).getD 0 + Text.total ToolCall.chars message.toolCalls

def estimateTokens (systemPrompt : String) (messages : List Message) : Nat :=
  (Text.bytes systemPrompt + Text.total Message.chars messages) / 4

end Dialogue
