import Dialogue.Chat.Message

set_option autoImplicit false

namespace Dialogue

structure AssignedCall where
  call : ToolCall
  replaced : Bool

-- `used` is the number of supplied IDs that have been given out, and `seen` holds every ID that
-- occurs earlier in the output.
def assignFrom (supply : Nat → String) (used : Nat) (seen : List String) :
    List ToolCall → List AssignedCall
  | [] => []
  | call :: rest =>
    if Text.isBlank call.id ∨ call.id ∈ seen then
      let fresh := supply used
      ⟨{ call with id := fresh }, true⟩ :: assignFrom supply (used + 1) (fresh :: seen) rest
    else ⟨call, false⟩ :: assignFrom supply used (call.id :: seen) rest

def assignCallIds (supply : Nat → String) (calls : List ToolCall) : List AssignedCall :=
  assignFrom supply 0 [] calls

end Dialogue
