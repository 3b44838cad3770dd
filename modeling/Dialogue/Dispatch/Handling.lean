import Dialogue.Chat.Inbound
import Dialogue.Session.Conversation

set_option autoImplicit false

namespace Dialogue.Dispatch

def genericFailure : String :=
  "Sorry, something went wrong while handling your message. Please try again."

def reportFailure : Proc Unit := do
  Proc.logError "Message handling failed"
  match ← Proc.write genericFailure with
  | .ok () => return ()
  | .error _ => Proc.warn "Failed to report failure to the user"

def conclude (outcome : Except Error Unit) : Proc Unit :=
  match outcome with
  | .ok () => return ()
  | .error e =>
    if e.isCancelled then return ()
    else do
      if ← Proc.cancelled then return ()
      reportFailure

def handle (conversation : Conversation) (message : Inbound) : Proc Conversation := do
  let handled ← conversation.handle message.content
  conclude handled.outcome
  return handled.conversation

structure Wiring where
  hasHandler : Bool := false
  hasWriter : Bool := false
  started : Bool := false
deriving DecidableEq

namespace Wiring

def start (wiring : Wiring) : Except Error Wiring :=
  if wiring.started then .error (.config "dispatcher already started")
  else if !wiring.hasHandler then .error (.config "dispatcher has no handler")
  else if !wiring.hasWriter then .error (.config "dispatcher has no response writer")
  else .ok { wiring with hasHandler := false, started := true }

def notStarted : Error := .config "dispatcher not started"

end Wiring

end Dialogue.Dispatch
