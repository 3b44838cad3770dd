import Dialogue.Agent.Loop
import Dialogue.Context.Compact
import Dialogue.History.Sanitize
import Dialogue.Session.Archive

/-!
One conversation and its history. A message is appended to a working copy, the pairing of tool
calls and results is repaired, the copy is compacted and repaired again, and the loop runs on it.
Only when the loop answers does the copy become the history, which is saved before the reply is
written. The reset command clears the history instead of reaching the model.
-/

set_option autoImplicit false

namespace Dialogue

def resetAcknowledgement : String := "Conversation cleared. Starting fresh."

-- What stays the same during a conversation; the timeout is in milliseconds.
structure ConversationSettings where
  sessionId : String
  systemPrompt : String
  agent : ConversationLoop
  compactor : Compactor
  stored : Bool := false
  archived : Bool := false
  resetCommand : String := "/reset"
  archiveOnReset : Bool := true
  summaryTimeout : Nat := 60000

structure Conversation where
  settings : ConversationSettings
  history : List Message := []

structure Handled where
  conversation : Conversation
  outcome : Except Error Unit

namespace Conversation

variable (conversation : Conversation)

def load : Proc Handled :=
  if conversation.settings.stored then do
    match ← Proc.load conversation.settings.sessionId with
    | .interrupted => return ⟨conversation, .error .cancelled⟩
    | .finished (.error e) => return ⟨conversation, .error (.session e)⟩
    | .finished (.ok history) => return ⟨{ conversation with history }, .ok ()⟩
  else return ⟨conversation, .ok ()⟩

def persist : Proc Unit :=
  if conversation.settings.stored then do
    match ← Proc.save conversation.settings.sessionId conversation.history with
    | .ok () => return ()
    | .error _ => Proc.warn "Failed to save session history"
  else return ()

def reply (text : String) : Proc Handled := do
  match ← Proc.write text with
  | .ok () => return ⟨conversation, .ok ()⟩
  | .error e => return ⟨conversation, .error (.channel e)⟩

def archiveJob (cleared : List Message) : ArchiveJob :=
  { provider := conversation.settings.compactor.provider
    sessionId := conversation.settings.sessionId
    messages := cleared
    maxTokens := conversation.settings.compactor.summaryMaxTokens
    timeout := conversation.settings.summaryTimeout }

def archives (cleared : List Message) : Bool :=
  conversation.settings.archived && conversation.settings.archiveOnReset && !cleared.isEmpty

def reset : Proc Handled := do
  let cleared := conversation.history
  let emptied := { conversation with history := [] }
  emptied.persist
  if conversation.archives cleared then Proc.archive (conversation.archiveJob cleared)
  emptied.reply resetAcknowledgement

def isReset (content : String) : Bool := Text.trim content = conversation.settings.resetCommand

def working (stamp : Stamp) (content : String) : Sanitized :=
  sanitize (conversation.history ++ [.user stamp content])

def answer (prepared : List Message) : Proc Handled := do
  let result ← conversation.settings.agent.run conversation.settings.systemPrompt prepared
  match result.outcome with
  | .error e => return ⟨conversation, .error e⟩
  | .ok response =>
    let adopted := { conversation with history := result.history }
    adopted.persist
    if response.content.isEmpty then return ⟨adopted, .ok ()⟩ else adopted.reply response.content

def turn (content : String) : Proc Handled := do
  let stamp ← Proc.stamp
  let working := conversation.working stamp content
  if working.changed then Proc.warn "Repaired tool-call pairing in stored history"
  let settings := conversation.settings
  match ← settings.compactor.compact settings.systemPrompt working.messages with
  | .error e => return ⟨conversation, .error e⟩
  | .ok compacted => conversation.answer (sanitize compacted).messages

def handle (content : String) : Proc Handled :=
  if conversation.isReset content then conversation.reset else conversation.turn content

end Conversation

end Dialogue
