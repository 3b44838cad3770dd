import Dialogue.Chat.Request
import Dialogue.Session.Memory
import Dialogue.Tool.Approval

/-!
What a process can ask of the world around it. A process runs under a token that may be cancelled
at any time. An effect that waits is raced against the token: it is not started when the token is
cancelled already, and once started it is either finished or interrupted by the token. One that
finishes at once counts as finished, even if it cancelled the token on the way.
-/

set_option autoImplicit false

namespace Dialogue

inductive Raced (α : Type) where
  | interrupted
  | finished (value : α)

inductive Timed (α : Type) where
  | late
  | inTime (value : α)

inductive LogLevel where
  | warning
  | error
deriving DecidableEq

structure LogEntry where
  level : LogLevel
  text : String
deriving DecidableEq

structure ArchiveJob where
  provider : Provider
  sessionId : String
  messages : List Message
  maxTokens : Nat
  timeout : Nat

inductive Effect where
  | stamp
  | callIds
  | cancelled
  | chat (provider : Provider) (request : ChatRequest)
  | chatWithin (limit : Nat) (provider : Provider) (request : ChatRequest)
  | rule (decision : ApprovalDecision) (request : ApprovalRequest)
  | approve (desk : Nat) (request : ApprovalRequest)
  | execute (tool : Tool) (arguments : Json)
  | load (session : String)
  | save (session : String) (messages : List Message)
  | write (text : String)
  | remember (entry : MemoryEntry)
  | archive (job : ArchiveJob)
  | reportUsage (total : TokenUsage)
  | log (entry : LogEntry)

namespace Effect

abbrev Reply := Except ProviderError ChatResponse

abbrev Answer : Effect → Type
  | stamp => Stamp
  | callIds => Nat → String
  | cancelled => Bool
  | chat _ _ => Raced Reply
  | chatWithin _ _ _ => Timed (Raced Reply)
  | rule _ _ => Raced Unit
  | approve _ _ => Raced (Except ToolError ApprovalDecision)
  | execute _ _ => Raced (Except ToolError String)
  | load _ => Raced (Except SessionError (List Message))
  | save _ _ => Except SessionError Unit
  | write _ => Except ChannelError Unit
  | remember _ => Except MemoryError Unit
  | archive _ => Unit
  | reportUsage _ => Unit
  | log _ => Unit

-- What an effect answers that is not started because the token is cancelled; nothing for an
-- effect that does not heed the token.
def refusal : (effect : Effect) → Option effect.Answer
  | chat _ _ => some .interrupted
  | chatWithin _ _ _ => some (.inTime .interrupted)
  | rule _ _ => some .interrupted
  | approve _ _ => some .interrupted
  | execute _ _ => some .interrupted
  | load _ => some .interrupted
  | _ => none

end Effect

end Dialogue
