import Dialogue.Context.Summary

set_option autoImplicit false

namespace Dialogue

def archiveTags : List String := ["conversation", "reset-summary"]

namespace ArchiveJob

def entry (job : ArchiveJob) (stamp : Stamp) (summary : String) : MemoryEntry :=
  (MemoryEntry.make stamp summary archiveTags).withSource job.sessionId

def run (job : ArchiveJob) : Proc Unit := do
  let stamp ← Proc.stamp
  let request := Summary.request stamp job.messages job.maxTokens
  match ← Proc.chatWithin job.timeout job.provider request with
  | .late => Proc.warn "Reset summary timed out"
  | .inTime reply =>
    match Summary.ofReply reply with
    | .error _ => Proc.warn "Reset summary failed"
    | .ok summary =>
      let stamp ← Proc.stamp
      match ← Proc.remember (job.entry stamp summary) with
      | .ok () => return ()
      | .error _ => Proc.warn "Failed to archive reset conversation"

end ArchiveJob

end Dialogue
