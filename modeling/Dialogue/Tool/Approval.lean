import Dialogue.Error
import Dialogue.Tool.Registry

set_option autoImplicit false

namespace Dialogue

inductive AutonomyLevel where
  | readOnly
  | supervised
  | full
deriving DecidableEq

instance : Inhabited AutonomyLevel := ⟨.supervised⟩

structure ApprovalRequest where
  toolName : String
  arguments : Json
  description : String

inductive ApprovalDecision where
  | approved
  | denied (reason : String)
deriving DecidableEq

-- `desk` numbers the supervisors that can be asked.
inductive Approver where
  | auto
  | autonomy (level : AutonomyLevel) (supervisor : Option Approver)
  | interactive (desk : Nat)

inductive Ruling where
  | decided (decision : ApprovalDecision)
  | ask (desk : Nat)
deriving DecidableEq

def readOnlyReason : String := "tool execution is disabled in read-only mode"

def unsupervisedReason : String := "no approver is available to supervise this call"

def Approver.ruling : Approver → Ruling
  | auto => .decided .approved
  | interactive desk => .ask desk
  | autonomy .full _ => .decided .approved
  | autonomy .readOnly _ => .decided (.denied readOnlyReason)
  | autonomy .supervised none => .decided (.denied unsupervisedReason)
  | autonomy .supervised (some supervisor) => supervisor.ruling

end Dialogue
