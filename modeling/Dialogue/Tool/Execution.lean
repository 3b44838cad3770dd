import Dialogue.Process.Proc

set_option autoImplicit false

namespace Dialogue

def Approver.decide (approver : Approver) (request : ApprovalRequest) :
    Proc (Except ToolError ApprovalDecision) :=
  match approver.ruling with
  | .decided decision => do
    match ← Proc.rule decision request with
    | .interrupted => return .error .cancelled
    | .finished () => return .ok decision
  | .ask desk => do
    match ← Proc.approve desk request with
    | .interrupted => return .error .cancelled
    | .finished outcome => return outcome

def runTool (tool : Tool) (arguments : Json) : Proc (Except ToolError String) := do
  match ← Proc.execute tool arguments with
  | .interrupted => return .error .cancelled
  | .finished outcome => return outcome

def executeTool (approver : Approver) (tool : Tool) (arguments : Json) (description : String) :
    Proc (Except ToolError String) := do
  match ← approver.decide ⟨tool.name, arguments, description⟩ with
  | .error e => return .error e
  | .ok (.denied reason) => return .error (.permissionDenied tool.name reason)
  | .ok .approved => runTool tool arguments

end Dialogue
