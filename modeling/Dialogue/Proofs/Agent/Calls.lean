import Dialogue.Agent.Loop
import Dialogue.Proofs.History.Sanitized
import Dialogue.Proofs.Process.Timeline

set_option autoImplicit false

namespace Dialogue

inductive Effect.OfCalls : Effect → Prop where
  | stamp : OfCalls .stamp
  | look : OfCalls .cancelled
  | rule (decision : ApprovalDecision) (request : ApprovalRequest) :
      OfCalls (.rule decision request)
  | approve (desk : Nat) (request : ApprovalRequest) : OfCalls (.approve desk request)
  | execute (tool : Tool) (arguments : Json) : OfCalls (.execute tool arguments)
  | warn (text : String) : OfCalls (.log ⟨.warning, text⟩)

-- What goes on around that, whether or not the token is cancelled.
def Effect.Minor (effect : Effect) : Prop := effect.OfCalls ∧ effect.Heedless

open Effect

theorem minor_of_calls {α : Type} {post : α → Prop} (process : Proc α)
    (holds : process.Ensures Minor post) : process.Ensures OfCalls post :=
  Proc.ensures_mono process holds (fun _ minor => minor.1) fun _ remains => remains

theorem minor_heedless {α : Type} {post : α → Prop} (process : Proc α)
    (holds : process.Ensures Minor post) : process.Ensures Heedless post :=
  Proc.ensures_mono process holds (fun _ minor => minor.2) fun _ remains => remains

theorem minor_stamp : Minor .stamp := ⟨.stamp, rfl⟩

theorem minor_look : Minor .cancelled := ⟨.look, rfl⟩

theorem minor_warn (text : String) : Minor (.log ⟨.warning, text⟩) := ⟨.warn text, rfl⟩

theorem decide_ensures (approver : Approver) (request : ApprovalRequest) :
    (approver.decide request).Ensures OfCalls fun _ => True := by
  rw [Approver.decide]
  cases approver.ruling with
  | decided decision =>
      apply Proc.ensures_after _ _ (.rule decision request)
      intro reply
      cases reply <;> trivial
  | ask desk =>
      apply Proc.ensures_after _ _ (.approve desk request)
      intro reply
      cases reply <;> trivial

theorem run_tool_ensures (tool : Tool) (arguments : Json) :
    (runTool tool arguments).Ensures OfCalls fun _ => True := by
  apply Proc.ensures_after _ _ (.execute tool arguments)
  intro reply
  cases reply <;> trivial

theorem execute_tool_ensures (approver : Approver) (tool : Tool) (arguments : Json)
    (description : String) :
    (executeTool approver tool arguments description).Ensures OfCalls fun _ => True := by
  apply Proc.ensures_bind _ _ (decide_ensures approver _)
  intro decision _
  match decision with
  | .error _ => trivial
  | .ok (.denied _) => trivial
  | .ok .approved => exact run_tool_ensures tool arguments

def OnlyCancelled {α : Type} (outcome : Except Error α) : Prop :=
  ∀ e, outcome = .error e → e = .cancelled

theorem only_cancelled_ok {α : Type} (value : α) : OnlyCancelled (.ok value) := by
  intro e impossible
  cases impossible

theorem only_cancelled_error {α : Type} : OnlyCancelled (.error .cancelled : Except Error α) := by
  intro e same
  exact (Except.error.inj same).symm

variable (setup : LoopSetup)

def LoopSetup.settle (setup : LoopSetup) (result : Except ToolError String) :
    Proc (Except Error String) :=
  match result with
  | .ok output => return .ok (Text.truncate output setup.toolOutputCap)
  | .error .cancelled => return .error .cancelled
  | .error e => do
    if ← Proc.cancelled then return .error .cancelled
    else
      Proc.warn "Tool execution failed"
      return .ok (failureText e)

theorem run_call_settles (tool : Tool) (arguments : Json) (call : ToolCall) :
    setup.runCall tool arguments call = (do
      setup.settle (← executeTool setup.approver tool arguments (describeToolCall call))) := rfl

theorem settle_failure (e : ToolError) (other : e ≠ .cancelled) :
    setup.settle (.error e) = (do
      if ← Proc.cancelled then return .error .cancelled
      else
        Proc.warn "Tool execution failed"
        return .ok (failureText e)) := by
  cases e with
  | cancelled => exact absurd rfl other
  | _ => rfl

theorem settle_ensures (result : Except ToolError String) :
    (setup.settle result).Ensures Minor OnlyCancelled := by
  cases result with
  | ok output => exact only_cancelled_ok _
  | error e =>
      by_cases cancelled : e = .cancelled
      · rw [cancelled]
        exact only_cancelled_error
      · rw [settle_failure setup e cancelled]
        apply Proc.ensures_after _ _ minor_look
        intro late
        cases late with
        | true => exact only_cancelled_error
        | false => exact Proc.ensures_after _ _ (minor_warn _) fun _ => only_cancelled_ok _

theorem run_call_ensures (tool : Tool) (arguments : Json) (call : ToolCall) :
    (setup.runCall tool arguments call).Ensures OfCalls OnlyCancelled := by
  rw [run_call_settles]
  apply Proc.ensures_bind _ _ (execute_tool_ensures setup.approver tool arguments _)
  exact fun result _ => minor_of_calls _ (settle_ensures setup result)

theorem answer_call_ensures (call : ToolCall) :
    (setup.answerCall call).Ensures OfCalls OnlyCancelled := by
  rw [LoopSetup.answerCall]
  cases setup.tools.lookup call.name with
  | none => exact Proc.ensures_after _ _ (.warn _) fun _ => only_cancelled_ok _
  | some tool =>
      dsimp only
      cases parseArguments call.arguments with
      | error e => exact Proc.ensures_after _ _ (.warn _) fun _ => only_cancelled_ok _
      | ok arguments => exact run_call_ensures setup tool arguments call

-- What was appended answers the calls up to the one that ended the run.
structure Answered (calls : List ToolCall) (history : List Message)
    (outcome : List Message × Option Error) : Prop where
  appended : ∃ results answered rest, calls = answered ++ rest ∧
    outcome.1 = history ++ results ∧ List.Forall₂ ResultOf answered results ∧
      (outcome.2 = none → rest = [])
  onlyCancelled : ∀ e, outcome.2 = some e → e = .cancelled

theorem answer_calls_ensures (calls : List ToolCall) (history : List Message) :
    (setup.answerCalls calls history).Ensures OfCalls (Answered calls history) := by
  induction calls generalizing history with
  | nil =>
      exact ⟨⟨[], [], [], rfl, (List.append_nil history).symm, .nil, fun _ => rfl⟩, by simp⟩
  | cons call rest ih =>
      apply Proc.ensures_bind _ _ (answer_call_ensures setup call)
      intro outcome onlyCancelled
      cases outcome with
      | error e =>
          refine ⟨⟨[], [], call :: rest, rfl, (List.append_nil history).symm, .nil, by simp⟩, ?_⟩
          intro other same
          exact Option.some.inj same ▸ onlyCancelled e rfl
      | ok text =>
          apply Proc.ensures_after _ _ .stamp
          intro stamp
          refine Proc.ensures_mono _ (ih (history ++ [.toolResult stamp call.id text]))
            (fun _ may => may) ?_
          intro after answered
          obtain ⟨results, done, left, split, appended, complete, all⟩ := answered.appended
          refine ⟨⟨.toolResult stamp call.id text :: results, call :: done, left, ?_, ?_, ?_, all⟩,
            answered.onlyCancelled⟩
          · rw [split, List.cons_append]
          · rw [appended, List.append_assoc, List.singleton_append]
          · exact .cons ⟨rfl, rfl⟩ complete

end Dialogue
