import Dialogue.Proofs.Agent.Rounds
import Dialogue.Proofs.Process.Likeness

set_option autoImplicit false

namespace Dialogue

def Effect.Plain (effect : Effect) : Prop := effect.isPlain = true

theorem decide_plain (approver : Approver) (request : ApprovalRequest) :
    (approver.decide request).Ensures Effect.Plain fun _ => True := by
  rw [Approver.decide]
  cases approver.ruling with
  | decided decision =>
      refine Proc.ensures_after _ _ (by rfl) fun reply => ?_
      cases reply <;> trivial
  | ask desk =>
      refine Proc.ensures_after _ _ (by rfl) fun reply => ?_
      cases reply <;> trivial

theorem execute_tool_plain (approver : Approver) (tool : Tool) (arguments : Json)
    (description : String) :
    (executeTool approver tool arguments description).Ensures Effect.Plain fun _ => True := by
  apply Proc.ensures_bind _ _ (decide_plain approver _)
  intro decision _
  match decision with
  | .error _ => trivial
  | .ok (.denied _) => trivial
  | .ok .approved =>
      refine Proc.ensures_after _ _ (by rfl) fun reply => ?_
      cases reply <;> trivial

variable (setup : LoopSetup) {names : Renaming}

theorem settle_plain (result : Except ToolError String) :
    (setup.settle result).Ensures Effect.Plain fun _ => True := by
  cases result with
  | ok output => trivial
  | error e =>
      by_cases cancelled : e = .cancelled
      · rw [cancelled]
        trivial
      · rw [settle_failure setup e cancelled]
        refine Proc.ensures_after _ _ (by rfl) fun late => ?_
        cases late with
        | true => trivial
        | false => exact Proc.ensures_after _ _ (by rfl) fun _ => trivial

theorem answer_call_plain (call : ToolCall) :
    (setup.answerCall call).Ensures Effect.Plain fun _ => True := by
  rw [LoopSetup.answerCall]
  cases setup.tools.lookup call.name with
  | none => exact Proc.ensures_after _ _ (by rfl) fun _ => trivial
  | some tool =>
      dsimp only
      cases parseArguments call.arguments with
      | error e => exact Proc.ensures_after _ _ (by rfl) fun _ => trivial
      | ok arguments =>
          dsimp only
          rw [run_call_settles]
          apply Proc.ensures_bind _ _ (execute_tool_plain setup.approver tool arguments _)
          exact fun result _ => settle_plain setup result

theorem answer_call_renamed (call : ToolCall) :
    setup.answerCall (call.renamed names) = setup.answerCall call := rfl

variable {first second : List Message}

def AnsweredAlike (names : Renaming) (outcome also : List Message × Option Error) : Prop :=
  Alike names outcome.1 also.1 ∧ outcome.2 = also.2

theorem answer_calls_alike (calls : List ToolCall) (alike : Alike names first second) :
    Proc.Alike names (AnsweredAlike names) (setup.answerCalls calls first)
      (setup.answerCalls (calls.map (ToolCall.renamed names)) second) := by
  induction calls generalizing first second with
  | nil => exact alike_pure ⟨alike, rfl⟩
  | cons call rest ih =>
      rw [List.map_cons, LoopSetup.answerCalls, LoopSetup.answerCalls, answer_call_renamed]
      apply alike_bind (alike_self _ (answer_call_plain setup call))
      rintro outcome _ rfl
      cases outcome with
      | error e => exact alike_pure ⟨alike, rfl⟩
      | ok text =>
          exact alike_stamp fun stamp also => ih (alike_append alike rfl)

theorem report_replaced_alike (assigned : List AssignedCall) :
    Proc.Alike names Eq (LoopSetup.reportReplaced assigned)
      (LoopSetup.reportReplaced (assigned.map fun one =>
        ⟨one.call.renamed names, one.replaced⟩)) := by
  induction assigned with
  | nil => exact alike_pure rfl
  | cons one rest ih =>
      rw [List.map_cons, LoopSetup.reportReplaced, LoopSetup.reportReplaced]
      cases one.replaced with
      | true => exact alike_plain rfl fun _ => ih
      | false => exact ih

theorem assigned_calls_alike (calls : List ToolCall) :
    Proc.Alike names (fun first second => second = first.map (ToolCall.renamed names))
      (LoopSetup.assignedCalls calls)
      (LoopSetup.assignedCalls (calls.map (ToolCall.renamed names))) := by
  refine alike_call_ids fun supply => ?_
  have assigned : assignCallIds (names.rename ∘ supply) (calls.map (ToolCall.renamed names)) =
      (assignCallIds supply calls).map fun one => ⟨one.call.renamed names, one.replaced⟩ :=
    assign_renamed names supply 0 [] calls
  dsimp only
  rw [assigned]
  apply alike_bind (report_replaced_alike (assignCallIds supply calls))
  rintro _ _ -
  exact alike_pure (by simp [Function.comp_def])

structure LoopResult.Alike (names : Renaming) (result also : LoopResult) : Prop where
  history : Dialogue.Alike names result.history also.history
  usage : result.usage = also.usage
  outcome : also.outcome = result.outcome.map (ChatResponse.renamed names)

theorem append_answer_alike (response : ChatResponse) (alike : Alike names first second) :
    Proc.Alike names (Alike names) (LoopSetup.appendAnswer response first)
      (LoopSetup.appendAnswer (response.renamed names) second) := by
  rw [LoopSetup.appendAnswer, LoopSetup.appendAnswer, ChatResponse.renamed]
  cases response.content.isEmpty with
  | true => exact alike_pure alike
  | false => exact alike_stamp fun stamp also => alike_pure (alike_append alike rfl)

theorem rounds_alike (left : Nat) (usage : Option TokenUsage) (alike : Alike names first second) :
    Proc.Alike names (LoopResult.Alike names) (setup.runRounds left first usage)
      (setup.runRounds left second usage) := by
  induction left generalizing first second usage with
  | zero => exact alike_plain rfl fun _ => alike_pure ⟨alike, rfl, rfl⟩
  | succ left ih =>
      rw [run_rounds_succ, run_rounds_succ]
      refine alike_chat setup.provider (.turn _ _ _ alike) fun reply => ?_
      match reply with
      | .interrupted => exact alike_pure ⟨alike, rfl, rfl⟩
      | .finished (.error e) => exact alike_pure ⟨alike, rfl, rfl⟩
      | .finished (.ok response) =>
          have called : (response.renamed names).toolCalls.isEmpty = response.toolCalls.isEmpty :=
            List.isEmpty_map
          simp only [Raced.renamed, called]
          cases response.toolCalls.isEmpty with
          | true =>
              apply alike_bind (append_answer_alike response alike)
              intro history also histories
              exact alike_pure ⟨histories, rfl, rfl⟩
          | false =>
              apply alike_bind (assigned_calls_alike response.toolCalls)
              rintro calls _ rfl
              refine alike_stamp fun stamp also => ?_
              apply alike_bind (answer_calls_alike setup calls (alike_append alike
                (alike_issuing stamp also response.content calls)))
              rintro ⟨history, failure⟩ ⟨other, _⟩ ⟨histories, rfl⟩
              cases failure with
              | some e => exact alike_pure ⟨histories, rfl, rfl⟩
              | none => exact ih _ histories

theorem loop_alike (loop : ConversationLoop) (systemPrompt : String)
    (alike : Alike names first second) :
    Proc.Alike names (LoopResult.Alike names) (loop.run systemPrompt first)
      (loop.run systemPrompt second) := by
  rw [ConversationLoop.run, ConversationLoop.run]
  cases loop.setup systemPrompt with
  | error e => exact alike_pure ⟨alike, rfl, rfl⟩
  | ok setup =>
      apply alike_bind (rounds_alike setup setup.rounds none alike)
      rintro ⟨history, usage, outcome⟩ ⟨other, _, _⟩ ⟨histories, rfl, rfl⟩
      have totals : LoopResult.Alike names (ConversationLoop.withTotal ⟨history, usage, outcome⟩)
          (ConversationLoop.withTotal
            ⟨other, usage, outcome.map (ChatResponse.renamed names)⟩) :=
        ⟨histories, rfl, by cases outcome <;> rfl⟩
      cases loop.reportsUsage with
      | true => exact alike_plain rfl fun _ => alike_pure totals
      | false => exact alike_pure totals

end Dialogue
