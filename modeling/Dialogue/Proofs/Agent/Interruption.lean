import Dialogue.Proofs.Agent.Course

set_option autoImplicit false

namespace Dialogue

def EndsCancelled {α : Type} (outcome : Except Error α) : Prop := outcome = .error .cancelled

theorem decide_heeds (approver : Approver) (request : ApprovalRequest) :
    (approver.decide request).Heeds (· = .error .cancelled) := by
  rw [Approver.decide]
  cases approver.ruling with
  | decided decision =>
      apply Proc.heeds_after
      · rintro _ ⟨⟩
        rfl
      · intro reply
        cases reply <;> trivial
  | ask desk =>
      apply Proc.heeds_after
      · rintro _ ⟨⟩
        rfl
      · intro reply
        cases reply <;> trivial

theorem run_tool_heeds (tool : Tool) (arguments : Json) :
    (runTool tool arguments).Heeds (· = .error .cancelled) := by
  apply Proc.heeds_after
  · rintro _ ⟨⟩
    rfl
  · intro reply
    cases reply <;> trivial

theorem execute_tool_heeds (approver : Approver) (tool : Tool) (arguments : Json)
    (description : String) :
    (executeTool approver tool arguments description).Heeds (· = .error .cancelled) := by
  apply Proc.heeds_bind _ _ (decide_heeds approver _)
  · rintro _ rfl
    rfl
  · intro decision
    match decision with
    | .error _ => trivial
    | .ok (.denied _) => trivial
    | .ok .approved => exact run_tool_heeds tool arguments

variable (setup : LoopSetup)

theorem run_call_heeds (tool : Tool) (arguments : Json) (call : ToolCall) :
    (setup.runCall tool arguments call).Heeds EndsCancelled := by
  rw [run_call_settles]
  apply Proc.heeds_bind _ _ (execute_tool_heeds setup.approver tool arguments _)
  · rintro _ rfl
    rfl
  · exact fun result => Proc.heeds_of_heedless _ (minor_heedless _ (settle_ensures setup result))

theorem answer_call_heeds (call : ToolCall) : (setup.answerCall call).Heeds EndsCancelled := by
  rw [LoopSetup.answerCall]
  cases setup.tools.lookup call.name with
  | none => exact Proc.heeds_after_heedless _ _ (by rfl) fun _ => trivial
  | some tool =>
      dsimp only
      cases parseArguments call.arguments with
      | error e => exact Proc.heeds_after_heedless _ _ (by rfl) fun _ => trivial
      | ok arguments => exact run_call_heeds setup tool arguments call

theorem answer_calls_heed (calls : List ToolCall) (history : List Message) :
    (setup.answerCalls calls history).Heeds fun outcome => outcome.2 = some .cancelled := by
  induction calls generalizing history with
  | nil => trivial
  | cons call rest ih =>
      apply Proc.heeds_bind _ _ (answer_call_heeds setup call)
      · rintro _ rfl
        rfl
      · intro outcome
        cases outcome with
        | error e => trivial
        | ok text => exact Proc.heeds_after_heedless _ _ (by rfl) fun _ => ih _

def LoopResult.Cancelled (result : LoopResult) : Prop := EndsCancelled result.outcome

theorem rounds_heed (left : Nat) (history : List Message) (usage : Option TokenUsage) :
    (setup.runRounds left history usage).Heeds LoopResult.Cancelled := by
  induction left generalizing history usage with
  | zero => exact Proc.heeds_after_heedless _ _ (by rfl) fun _ => trivial
  | succ left ih =>
      rw [run_rounds_succ]
      apply Proc.heeds_after
      · rintro _ ⟨⟩
        rfl
      · intro reply
        match reply with
        | .interrupted => trivial
        | .finished (.error e) => trivial
        | .finished (.ok response) =>
            dsimp only
            cases response.toolCalls.isEmpty with
            | true =>
                apply Proc.heeds_bind_heedless _ _
                  (minor_heedless _ (append_answer_ensures response history))
                exact fun _ => trivial
            | false =>
                apply Proc.heeds_bind_heedless _ _ (assigned_calls_heedless response)
                intro calls
                refine Proc.heeds_after_heedless _ _ (by rfl) fun stamp => ?_
                apply Proc.heeds_bind _ _ (answer_calls_heed setup calls _)
                · rintro ⟨appended, failure⟩ cancelled
                  dsimp only at cancelled
                  subst cancelled
                  rfl
                · intro after
                  match after with
                  | (_, some _) => trivial
                  | (history, none) => exact ih history _

theorem loop_heeds (loop : ConversationLoop) (systemPrompt : String) (history : List Message) :
    (loop.run systemPrompt history).Heeds LoopResult.Cancelled := by
  rw [ConversationLoop.run]
  cases loop.setup systemPrompt with
  | error e => trivial
  | ok setup =>
      apply Proc.heeds_bind _ _ (rounds_heed setup setup.rounds history none)
      · intro result cancelled
        apply Proc.ensures_mono _ (total_heedless loop result) fun _ heedless => heedless
        rintro _ rfl
        rw [LoopResult.Cancelled, EndsCancelled, ConversationLoop.withTotal, cancelled]
        rfl
      · exact fun result => Proc.heeds_of_heedless _ (total_heedless loop result)

end Dialogue
