import Dialogue.Proofs.Agent.Course
import Dialogue.Proofs.Process.Steady

set_option autoImplicit false

namespace Dialogue

open Event (Steady)

theorem decide_steady (approver : Approver) (request : ApprovalRequest) :
    (approver.decide request).Given Steady (· ≠ .error .cancelled) := by
  rw [Approver.decide]
  cases approver.ruling with
  | decided decision =>
      apply Proc.given_after
      intro reply steady
      cases reply with
      | interrupted => cases steady.uninterrupted
      | finished _ => exact Proc.given_pure _ (by rintro ⟨⟩)
  | ask desk =>
      apply Proc.given_after
      intro reply steady
      cases reply with
      | interrupted => cases steady.uninterrupted
      | finished outcome =>
          rintro rfl
          cases steady.unreported

theorem run_tool_steady (tool : Tool) (arguments : Json) :
    (runTool tool arguments).Given Steady (· ≠ .error .cancelled) := by
  apply Proc.given_after
  intro reply steady
  cases reply with
  | interrupted => cases steady.uninterrupted
  | finished outcome =>
      rintro rfl
      cases steady.unreported

theorem execute_tool_steady (approver : Approver) (tool : Tool) (arguments : Json)
    (description : String) :
    (executeTool approver tool arguments description).Given Steady (· ≠ .error .cancelled) := by
  apply Proc.given_bind _ _ (decide_steady approver _)
  intro decision other
  match decision with
  | .error e =>
      apply Proc.given_pure
      rintro ⟨⟩
      exact other rfl
  | .ok (.denied reason) => exact Proc.given_pure _ (by rintro ⟨⟩)
  | .ok .approved => exact run_tool_steady tool arguments

def Told (outcome : Except Error String) : Prop := ∃ text, outcome = .ok text

variable (setup : LoopSetup)

theorem settle_steady (result : Except ToolError String) (other : result ≠ .error .cancelled) :
    (setup.settle result).Given Steady Told := by
  cases result with
  | ok output => exact ⟨_, rfl⟩
  | error e =>
      rw [settle_failure setup e fun same => other (same ▸ rfl)]
      apply Proc.given_after
      intro cancelled steady
      cases cancelled with
      | true => exact absurd rfl steady.unseen
      | false => exact fun _ _ => ⟨_, rfl⟩

theorem answer_call_steady (call : ToolCall) : (setup.answerCall call).Given Steady Told := by
  rw [LoopSetup.answerCall]
  cases setup.tools.lookup call.name with
  | none => exact fun _ _ => ⟨_, rfl⟩
  | some tool =>
      dsimp only
      cases parseArguments call.arguments with
      | error e => exact fun _ _ => ⟨_, rfl⟩
      | ok arguments =>
          dsimp only
          rw [run_call_settles]
          exact Proc.given_bind _ _ (execute_tool_steady setup.approver tool arguments _)
            fun result other => settle_steady setup result other

theorem answer_calls_steady (calls : List ToolCall) (history : List Message) :
    (setup.answerCalls calls history).Given Steady (·.2 = none) := by
  induction calls generalizing history with
  | nil => rfl
  | cons call rest ih =>
      apply Proc.given_bind _ _ (answer_call_steady setup call)
      rintro _ ⟨text, rfl⟩
      exact Proc.given_after _ _ fun stamp _ => ih (history ++ [.toolResult stamp call.id text])

def LoopResult.Uncancelled (result : LoopResult) : Prop := result.outcome ≠ .error .cancelled

theorem call_round_steady (left : Nat) (history : List Message) (usage : Option TokenUsage)
    (response : ChatResponse)
    (rounds : ∀ history usage,
      (setup.runRounds left history usage).Given Steady LoopResult.Uncancelled) :
    (setup.callRound left history usage response).Given Steady LoopResult.Uncancelled := by
  apply Proc.given_bind _ _ (Proc.given_of_ensures _ (assigned_calls_heedless response))
  intro calls _
  apply Proc.given_after
  intro stamp _
  apply Proc.given_bind _ _ (answer_calls_steady setup calls _)
  rintro ⟨after, failure⟩ all
  dsimp only at all
  subst all
  exact rounds after usage

theorem rounds_steady (left : Nat) (history : List Message) (usage : Option TokenUsage) :
    (setup.runRounds left history usage).Given Steady LoopResult.Uncancelled := by
  induction left generalizing history usage with
  | zero => exact Proc.given_after _ _ fun _ _ => Proc.given_pure _ (by rintro ⟨⟩)
  | succ left ih =>
      rw [run_rounds_succ]
      apply Proc.given_after
      intro reply steady
      match reply with
      | .interrupted => cases steady.uninterrupted
      | .finished (.error e) => exact Proc.given_pure _ (by rintro ⟨⟩)
      | .finished (.ok response) =>
          dsimp only
          cases response.toolCalls.isEmpty with
          | true =>
              apply Proc.given_bind _ _ (Proc.given_of_ensures _
                (append_answer_ensures response history))
              exact fun _ _ => Proc.given_pure _ (by rintro ⟨⟩)
          | false => exact call_round_steady setup left history _ response ih

theorem with_total_uncancelled (result : LoopResult) :
    (ConversationLoop.withTotal result).Uncancelled ↔ result.Uncancelled := by
  obtain ⟨history, usage, outcome⟩ := result
  cases outcome with
  | error e => exact Iff.rfl
  | ok response => constructor <;> rintro _ ⟨⟩

theorem loop_steady (loop : ConversationLoop) (systemPrompt : String) (history : List Message) :
    (loop.run systemPrompt history).Given Steady LoopResult.Uncancelled := by
  rw [ConversationLoop.run]
  cases configured : loop.setup systemPrompt with
  | error e =>
      rw [ConversationLoop.setup] at configured
      split at configured <;> cases configured <;> exact Proc.given_pure _ (by rintro ⟨⟩)
  | ok setup =>
      apply Proc.given_bind _ _ (rounds_steady setup setup.rounds history none)
      intro result uncancelled
      apply Proc.given_of_ensures
      apply Proc.ensures_mono _ (total_heedless loop result) fun _ heedless => heedless
      rintro _ rfl
      exact (with_total_uncancelled result).mpr uncancelled

theorem undisturbed_uncancelled {σ : Type} (world : World σ) (loop : ConversationLoop)
    (systemPrompt : String) (history : List Message) (state : σ)
    (undisturbed : Undisturbed world (world.run (loop.run systemPrompt history) state)) :
    (world.run (loop.run systemPrompt history) state).value.Uncancelled :=
  Proc.given_run world _ state (loop_steady loop systemPrompt history)
    (world.undisturbed_steady _ state undisturbed)

end Dialogue
