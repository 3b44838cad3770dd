import Dialogue.Proofs.Agent.Interruption
import Dialogue.Proofs.Process.Script
import Dialogue.Proofs.Session.Requests

set_option autoImplicit false

namespace Dialogue

variable {σ : Type}

theorem summarize_heeds (provider : Provider) (messages : List Message) (maxTokens : Nat) :
    (summarize provider messages maxTokens).Heeds EndsCancelled := by
  refine Proc.heeds_after_heedless _ _ (by rfl) fun stamp => ?_
  apply Proc.heeds_after
  · rintro _ ⟨⟩
    rfl
  · exact fun _ => trivial

theorem compact_heeds (compactor : Compactor) (systemPrompt : String) (messages : List Message) :
    (compactor.compact systemPrompt messages).Heeds EndsCancelled := by
  rw [Compactor.compact]
  cases compactor.cut? systemPrompt messages with
  | none => trivial
  | some start =>
      apply Proc.heeds_bind _ _ (summarize_heeds _ _ _)
      · rintro _ rfl
        rfl
      · intro outcome
        cases outcome with
        | ok summary => exact Proc.heeds_after_heedless _ _ (by rfl) fun _ => trivial
        | error e =>
            dsimp only
            cases e.isCancelled with
            | true => trivial
            | false =>
                refine Proc.heeds_after_heedless _ _ (by rfl) fun cancelled => ?_
                cases cancelled with
                | true => trivial
                | false => exact Proc.heeds_after_heedless _ _ (by rfl) fun _ => trivial

variable (conversation : Conversation)

theorem prepare_heeds (content : String) (stamp : Stamp) :
    (conversation.prepare content stamp).Heeds EndsCancelled := by
  rw [Conversation.prepare]
  cases (conversation.working stamp content).changed with
  | true => exact Proc.heeds_after_heedless _ _ (by rfl) fun _ => compact_heeds _ _ _
  | false => exact compact_heeds _ _ _

theorem answer_heeds (prepared : List Message) :
    (conversation.answer prepared).Heeds (· = ⟨conversation, .error .cancelled⟩) := by
  apply Proc.heeds_bind _ _ (loop_heeds _ _ _)
  · rintro ⟨history, usage, outcome⟩ cancelled
    rw [LoopResult.Cancelled, EndsCancelled] at cancelled
    dsimp only at cancelled
    subst cancelled
    rfl
  · rintro ⟨history, usage, outcome⟩
    cases outcome with
    | error e => trivial
    | ok response =>
        apply Proc.heeds_bind_heedless _ _ (persist_heedless _)
        intro _
        cases response.content.isEmpty with
        | true => trivial
        | false => exact Proc.heeds_of_heedless _ (reply_heedless _ _)

theorem turn_heeds (content : String) :
    (conversation.turn content).Heeds (· = ⟨conversation, .error .cancelled⟩) := by
  rw [turn_prepared]
  refine Proc.heeds_after_heedless _ _ (by rfl) fun stamp => ?_
  apply Proc.heeds_bind _ _ (prepare_heeds conversation content stamp)
  · rintro _ rfl
    rfl
  · intro prepared
    cases prepared with
    | error e => trivial
    | ok compacted => exact answer_heeds conversation _

theorem handle_heeds (content : String) :
    (conversation.handle content).Heeds (· = ⟨conversation, .error .cancelled⟩) := by
  rw [Conversation.handle]
  cases conversation.isReset content with
  | true => exact Proc.heeds_of_heedless _ (reset_heedless conversation)
  | false => exact turn_heeds conversation content

-- The token is cancelled at `now`, that is before the turn or by or during what was performed last.
theorem no_action_after_cancellation (world : World σ) (content : String) (state : σ)
    (before after : List (Moment σ)) (now : Moment σ)
    (split : world.timeline (conversation.handle content) state = before ++ now :: after)
    (cancelled : world.cancelled now.state = true) :
    (∀ later ∈ now :: after, later.effect.isAction = true →
      (world.outcome later).started = false) ∧
    ∀ between attempt rest, now :: after = between ++ attempt :: rest →
      attempt.effect.isAction = true →
        (∀ later ∈ rest, later.effect.isAction = false) ∧
          (world.run (conversation.handle content) state).value =
            ⟨conversation, .error .cancelled⟩ := by
  have stays := world.cancelled_onward _ state before after now split cancelled
  have racing : ∀ effect : Effect, effect.isAction = true → ¬ effect.Heedless := by
    intro effect action heedless
    rw [effect.heedless_inactive heedless] at action
    cases action
  constructor
  · intro later member action
    rw [World.outcome, world.started_unless_cancelled _ _ (racing _ action), stays later member]
    rfl
  · intro between attempt rest place action
    have attempted : attempt ∈ now :: after := by simp [place]
    have whole : world.timeline (conversation.handle content) state =
        (before ++ between) ++ attempt :: rest := by rw [split, place, List.append_assoc]
    obtain ⟨idle, value⟩ := Proc.heeds_last world _ state (handle_heeds conversation content) _ _
      attempt whole (racing _ action) (stays attempt attempted)
    exact ⟨fun later member => later.effect.heedless_inactive (idle later member), value⟩

def cancellingTool : Script where
  replies := [.ok (.ofToolCalls [⟨"a", "read", ""⟩, ⟨"b", "guess", ""⟩, ⟨"c", "read", ""⟩])]
  toolsCancel := true

-- The tool is run once. After that the unknown tool is still reported to the model, and the third
-- call, which would be put to the approver, ends the turn.
theorem cancelling_tool_ends_turn :
    ∃ before now after, scripted.timeline (reader.handle "Read it.") cancellingTool =
        before ++ now :: after ∧
      scripted.cancelled now.state = true ∧
      (before.filter (·.effect.isJournaled)).length = 2 ∧
      (∀ later ∈ now :: after, later.effect.isAction = true →
        (scripted.outcome later).started = false) ∧
      (scripted.run (reader.handle "Read it.") cancellingTool).value =
        ⟨reader, .error .cancelled⟩ := by
  have moments : ∃ before now between attempt,
      scripted.timeline (reader.handle "Read it.") cancellingTool =
        before ++ now :: (between ++ [attempt]) ∧
      scripted.cancelled now.state = true ∧
      (before.filter (·.effect.isJournaled)).length = 2 ∧ attempt.effect.isAction = true :=
    ⟨(scripted.timeline (reader.handle "Read it.") cancellingTool).take 6, _, [_, _], _,
      rfl, rfl, rfl, rfl⟩
  obtain ⟨before, now, between, attempt, split, cancelled, journaled, action⟩ := moments
  obtain ⟨unstarted, ends⟩ := no_action_after_cancellation reader scripted "Read it."
    cancellingTool before (between ++ [attempt]) now split cancelled
  exact ⟨before, now, _, split, cancelled, journaled, unstarted,
    (ends (now :: between) attempt [] rfl action).2⟩

end Dialogue
