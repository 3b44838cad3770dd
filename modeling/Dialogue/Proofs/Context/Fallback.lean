import Dialogue.Proofs.Context.Compaction
import Dialogue.Proofs.Process.Script

set_option autoImplicit false

namespace Dialogue

variable {σ : Type} (world : World σ)

def Withdrawn (trace : List Event) : Prop :=
  ∃ provider request, (⟨.chat provider request, .finished (.error .cancelled)⟩ : Event) ∈ trace

-- No other answer makes for a failure that looks like a cancellation.
theorem of_reply_failed (reply : Effect.Reply) (e : Error)
    (failed : Summary.ofReply (.finished reply) = .error e) :
    e.isCancelled = true ↔ reply = .error .cancelled := by
  cases reply with
  | error cause =>
      cases failed
      cases cause <;> simp [Error.isCancelled]
  | ok response =>
      rw [Summary.ofReply] at failed
      split at failed
      · cases failed
        simp [Error.isCancelled, Summary.emptyReply]
      · cases failed

variable (compactor : Compactor) (systemPrompt : String) (messages : List Message)

theorem settle_running (recent : List Message) (e : Error) (state : σ)
    (other : e.isCancelled = false) (running : world.cancelled state = false) :
    (world.run (Compactor.settle recent (.error e)) state).value = .ok recent := by
  rw [Compactor.settle, other]
  simp only [Bool.false_eq_true, if_false, World.run_bind, World.run_look, Run.andThen, running]
  rfl

theorem failure_withdrawn (state : σ) (e : Error)
    (running : world.cancelled
      (world.run (compactor.compact systemPrompt messages) state).state = false)
    (failed : (world.run (compactor.compact systemPrompt messages) state).value = .error e) :
    Withdrawn (world.run (compactor.compact systemPrompt messages) state).trace := by
  cases cut : compactor.cut? systemPrompt messages with
  | none =>
      rw [Compactor.compact, cut] at failed
      cases failed
  | some start =>
      rw [compact_settles compactor systemPrompt messages start cut, World.run_bind, Proc.stamp,
        World.run_heedless world .stamp state rfl (by simp)] at running failed ⊢
      simp only [Run.andThen, World.run_bind] at running failed ⊢
      generalize (world.respond .stamp state).1 = asked at *
      generalize (world.respond .stamp state).2 = asking at *
      have awake := world.run_running _ _ (world.run_running _ _ running)
      have interrupts := world.interrupted_cancelled
        (.chat compactor.provider (compactor.summaryRequest messages start asked)) asking
      rw [Proc.chat, World.run_racing world
        (.chat compactor.provider (compactor.summaryRequest messages start asked)) asking
        .interrupted rfl] at running failed ⊢
      simp only [awake, Bool.false_eq_true, if_false] at running failed ⊢
      generalize (world.respond _ asking).1 = reply at *
      generalize (world.respond _ asking).2 = replied at *
      have awake := world.run_running _ _ running
      cases reply with
      | interrupted =>
          rw [interrupts rfl] at awake
          cases awake
      | finished reply =>
          cases outcome : Summary.ofReply (.finished reply) with
          | ok text =>
              rw [outcome] at failed
              cases failed
          | error cause =>
              cases looks : cause.isCancelled with
              | true =>
                  have withdrawn := (of_reply_failed reply cause outcome).mp looks
                  exact ⟨compactor.provider, compactor.summaryRequest messages start asked,
                    by simp [withdrawn]⟩
              | false =>
                  rw [outcome, settle_running world _ cause replied looks awake] at failed
                  cases failed

theorem withdrawn_fails (trace : List Event) (value : Except Error (List Message))
    (compaction : compactor.Compaction systemPrompt messages trace value)
    (withdrawn : Withdrawn trace) : value = .error .cancelled := by
  obtain ⟨provider, request, member⟩ := withdrawn
  cases compaction with
  | untouched within => cases member
  | summarized asked made response cut told => simp [Compactor.summaryReply] at member
  | dropped asked reply e cut failed other =>
      have same : .finished (.error .cancelled) = reply := by
        simp only [Compactor.summaryReply, List.mem_cons, Event.mk.injEq, reduceCtorEq,
          Effect.chat.injEq, false_and, List.not_mem_nil, or_false, false_or] at member
        exact eq_of_heq member.2
      rw [← same] at failed
      cases failed
      cases other
  | cancelled asked reply cut => rfl

theorem compaction_fails_only_if_withdrawn (state : σ)
    (running : world.cancelled
      (world.run (compactor.compact systemPrompt messages) state).state = false) :
    compactor.Compaction systemPrompt messages
      (world.run (compactor.compact systemPrompt messages) state).trace
      (world.run (compactor.compact systemPrompt messages) state).value ∧
    (¬ Withdrawn (world.run (compactor.compact systemPrompt messages) state).trace →
      ∃ kept, (world.run (compactor.compact systemPrompt messages) state).value = .ok kept) ∧
    (Withdrawn (world.run (compactor.compact systemPrompt messages) state).trace →
      (world.run (compactor.compact systemPrompt messages) state).value = .error .cancelled) := by
  have compaction := run_compact world compactor systemPrompt messages state
  refine ⟨compaction, fun answered => ?_, withdrawn_fails compactor systemPrompt messages _ _
    compaction⟩
  cases value : (world.run (compactor.compact systemPrompt messages) state).value with
  | ok kept => exact ⟨kept, rfl⟩
  | error e =>
      exact absurd (failure_withdrawn world compactor systemPrompt messages state e running value)
        answered

def narrow : Compactor where
  provider := ⟨"model"⟩
  maxContextTokens := 1
  recentMessageCount := 1

def twoMessages : List Message := [.user ⟨"0", .epoch⟩ "hello", .user ⟨"1", .epoch⟩ "world"]

theorem failed_summary_keeps_window :
    scripted.cancelled (scripted.run (narrow.compact "" twoMessages) {}).state = false ∧
      (∃ kept, (scripted.run (narrow.compact "" twoMessages) {}).value = .ok kept) ∧
      (scripted.run (narrow.compact "" twoMessages) {}).value =
        .ok [.user ⟨"1", .epoch⟩ "world"] := by
  have running : scripted.cancelled (scripted.run (narrow.compact "" twoMessages) {}).state =
      false := rfl
  have answered : ¬ Withdrawn (scripted.run (narrow.compact "" twoMessages) {}).trace := by
    rintro ⟨provider, request, member⟩
    change _ ∈ [_, (⟨.chat _ _, .finished (.error (.network "down"))⟩ : Event), _] at member
    simp at member
  exact ⟨running, (compaction_fails_only_if_withdrawn scripted narrow "" twoMessages {}
    running).2.1 answered, rfl⟩

def withdrawing : Script where
  replies := [.error .cancelled]

theorem withdrawn_summary_fails :
    scripted.cancelled (scripted.run (narrow.compact "" twoMessages) withdrawing).state = false ∧
      (scripted.run (narrow.compact "" twoMessages) withdrawing).value = .error .cancelled :=
  ⟨rfl, rfl⟩

end Dialogue
