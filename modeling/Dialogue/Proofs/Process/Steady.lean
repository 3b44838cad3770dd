import Dialogue.Proofs.Process.Timeline

set_option autoImplicit false

namespace Dialogue

variable {σ α β : Type}

namespace Event

def reportsCancelled : Event → Bool
  | ⟨.approve _ _, .finished (.error .cancelled)⟩ => true
  | ⟨.execute _ _, .finished (.error .cancelled)⟩ => true
  | _ => false

structure Steady (event : Event) : Prop where
  unreported : event.reportsCancelled = false
  uninterrupted : event.effect.isInterruption event.answer = false
  unseen : event ≠ ⟨.cancelled, true⟩

theorem reported_heeds (event : Event) (reports : event.reportsCancelled = true) :
    ¬ event.effect.Heedless := by
  obtain ⟨effect, answer⟩ := event
  cases effect with
  | approve | execute => exact fun heedless => by cases heedless
  | _ => cases reports

end Event

theorem Effect.heedless_uninterrupted (effect : Effect) (answer : effect.Answer)
    (heedless : effect.Heedless) : effect.isInterruption answer = false := by
  rw [Bool.eq_false_iff]
  intro interrupted
  rw [Effect.Heedless, effect.interruption_refuses answer interrupted] at heedless
  cases heedless

namespace Proc

def Given (good : Event → Prop) (post : α → Prop) : Proc α → Prop
  | done value => post value
  | perform effect next => ∀ answer, good ⟨effect, answer⟩ → (next answer).Given good post

variable {good : Event → Prop} {post : α → Prop}

theorem given_pure (value : α) (meets : post value) : (pure value : Proc α).Given good post := meets

theorem given_after (effect : Effect) (next : effect.Answer → Proc α)
    (rest : ∀ answer, good ⟨effect, answer⟩ → (next answer).Given good post) :
    (Proc.effect effect >>= next).Given good post := rest

theorem given_bind {between : β → Prop} (process : Proc β) (next : β → Proc α)
    (first : process.Given good between)
    (rest : ∀ value, between value → (next value).Given good post) :
    (process >>= next).Given good post := by
  change (process.bind next).Given good post
  induction process with
  | done value => exact rest value first
  | perform effect after ih => exact fun answer answered => ih answer (first answer answered)

theorem given_of_ensures {allowed : Effect → Prop} (process : Proc α)
    (holds : process.Ensures allowed post) : process.Given good post := by
  induction process with
  | done value => exact holds
  | perform effect next ih => exact fun answer _ => ih answer (holds.2 answer)

theorem given_run (world : World σ) (process : Proc α) (state : σ)
    (holds : process.Given good post)
    (answered : ∀ moment ∈ world.timeline process state, good (world.event moment)) :
    post (world.run process state).value := by
  induction process generalizing state with
  | done value => exact holds
  | perform effect next ih =>
      rw [World.timeline, List.forall_mem_cons] at answered
      rw [World.run_perform]
      exact ih _ _ (holds _ answered.1) answered.2

end Proc

structure Undisturbed (world : World σ) (run : Run σ α) : Prop where
  running : world.cancelled run.state = false
  unreported : ∀ event ∈ run.trace, event.reportsCancelled = false

namespace World

variable (world : World σ)

-- A token that is not cancelled at the end is not cancelled in between.
theorem timeline_running (process : Proc α) (state : σ)
    (running : world.cancelled (world.run process state).state = false) :
    ∀ moment ∈ world.timeline process state,
      world.cancelled (world.outcome moment).state = false := by
  induction process generalizing state with
  | done value => simp [timeline]
  | perform effect next ih =>
      rw [run_perform] at running
      rw [timeline, List.forall_mem_cons]
      exact ⟨world.run_running _ _ running, ih _ _ running⟩

theorem running_before (moment : Moment σ)
    (running : world.cancelled (world.outcome moment).state = false) :
    world.cancelled moment.state = false := by
  rw [Bool.eq_false_iff]
  intro cancelled
  have after := world.cancelled_after moment.effect moment.state cancelled
  rw [← outcome, running] at after
  cases after

theorem running_started (moment : Moment σ)
    (running : world.cancelled (world.outcome moment).state = false)
    (heeds : ¬ moment.effect.Heedless) :
    (world.outcome moment).started = true ∧
      moment.effect.isInterruption (world.outcome moment).answer = false := by
  have started := world.started_unless_cancelled moment.effect moment.state heeds
  rw [← outcome, world.running_before moment running] at started
  refine ⟨started, ?_⟩
  rw [Bool.eq_false_iff]
  intro interrupted
  rw [outcome] at running started interrupted
  rcases world.step_cases moment.effect moment.state with
    ⟨_, unstarted⟩ | ⟨_, unstarted, _⟩ | ⟨_, answer, after⟩
  · rw [started] at unstarted
    cases unstarted
  · rw [started] at unstarted
    cases unstarted
  · rw [answer] at interrupted
    rw [after, world.interrupted_cancelled _ _ interrupted] at running
    cases running

theorem undisturbed_steady (process : Proc α) (state : σ)
    (undisturbed : Undisturbed world (world.run process state)) :
    ∀ moment ∈ world.timeline process state, (world.event moment).Steady := by
  intro moment member
  have running := world.timeline_running process state undisturbed.running moment member
  refine ⟨?_, ?_, ?_⟩
  · rw [Bool.eq_false_iff]
    intro reports
    have started := (world.running_started moment running (Event.reported_heeds _ reports)).1
    have traced : world.event moment ∈ (world.run process state).trace := by
      rw [world.trace_of_timeline]
      exact List.mem_map_of_mem (List.mem_filter.mpr ⟨member, started⟩)
    rw [undisturbed.unreported _ traced] at reports
    cases reports
  · by_cases heedless : moment.effect.Heedless
    · exact moment.effect.heedless_uninterrupted _ heedless
    · exact (world.running_started moment running heedless).2
  · have before := world.running_before moment running
    obtain ⟨state, effect⟩ := moment
    intro seen
    obtain ⟨rfl, looked⟩ := Event.mk.inj seen
    rw [show (world.outcome ⟨state, .cancelled⟩).answer = world.cancelled state from rfl,
      before] at looked
    cases eq_of_heq looked

end World

end Dialogue
