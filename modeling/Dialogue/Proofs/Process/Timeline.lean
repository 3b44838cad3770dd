import Dialogue.Proofs.Process.Run

set_option autoImplicit false

namespace Dialogue

variable {σ α β : Type}

namespace Effect

def Heedless (effect : Effect) : Prop := effect.refusal = none

def isJournaled : Effect → Bool
  | rule _ _ | approve _ _ | execute _ _ => true
  | _ => false

def isAction : Effect → Bool
  | chat _ _ | chatWithin _ _ _ => true
  | effect => effect.isJournaled

theorem heedless_inactive (effect : Effect) (heedless : effect.Heedless) :
    effect.isAction = false := by
  cases effect with
  | chat | chatWithin | rule | approve | execute => cases heedless
  | _ => rfl

theorem heedless_unjournaled (effect : Effect) (heedless : effect.Heedless) :
    effect.isJournaled = false := by
  cases effect with
  | rule | approve | execute => cases heedless
  | _ => rfl

theorem interruption_refuses (effect : Effect) (answer : effect.Answer)
    (interrupted : effect.isInterruption answer = true) : effect.refusal = some answer := by
  cases effect with
  | chat | rule | approve | execute | load =>
      cases answer with
      | interrupted => rfl
      | finished => cases interrupted
  | chatWithin =>
      cases answer with
      | late => cases interrupted
      | inTime reply =>
          cases reply with
          | interrupted => rfl
          | finished => cases interrupted
  | _ => cases interrupted

theorem refusal_interrupts (effect : Effect) (refused : effect.Answer)
    (heeds : effect.refusal = some refused) : effect.isInterruption refused = true := by
  cases effect <;> cases heeds <;> rfl

end Effect

structure Moment (σ : Type) where
  state : σ
  effect : Effect

namespace World

variable (world : World σ)

def timeline : Proc α → σ → List (Moment σ)
  | .done _, _ => []
  | .perform effect next, state =>
    ⟨state, effect⟩ :: timeline (next (world.step effect state).answer)
      (world.step effect state).state

def outcome (moment : Moment σ) : Step σ moment.effect := world.step moment.effect moment.state

def event (moment : Moment σ) : Event := ⟨moment.effect, (world.outcome moment).answer⟩

theorem timeline_bind (process : Proc α) (next : α → Proc β) (state : σ) :
    world.timeline (process >>= next) state =
      world.timeline process state ++
        world.timeline (next (world.run process state).value) (world.run process state).state := by
  change world.timeline (process.bind next) state = _
  induction process generalizing state with
  | done value => rfl
  | perform effect after ih =>
      rw [Proc.bind, timeline, timeline, ih, run_perform]
      rfl

theorem trace_of_timeline (process : Proc α) (state : σ) :
    (world.run process state).trace =
      ((world.timeline process state).filter fun moment => (world.outcome moment).started).map
        world.event := by
  induction process generalizing state with
  | done value => rfl
  | perform effect next ih =>
      rw [run_perform, timeline, List.filter_cons]
      cases started : (world.step effect state).started <;>
        simp [Run.andThen, Step.events, outcome, event, started, ih]

theorem started_unless_cancelled (effect : Effect) (state : σ) (heeds : ¬ effect.Heedless) :
    (world.step effect state).started = !world.cancelled state := by
  cases effect with
  | chat | chatWithin | rule | approve | execute | load =>
      cases cancelled : world.cancelled state <;> simp [step, Effect.refusal, cancelled]
  | _ => exact absurd rfl heeds

theorem refused_if_cancelled (effect : Effect) (state : σ) (refused : effect.Answer)
    (heeds : effect.refusal = some refused) (cancelled : world.cancelled state = true) :
    (world.step effect state).answer = refused := by
  cases effect <;> cases heeds <;> simp [step, Effect.refusal, cancelled]

theorem cancelled_after (effect : Effect) (state : σ) (cancelled : world.cancelled state = true) :
    world.cancelled (world.step effect state).state = true := by
  rcases step_cases world effect state with ⟨same, _⟩ | ⟨rfl, _, moved⟩ | ⟨_, _, moved⟩
  · rw [same]
    exact cancelled
  · rw [moved]
    exact world.cancelled_stays _ state cancelled
  · rw [moved]
    exact world.cancelled_stays effect state cancelled

theorem timeline_cancelled (process : Proc α) (state : σ)
    (cancelled : world.cancelled state = true) :
    ∀ moment ∈ world.timeline process state, world.cancelled moment.state = true := by
  induction process generalizing state with
  | done value => simp [timeline]
  | perform effect next ih =>
      intro moment member
      rcases List.mem_cons.mp member with now | later
      · rw [now]
        exact cancelled
      · exact ih _ _ (world.cancelled_after effect state cancelled) moment later

theorem run_running (process : Proc α) (state : σ)
    (running : world.cancelled (world.run process state).state = false) :
    world.cancelled state = false := by
  cases cancelled : world.cancelled state with
  | false => rfl
  | true =>
      have stays := world.run_keeps (fun later => world.cancelled later = true) (fun _ => True)
        trivial (fun effect later _ => world.cancelled_stays effect later) process state
        (fun _ _ => trivial) cancelled
      rw [running] at stays
      cases stays

-- From each of its moments on, a run is the run of a process that was reached.
theorem timeline_resumes (holds : Proc α → Prop)
    (reached : ∀ effect next answer, holds (.perform effect next) → holds (next answer))
    (process : Proc α) (state : σ) (starts : holds process) (before after : List (Moment σ))
    (now : Moment σ) (split : world.timeline process state = before ++ now :: after) :
    ∃ next : now.effect.Answer → Proc α, holds (.perform now.effect next) ∧
      after = world.timeline (next (world.outcome now).answer) (world.outcome now).state ∧
      (world.run process state).value =
        (world.run (next (world.outcome now).answer) (world.outcome now).state).value := by
  induction process generalizing before state with
  | done value => simp [timeline] at split
  | perform effect next ih =>
      rw [timeline] at split
      rw [run_perform]
      cases before with
      | nil =>
          obtain ⟨rfl, rest⟩ := List.cons.inj split
          exact ⟨next, starts, rest.symm, rfl⟩
      | cons first others =>
          exact ih _ _ (reached effect next _ starts) others (List.cons.inj split).2

theorem cancelled_onward (process : Proc α) (state : σ) (before after : List (Moment σ))
    (now : Moment σ) (split : world.timeline process state = before ++ now :: after)
    (cancelled : world.cancelled now.state = true) :
    ∀ moment ∈ now :: after, world.cancelled moment.state = true := by
  obtain ⟨next, _, rest, _⟩ := world.timeline_resumes (fun _ => True) (fun _ _ _ _ => trivial)
    process state trivial before after now split
  have whole : now :: after = world.timeline (.perform now.effect next) now.state := by
    rw [timeline, rest]
    rfl
  rw [whole]
  exact world.timeline_cancelled _ _ cancelled

def attempts (process : Proc α) (state : σ) : List (Moment σ) :=
  (world.timeline process state).filter fun moment => moment.effect.isJournaled

theorem attempts_pure (value : α) (state : σ) :
    world.attempts (pure value : Proc α) state = [] := rfl

theorem attempts_bind (process : Proc α) (next : α → Proc β) (state : σ) :
    world.attempts (process >>= next) state =
      world.attempts process state ++
        world.attempts (next (world.run process state).value) (world.run process state).state := by
  rw [attempts, timeline_bind, List.filter_append]
  rfl

end World

namespace Proc

theorem ensures_timeline {allowed : Effect → Prop} {post : α → Prop} (world : World σ)
    (process : Proc α) (state : σ) (holds : process.Ensures allowed post) :
    ∀ moment ∈ world.timeline process state, allowed moment.effect := by
  induction process generalizing state with
  | done value => simp [World.timeline]
  | perform effect next ih =>
      intro moment member
      rcases List.mem_cons.mp member with now | later
      · rw [now]
        exact holds.1
      · exact ih _ _ (holds.2 _) moment later

theorem ensures_no_attempts {post : α → Prop} (world : World σ) (process : Proc α) (state : σ)
    (holds : process.Ensures Effect.Heedless post) : world.attempts process state = [] := by
  rw [World.attempts, List.filter_eq_nil_iff]
  intro moment member
  rw [moment.effect.heedless_unjournaled (ensures_timeline world process state holds moment member)]
  simp

theorem ensures_no_requests {post : α → Prop} (world : World σ) (process : Proc α) (state : σ)
    (holds : process.Ensures Effect.Heedless post) :
    requests (world.run process state).trace = [] := by
  rw [requests, List.filterMap_eq_nil_iff]
  intro event member
  have heedless := (ensures_run world process state holds).events event member
  obtain ⟨effect, answer⟩ := event
  cases effect with
  | chat provider request => cases heedless
  | chatWithin limit provider request => cases heedless
  | _ => rfl

-- After an interruption the process performs heedless effects only, and ends in a value that meets
-- the condition.
def Heeds (stopped : α → Prop) : Proc α → Prop
  | done _ => True
  | perform effect next => ∀ answer, (next answer).Heeds stopped ∧
      (effect.isInterruption answer = true → (next answer).Ensures Effect.Heedless stopped)

variable {stopped : α → Prop}

theorem heeds_after (effect : Effect) (next : effect.Answer → Proc α)
    (interrupted : ∀ refused, effect.refusal = some refused →
      (next refused).Ensures Effect.Heedless stopped)
    (rest : ∀ answer, (next answer).Heeds stopped) :
    (Proc.effect effect >>= next).Heeds stopped :=
  fun answer => ⟨rest answer, fun stops => interrupted answer (effect.interruption_refuses answer stops)⟩

theorem heeds_after_heedless (effect : Effect) (next : effect.Answer → Proc α)
    (heedless : effect.Heedless) (rest : ∀ answer, (next answer).Heeds stopped) :
    (Proc.effect effect >>= next).Heeds stopped := by
  apply heeds_after effect next _ rest
  intro refused heeds
  rw [heedless] at heeds
  cases heeds

theorem heeds_bind {stoppedFirst : β → Prop} (process : Proc β) (next : β → Proc α)
    (first : process.Heeds stoppedFirst)
    (passedOn : ∀ value, stoppedFirst value → (next value).Ensures Effect.Heedless stopped)
    (rest : ∀ value, (next value).Heeds stopped) : (process >>= next).Heeds stopped := by
  change (process.bind next).Heeds stopped
  induction process with
  | done value => exact rest value
  | perform effect after ih =>
      intro answer
      refine ⟨ih answer (first answer).1, ?_⟩
      intro interrupted
      exact ensures_bind (after answer) next ((first answer).2 interrupted) passedOn

theorem heeds_of_heedless {post : α → Prop} (process : Proc α)
    (holds : process.Ensures Effect.Heedless post) : process.Heeds stopped := by
  induction process with
  | done value => trivial
  | perform effect next ih =>
      exact heeds_after_heedless effect next holds.1 fun answer => ih answer (holds.2 answer)

theorem heeds_bind_heedless {post : β → Prop} (process : Proc β) (next : β → Proc α)
    (first : process.Ensures Effect.Heedless post) (rest : ∀ value, (next value).Heeds stopped) :
    (process >>= next).Heeds stopped := by
  have uninterrupted : process.Heeds fun _ => False := heeds_of_heedless process first
  exact heeds_bind process next uninterrupted (fun _ impossible => impossible.elim) rest

-- What is attempted under a cancelled token is the last thing that is asked for.
theorem heeds_last (world : World σ) (process : Proc α) (state : σ)
    (heeds : process.Heeds stopped) (before after : List (Moment σ)) (attempt : Moment σ)
    (split : world.timeline process state = before ++ attempt :: after)
    (racing : ¬ attempt.effect.Heedless) (cancelled : world.cancelled attempt.state = true) :
    (∀ later ∈ after, later.effect.Heedless) ∧ stopped (world.run process state).value := by
  obtain ⟨next, onward, rest, value⟩ := world.timeline_resumes (fun process => process.Heeds stopped)
    (fun _ _ answer holds => (holds answer).1) process state heeds before after attempt split
  obtain ⟨refused, refusal⟩ := Option.ne_none_iff_exists'.mp racing
  have answered := world.refused_if_cancelled _ _ refused refusal cancelled
  have ends := (onward (world.outcome attempt).answer).2 (by
    rw [World.outcome, answered]
    exact attempt.effect.refusal_interrupts refused refusal)
  rw [rest, value]
  exact ⟨ensures_timeline world _ _ ends, (ensures_run world _ _ ends).value⟩

end Proc

end Dialogue
