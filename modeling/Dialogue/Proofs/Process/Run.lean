import Dialogue.Process.World

set_option autoImplicit false

namespace Dialogue

variable {σ α β : Type}

def Run.andThen (first : Run σ α) (next : α → σ → Run σ β) : Run σ β :=
  { next first.value first.state with
    trace := first.trace ++ (next first.value first.state).trace }

structure Run.Meets (run : Run σ α) (allowed : Effect → Prop) (post : α → Prop) : Prop where
  events : ∀ event ∈ run.trace, allowed event.effect
  value : post run.value

def World.Step.events {effect : Effect} (step : World.Step σ effect) : List Event :=
  if step.started then [⟨effect, step.answer⟩] else []

def Event.request? : Event → Option ChatRequest
  | ⟨.chatWithin _ _ request, _⟩ => some request
  | ⟨.chat _ request, _⟩ => some request
  | _ => none

def requests (trace : List Event) : List ChatRequest := trace.filterMap Event.request?

theorem requests_append (first second : List Event) :
    requests (first ++ second) = requests first ++ requests second :=
  List.filterMap_append

namespace World

variable (world : World σ)

theorem run_pure (value : α) (state : σ) :
    world.run (pure value : Proc α) state = ⟨[], value, state⟩ := rfl

theorem run_perform (effect : Effect) (next : effect.Answer → Proc α) (state : σ) :
    world.run (.perform effect next) state =
      Run.andThen ⟨(world.step effect state).events, (world.step effect state).answer,
        (world.step effect state).state⟩ fun answer => world.run (next answer) := by
  cases started : (world.step effect state).started <;>
    simp [run, Run.andThen, Step.events, started]

theorem run_effect (effect : Effect) (state : σ) :
    world.run (Proc.effect effect) state =
      ⟨(world.step effect state).events, (world.step effect state).answer,
        (world.step effect state).state⟩ := by
  rw [Proc.effect, run_perform]
  simp [Run.andThen, run]

theorem run_bind (process : Proc α) (next : α → Proc β) (state : σ) :
    world.run (process >>= next) state =
      (world.run process state).andThen fun value => world.run (next value) := by
  change world.run (process.bind next) state = _
  induction process generalizing state with
  | done value => simp [Proc.bind, run, Run.andThen]
  | perform effect after ih =>
      rw [Proc.bind, run_perform, run_perform]
      simp only [Run.andThen, ih, List.append_assoc]

theorem run_heedless (effect : Effect) (state : σ) (heedless : effect.refusal = none)
    (noLook : effect ≠ .cancelled) :
    world.run (Proc.effect effect) state =
      ⟨[⟨effect, (world.respond effect state).1⟩], (world.respond effect state).1,
        (world.respond effect state).2⟩ := by
  rw [run_effect]
  cases effect <;> first
    | rfl
    | exact absurd rfl noLook
    | cases heedless

theorem run_racing (effect : Effect) (state : σ) (refused : effect.Answer)
    (heeds : effect.refusal = some refused) :
    world.run (Proc.effect effect) state =
      if world.cancelled state then ⟨[], refused, state⟩
      else ⟨[⟨effect, (world.respond effect state).1⟩], (world.respond effect state).1,
        (world.respond effect state).2⟩ := by
  rw [run_effect]
  cases effect <;> cases heeds <;> cases cancelled : world.cancelled state <;>
    simp [step, Effect.refusal, Step.events, cancelled]

theorem run_look (state : σ) :
    world.run Proc.cancelled state =
      ⟨[], world.cancelled state, (world.respond .cancelled state).2⟩ := by
  rw [Proc.cancelled, run_effect]
  rfl

theorem step_cases (effect : Effect) (state : σ) :
    ((world.step effect state).state = state ∧ (world.step effect state).started = false) ∨
      (effect = .cancelled ∧ (world.step effect state).started = false ∧
        (world.step effect state).state = (world.respond effect state).2) ∨
      ((world.step effect state).started = true ∧
        (world.step effect state).answer = (world.respond effect state).1 ∧
          (world.step effect state).state = (world.respond effect state).2) := by
  cases effect <;> first
    | exact .inr (.inr ⟨rfl, rfl, rfl⟩)
    | exact .inr (.inl ⟨rfl, rfl, rfl⟩)
    | cases cancelled : world.cancelled state <;> simp [step, Effect.refusal, cancelled]

theorem run_keeps (inv : σ → Prop) (allowed : Effect → Prop) (looks : allowed .cancelled)
    (kept : ∀ effect state, allowed effect → inv state → inv (world.respond effect state).2)
    (process : Proc α) (state : σ)
    (events : ∀ event ∈ (world.run process state).trace, allowed event.effect)
    (starts : inv state) : inv (world.run process state).state := by
  induction process generalizing state with
  | done value => exact starts
  | perform effect next ih =>
      rw [run_perform] at events ⊢
      simp only [Run.andThen, List.mem_append] at events ⊢
      apply ih _ _ fun event member => events event (.inr member)
      rcases step_cases world effect state with
        ⟨same, _⟩ | ⟨rfl, _, moved⟩ | ⟨started, _, moved⟩
      · rw [same]
        exact starts
      · rw [moved]
        exact kept _ state looks starts
      · rw [moved]
        refine kept effect state ?_ starts
        refine events ⟨effect, (world.step effect state).answer⟩ (.inl ?_)
        simp [Step.events, started]

-- What holds of all answers in states of a kind that is never left holds of every event of a run.
theorem run_answers (inv : σ → Prop) (good : Event → Prop)
    (kept : ∀ effect state, inv state → inv (world.respond effect state).2)
    (answers : ∀ effect state, inv state → good ⟨effect, (world.respond effect state).1⟩)
    (process : Proc α) (state : σ) (starts : inv state) :
    ∀ event ∈ (world.run process state).trace, good event := by
  induction process generalizing state with
  | done value => simp [run]
  | perform effect next ih =>
      rw [run_perform]
      simp only [Run.andThen, List.mem_append]
      intro event member
      rcases member with now | later
      · rcases step_cases world effect state with
          ⟨_, unstarted⟩ | ⟨_, unstarted, _⟩ | ⟨started, answer, _⟩
        · simp [Step.events, unstarted] at now
        · simp [Step.events, unstarted] at now
        · simp only [Step.events, started, if_true, List.mem_singleton] at now
          rw [now, answer]
          exact answers effect state starts
      · apply ih _ _ _ event later
        rcases step_cases world effect state with
          ⟨same, _⟩ | ⟨_, _, moved⟩ | ⟨_, _, moved⟩
        · rw [same]
          exact starts
        · rw [moved]
          exact kept effect state starts
        · rw [moved]
          exact kept effect state starts

end World

namespace Proc

-- Whatever the answers are, the process performs allowed effects only and ends in a value that
-- meets the condition.
def Ensures (allowed : Effect → Prop) (post : α → Prop) : Proc α → Prop
  | done value => post value
  | perform effect next => allowed effect ∧ ∀ answer, (next answer).Ensures allowed post

variable {allowed : Effect → Prop} {post : α → Prop}

theorem ensures_after (effect : Effect) (next : effect.Answer → Proc α) (may : allowed effect)
    (rest : ∀ answer, (next answer).Ensures allowed post) :
    (Proc.effect effect >>= next).Ensures allowed post := ⟨may, rest⟩

theorem ensures_bind {between : β → Prop} (process : Proc β) (next : β → Proc α)
    (first : process.Ensures allowed between)
    (rest : ∀ value, between value → (next value).Ensures allowed post) :
    (process >>= next).Ensures allowed post := by
  change (process.bind next).Ensures allowed post
  induction process with
  | done value => exact rest value first
  | perform effect after ih => exact ⟨first.1, fun answer => ih answer (first.2 answer)⟩

theorem ensures_mono {fewer : Effect → Prop} {stronger : α → Prop} (process : Proc α)
    (holds : process.Ensures fewer stronger) (more : ∀ effect, fewer effect → allowed effect)
    (weaker : ∀ value, stronger value → post value) : process.Ensures allowed post := by
  induction process with
  | done value => exact weaker value holds
  | perform effect after ih =>
      exact ⟨more effect holds.1, fun answer => ih answer (holds.2 answer)⟩

theorem ensures_run (world : World σ) (process : Proc α) (state : σ)
    (holds : process.Ensures allowed post) : (world.run process state).Meets allowed post := by
  induction process generalizing state with
  | done value => exact ⟨by simp [World.run], holds⟩
  | perform effect next ih =>
      obtain ⟨may, after⟩ := holds
      obtain ⟨later, final⟩ := ih (world.step effect state).answer (world.step effect state).state
        (after _)
      rw [World.run_perform]
      refine ⟨?_, final⟩
      intro event member
      rcases List.mem_append.mp member with now | then_
      · have same : event = ⟨effect, (world.step effect state).answer⟩ := by
          cases started : (world.step effect state).started <;>
            simp [World.Step.events, started] at now
          exact now
        rw [same]
        exact may
      · exact later event then_

end Proc

end Dialogue
