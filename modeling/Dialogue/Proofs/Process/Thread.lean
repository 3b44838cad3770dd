import Dialogue.Proofs.Process.Run
import Mathlib.Logic.Relation

set_option autoImplicit false

namespace Dialogue

variable {σ α β : Type}

structure Thread (α : Type) where
  events : List Event := []
  rest : Proc α

inductive Thread.Advances (cancelled : Bool) : Thread α → List Event → Thread α → Prop where
  | started (events : List Event) (effect : Effect) (next : effect.Answer → Proc α)
      (answer : effect.Answer) (noLook : effect ≠ .cancelled)
      (free : effect.refusal = none ∨ cancelled = false) :
      Advances cancelled ⟨events, .perform effect next⟩ [⟨effect, answer⟩]
        ⟨events ++ [⟨effect, answer⟩], next answer⟩
  | refused (events : List Event) (effect : Effect) (next : effect.Answer → Proc α)
      (answer : effect.Answer) (heeds : effect.refusal = some answer) (late : cancelled = true) :
      Advances cancelled ⟨events, .perform effect next⟩ [] ⟨events, next answer⟩
  | looked (events : List Event) (next : Bool → Proc α) :
      Advances cancelled ⟨events, .perform .cancelled next⟩ [] ⟨events, next cancelled⟩

def Thread.Advance (thread next : Thread α) : Prop :=
  ∃ cancelled started, thread.Advances cancelled started next

theorem step_advances (world : World σ) (effect : Effect) (next : effect.Answer → Proc α)
    (state : σ) (events : List Event) :
    Thread.Advances (world.cancelled state) ⟨events, .perform effect next⟩
      (world.step effect state).events
      ⟨events ++ (world.step effect state).events, next (world.step effect state).answer⟩ := by
  cases effect with
  | cancelled =>
      simp only [World.step, World.Step.events, Bool.false_eq_true, if_false, List.append_nil]
      exact .looked events next
  | chat | chatWithin | rule | approve | execute | load =>
      cases cancelled : world.cancelled state with
      | true =>
          simp only [World.step, Effect.refusal, cancelled, World.Step.events,
            Bool.false_eq_true, if_true, if_false, List.append_nil]
          exact .refused events _ next _ rfl rfl
      | false =>
          simp only [World.step, Effect.refusal, cancelled, World.Step.events,
            Bool.false_eq_true, if_true, if_false]
          exact .started events _ next _ (by simp) (.inr rfl)
  | stamp | callIds | save | write | remember | archive | reportUsage | log =>
      exact .started events _ next _ (by simp) (.inl rfl)

theorem run_advances (world : World σ) (process : Proc α) (state : σ) (events : List Event) :
    Relation.ReflTransGen Thread.Advance ⟨events, process⟩
      ⟨events ++ (world.run process state).trace, .done (world.run process state).value⟩ := by
  induction process generalizing state events with
  | done value =>
      rw [World.run, List.append_nil]
  | perform effect next ih =>
      rw [World.run_perform]
      simp only [Run.andThen]
      rw [← List.append_assoc]
      exact .head ⟨_, _, step_advances world effect next state events⟩ (ih _ _ _)

def Proc.isDone : Proc α → Bool
  | .done _ => true
  | .perform _ _ => false

inductive Proc.Leads : Proc α → List Event → Proc α → Prop where
  | start (process : Proc α) : Leads process [] process
  | onward (effect : Effect) (next : effect.Answer → Proc α) (answer : effect.Answer)
      (events : List Event) (rest : Proc α) (later : Leads (next answer) events rest) :
      Leads (.perform effect next) (⟨effect, answer⟩ :: events) rest

theorem leads_next (process : Proc α) (events : List Event) (effect : Effect)
    (next : effect.Answer → Proc α) (answer : effect.Answer)
    (leads : process.Leads events (.perform effect next)) :
    process.Leads (events ++ [⟨effect, answer⟩]) (next answer) := by
  generalize left : Proc.perform effect next = rest at leads
  induction leads with
  | start process =>
      subst left
      exact .onward effect next answer [] _ (.start _)
  | onward first after reply events rest _ ih => exact .onward first after reply _ _ (ih left)

theorem leads_ensures {allowed : Effect → Prop} {post : α → Prop} (process rest : Proc α)
    (events : List Event) (holds : process.Ensures allowed post)
    (leads : process.Leads events rest) : rest.Ensures allowed post := by
  induction leads with
  | start => exact holds
  | onward effect next answer events rest _ ih => exact ih (holds.2 answer)

theorem leads_after (effect : Effect) (next : effect.Answer → Proc α) (events : List Event)
    (rest : Proc α) (leads : (Proc.effect effect >>= next).Leads events rest) :
    (events = [] ∧ rest.isDone = false) ∨
      ∃ answer later, events = ⟨effect, answer⟩ :: later ∧ (next answer).Leads later rest := by
  change (Proc.perform effect next).Leads events rest at leads
  cases leads with
  | start => exact .inl ⟨rfl, rfl⟩
  | onward _ _ answer later _ onward => exact .inr ⟨answer, later, rfl, onward⟩

theorem leads_done (value : α) (events : List Event) (rest : Proc α)
    (leads : (pure value : Proc α).Leads events rest) : events = [] ∧ rest.isDone = true := by
  change (Proc.done value).Leads events rest at leads
  cases leads
  exact ⟨rfl, rfl⟩

-- A thread whose token is not cancelled starts the next effect of a process that never looks.
theorem advances_leads {allowed : Effect → Prop} {post : α → Prop} (process : Proc α)
    (thread next : Thread α) (started : List Event) (holds : process.Ensures allowed post)
    (noLook : ¬ allowed .cancelled) (leads : process.Leads thread.events thread.rest)
    (advances : thread.Advances false started next) :
    process.Leads next.events next.rest ∧ next.events = thread.events ++ started ∧
      ∀ event ∈ started, allowed event.effect := by
  have left := leads_ensures process thread.rest thread.events holds leads
  cases advances with
  | started events effect after answer _ free =>
      refine ⟨leads_next process events effect after answer leads, rfl, ?_⟩
      intro event member
      rw [List.mem_singleton.mp member]
      exact left.1
  | refused events effect after answer heeds late => cases late
  | looked events after => exact absurd left.1 noLook

def Effect.spawned : Effect → List ArchiveJob
  | .archive job => [job]
  | _ => []

def spawned (trace : List Event) : List ArchiveJob := trace.flatMap fun event => event.effect.spawned

def Event.stored? : Event → Option MemoryEntry
  | ⟨.remember entry, .ok ()⟩ => some entry
  | _ => none

def stored (trace : List Event) : List MemoryEntry := trace.filterMap Event.stored?

def Effect.isArchiving : Effect → Bool
  | .archive _ | .remember _ => true
  | _ => false

def Effect.isRemember : Effect → Bool
  | .remember _ => true
  | _ => false

-- Whatever the answers are, the process starts these jobs in the background, stores nothing itself,
-- and ends in a value that meets the condition.
inductive Proc.Spawns (post : α → Prop) : Proc α → List ArchiveJob → Prop where
  | done (value : α) (holds : post value) : Spawns post (.done value) []
  | perform (effect : Effect) (next : effect.Answer → Proc α) (later : List ArchiveJob)
      (unstored : effect.isRemember = false) (onward : ∀ answer, Spawns post (next answer) later) :
      Spawns post (.perform effect next) (effect.spawned ++ later)

theorem spawns_nothing {post : α → Prop} (process : Proc α)
    (holds : process.Ensures (fun effect => effect.isArchiving = false) post) :
    process.Spawns post [] := by
  induction process with
  | done value => exact .done value holds
  | perform effect next ih =>
      obtain ⟨plain, rest⟩ := holds
      have unstored : effect.isRemember = false ∧ effect.spawned = [] := by
        cases effect <;> first
          | exact ⟨rfl, rfl⟩
          | cases plain
      have spawns := Proc.Spawns.perform effect next [] unstored.1
        fun answer => ih answer (rest answer)
      rwa [unstored.2] at spawns

theorem spawns_mono {stronger post : α → Prop} (process : Proc α) (jobs : List ArchiveJob)
    (spawns : process.Spawns stronger jobs) (weaker : ∀ value, stronger value → post value) :
    process.Spawns post jobs := by
  induction spawns with
  | done value holds => exact .done value (weaker value holds)
  | perform effect next later unstored _ ih => exact .perform effect next later unstored ih

theorem spawns_bind {between : β → Prop} {post : α → Prop} (process : Proc β) (next : β → Proc α)
    (jobs more : List ArchiveJob) (first : process.Spawns between jobs)
    (rest : ∀ value, between value → (next value).Spawns post more) :
    (process >>= next).Spawns post (jobs ++ more) := by
  change (process.bind next).Spawns post (jobs ++ more)
  induction first with
  | done value holds => exact rest value holds
  | perform effect after later unstored _ ih =>
      rw [List.append_assoc]
      exact .perform effect _ _ unstored ih

theorem advances_spawns {post : α → Prop} (cancelled : Bool) (thread next : Thread α)
    (started : List Event) (jobs : List ArchiveJob) (spawns : thread.rest.Spawns post jobs)
    (advances : thread.Advances cancelled started next) :
    next.events = thread.events ++ started ∧ stored started = [] ∧
      ∃ later, jobs = spawned started ++ later ∧ next.rest.Spawns post later := by
  cases advances with
  | started events effect after answer _ free =>
      cases spawns with
      | perform _ _ later unstored onward =>
          refine ⟨rfl, ?_, later, by simp [spawned], onward answer⟩
          cases effect <;> first
            | rfl
            | cases unstored
  | refused events effect after answer heeds late =>
      cases spawns with
      | perform _ _ later unstored onward =>
          refine ⟨(List.append_nil events).symm, rfl, later, ?_, onward answer⟩
          cases effect <;> first
            | rfl
            | cases heeds
  | looked events after =>
      cases spawns with
      | perform _ _ later unstored onward =>
          exact ⟨(List.append_nil events).symm, rfl, later, rfl, onward cancelled⟩

end Dialogue
