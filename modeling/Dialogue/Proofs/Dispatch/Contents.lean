import Dialogue.Dispatch.Step

set_option autoImplicit false

namespace Dialogue.Dispatch

-- The message is what the call was asked to queue, and the only one.
def Asked (run : List Step) (ticket : Ticket) (message : Inbound) : Prop :=
  ∀ other, .request ticket other ∈ run ↔ other = message

def Envelope.Intact (run : List Step) (envelope : Envelope) : Prop :=
  Asked run envelope.ticket envelope.message

def Call.Intact (run : List Step) (ticket : Ticket) : Call → Prop
  | .absent => ∀ message, .request ticket message ∉ run
  | .waiting message | .granted message | .admitted message | .counted message =>
      Asked run ticket message
  | .stamped envelope => envelope.Intact run
  | .sent | .refused => True

def Worker.holds : Worker → Option Envelope
  | .received envelope | .recorded envelope | .released envelope | .accepted envelope
  | .rejected envelope | .handling envelope | .finished envelope => some envelope
  | .ready | .exited => none

structure State.Intact (run : List Step) (state : State) : Prop where
  calls : ∀ ticket, (state.calls ticket).Intact run ticket
  queue : ∀ envelope ∈ state.queue, envelope.Intact run
  worker : ∀ envelope, state.worker.holds = some envelope → envelope.Intact run

section

variable (run : List Step) (step : Step)

theorem request_added (ticket : Ticket) (message : Inbound)
    (other : step ≠ .request ticket message) :
    .request ticket message ∈ run ++ [step] ↔ .request ticket message ∈ run := by
  rw [List.mem_append, List.mem_singleton]
  exact ⟨fun member => member.resolve_right (Ne.symm other), .inl⟩

theorem asked_added (ticket : Ticket) (message : Inbound) (asked : Asked run ticket message)
    (others : ∀ other, step ≠ .request ticket other) :
    Asked (run ++ [step]) ticket message := fun other =>
  (request_added run step ticket other (others other)).trans (asked other)

theorem asked_first (ticket : Ticket) (message : Inbound)
    (unasked : ∀ other, .request ticket other ∉ run) :
    Asked (run ++ [.request ticket message]) ticket message := by
  intro other
  rw [List.mem_append, List.mem_singleton]
  constructor
  · intro member
    cases member.resolve_left (unasked other)
    rfl
  · intro same
    rw [same]
    exact .inr rfl

end

variable (run : List Step) (state next : State)

theorem intact_added (step : Step) (inv : state.Intact run)
    (begins : ∀ ticket message, step = .request ticket message →
      ∀ other, .request ticket other ∉ run) :
    (∀ ticket, (∀ message, step ≠ .request ticket message) →
      (state.calls ticket).Intact (run ++ [step]) ticket) ∧
    (∀ envelope ∈ state.queue, envelope.Intact (run ++ [step])) ∧
    ∀ envelope, state.worker.holds = some envelope → envelope.Intact (run ++ [step]) := by
  have kept : ∀ envelope : Envelope, envelope.Intact run → envelope.Intact (run ++ [step]) := by
    intro envelope intact
    refine asked_added run step _ _ intact ?_
    intro other same
    exact begins _ _ same envelope.message ((intact envelope.message).mpr rfl)
  refine ⟨?_, fun envelope member => kept envelope (inv.queue envelope member),
    fun envelope held => kept envelope (inv.worker envelope held)⟩
  intro ticket others
  have intact := inv.calls ticket
  cases call : state.calls ticket <;> rw [call] at intact
  case absent =>
    intro message member
    exact intact message ((request_added run step ticket message (others message)).mp member)
  case stamped envelope => exact kept envelope intact
  case sent | refused => trivial
  all_goals exact asked_added run step ticket _ intact others

theorem set_call_intact (ticket : Ticket) (call : Call) (inv : state.Intact run)
    (new : call.Intact run ticket) : (state.setCall ticket call).Intact run where
  calls := by
    intro other
    change (put state.calls ticket call other).Intact run other
    by_cases same : other = ticket
    · rw [same, put_same]
      exact new
    · rw [put_other _ _ _ _ same]
      exact inv.calls other
  queue := inv.queue
  worker := inv.worker

theorem free_slot_intact (inv : state.Intact run) : state.freeSlot.Intact run := by
  rw [State.freeSlot]
  cases state.waiting with
  | nil => exact ⟨inv.calls, inv.queue, inv.worker⟩
  | cons ticket rest =>
      dsimp only
      cases call : state.calls ticket with
      | waiting message =>
          have asked := inv.calls ticket
          rw [call] at asked
          exact set_call_intact run _ ticket _ ⟨inv.calls, inv.queue, inv.worker⟩ asked
      | _ => exact ⟨inv.calls, inv.queue, inv.worker⟩

theorem request_intact (ticket : Ticket) (message : Inbound) (inv : state.Intact run)
    (possible : state.step (.request ticket message) = some next) :
    next.Intact (run ++ [.request ticket message]) := by
  simp only [State.step] at possible
  cases call : state.calls ticket with
  | absent =>
      have unasked := inv.calls ticket
      rw [call] at unasked
      obtain ⟨calls, queue, worker⟩ := intact_added run state (.request ticket message) inv
        (by rintro other given same; cases same; exact unasked)
      have begun : ∀ call : Call, call.Intact (run ++ [.request ticket message]) ticket →
          ∀ other, (put state.calls ticket call other).Intact
            (run ++ [.request ticket message]) other := by
        intro call new other
        by_cases same : other = ticket
        · rw [same, put_same]
          exact new
        · rw [put_other _ _ _ _ same]
          exact calls other (by rintro given same'; cases same'; exact same rfl)
      have asked := asked_first run ticket message unasked
      simp only [call] at possible
      split at possible <;> cases possible
      · exact ⟨begun (.waiting message) asked, queue, worker⟩
      · exact ⟨begun (.granted message) asked, queue, worker⟩
  | _ => simp [call] at possible

theorem abandon_intact (ticket : Ticket) (inv : state.Intact run)
    (possible : state.step (.abandon ticket) = some next) : next.Intact run := by
  have refused : ∀ waiting, State.Intact run
      ({ state with waiting }.setCall ticket .refused) := fun _ =>
    set_call_intact run _ ticket .refused ⟨inv.calls, inv.queue, inv.worker⟩ trivial
  simp only [State.step] at possible
  split at possible <;> cases possible
  · exact refused state.waiting
  · exact refused _
  · exact free_slot_intact run _ (refused state.waiting)

theorem call_intact (step : Step) (ticket : Ticket) (inv : state.Intact run)
    (moves : step = .enter ticket ∨ step = .count ticket ∨ step = .stamp ticket)
    (possible : state.step step = some next) : next.Intact run := by
  have asked := inv.calls ticket
  rcases moves with rfl | rfl | rfl <;> simp only [State.step] at possible <;>
    split at possible <;> rename_i call
  · rw [call] at asked
    split at possible <;> cases possible
    exact set_call_intact run state ticket _ inv asked
  · cases possible
  · rw [call] at asked
    cases possible
    exact set_call_intact run _ ticket _ ⟨inv.calls, inv.queue, inv.worker⟩ asked
  · cases possible
  · rw [call] at asked
    cases possible
    exact set_call_intact run state ticket _ inv asked
  · cases possible

theorem send_intact (ticket : Ticket) (inv : state.Intact run)
    (possible : state.step (.send ticket) = some next) : next.Intact run := by
  have intact := inv.calls ticket
  simp only [State.step] at possible
  cases call : state.calls ticket with
  | stamped envelope =>
      rw [call] at intact
      simp only [call, Option.some.injEq] at possible
      rw [← possible]
      refine set_call_intact run _ ticket .sent ⟨inv.calls, ?_, inv.worker⟩ trivial
      intro other member
      rcases List.mem_append.mp member with queued | last
      · exact inv.queue other queued
      · rw [List.mem_singleton.mp last]
        exact intact
  | _ => simp [call] at possible

theorem receive_intact (inv : state.Intact run) (possible : state.step .receive = some next) :
    next.Intact run := by
  simp only [State.step] at possible
  cases worker : state.worker with
  | ready =>
      cases queue : state.queue with
      | nil => simp [worker, queue] at possible
      | cons envelope rest =>
          simp only [worker, queue] at possible
          have queued := inv.queue
          rw [queue, List.forall_mem_cons] at queued
          split at possible <;> cases possible
          refine free_slot_intact run _ ⟨inv.calls, queued.2, ?_⟩
          intro other held
          cases held
          exact queued.1
  | _ => simp [worker] at possible

theorem held_intact (worker : Worker) (inv : state.Intact run)
    (calls : next.calls = state.calls) (queue : next.queue = state.queue)
    (moved : next.worker = worker)
    (holds : worker.holds = state.worker.holds ∨ worker.holds = none) : next.Intact run := by
  refine ⟨calls ▸ inv.calls, queue ▸ inv.queue, ?_⟩
  intro envelope held
  rw [moved] at held
  rcases holds with same | nothing
  · exact inv.worker envelope (same ▸ held)
  · rw [nothing] at held
    cases held

theorem step_intact (step : Step) (inv : state.Intact run)
    (possible : state.step step = some next) : next.Intact (run ++ [step]) := by
  have other (others : ∀ ticket message, step ≠ .request ticket message) :
      state.Intact (run ++ [step]) := by
    obtain ⟨calls, queue, worker⟩ := intact_added run state step inv
      fun ticket message same => absurd same (others ticket message)
    exact ⟨fun ticket => calls ticket (others ticket), queue, worker⟩
  cases step with
  | request ticket message => exact request_intact run state next ticket message inv possible
  | abandon ticket => exact abandon_intact _ state next ticket (other (by simp)) possible
  | enter ticket => exact call_intact _ state next _ ticket (other (by simp)) (by simp) possible
  | count ticket => exact call_intact _ state next _ ticket (other (by simp)) (by simp) possible
  | stamp ticket => exact call_intact _ state next _ ticket (other (by simp)) (by simp) possible
  | send ticket => exact send_intact _ state next ticket (other (by simp)) possible
  | receive => exact receive_intact _ state next (other (by simp)) possible
  | bump | readRun | cancelRun | lookPending | lookRun =>
      have kept := other (by simp)
      simp only [State.step] at possible
      split at possible <;> cases possible <;> exact ⟨kept.calls, kept.queue, kept.worker⟩
  | cancelRoot =>
      have kept := other (by simp)
      cases possible
      exact ⟨kept.calls, kept.queue, kept.worker⟩
  | record | release | invoke | finish =>
      simp only [State.step] at possible
      split at possible <;> rename_i worker <;> cases possible
      exact held_intact _ state _ _ (other (by simp)) rfl rfl rfl (.inl (by rw [worker]; rfl))
  | check =>
      simp only [State.step] at possible
      split at possible <;> rename_i worker <;> cases possible
      refine held_intact _ state _ _ (other (by simp)) rfl rfl rfl (.inl ?_)
      rw [worker]
      split <;> rfl
  | clear =>
      simp only [State.step] at possible
      split at possible <;> cases possible <;>
        exact held_intact _ state _ .ready (other (by simp)) rfl rfl rfl (.inr rfl)
  | exit =>
      simp only [State.step] at possible
      split at possible
      · split at possible <;> cases possible
        exact held_intact _ state _ .exited (other (by simp)) rfl rfl rfl (.inr rfl)
      · cases possible

theorem steps_intact (before : List Step) (last : State) (inv : state.Intact before)
    (possible : state.steps run = some last) : last.Intact (before ++ run) := by
  induction run generalizing before state with
  | nil =>
      cases possible
      rwa [List.append_nil]
  | cons step rest ih =>
      simp only [State.steps, Option.bind_eq_some_iff] at possible
      obtain ⟨next, first, later⟩ := possible
      rw [← List.singleton_append, ← List.append_assoc]
      exact ih next _ (step_intact before state next step inv first) later

theorem initial_intact (capacity : Nat) : (State.initial capacity).Intact [] where
  calls := fun _ _ => List.not_mem_nil
  queue := fun _ member => absurd member List.not_mem_nil
  worker := fun _ held => by cases held

theorem run_intact (capacity : Nat) (possible : (State.initial capacity).steps run = some state) :
    state.Intact run :=
  steps_intact run (.initial capacity) [] state (initial_intact capacity) possible

end Dialogue.Dispatch
