import Dialogue.Dispatch.State

set_option autoImplicit false

namespace Dialogue.Dispatch

inductive Step where
  | request (ticket : Ticket) (message : Inbound)
  | abandon (ticket : Ticket)
  | enter (ticket : Ticket)
  | count (ticket : Ticket)
  | stamp (ticket : Ticket)
  | send (ticket : Ticket)
  | bump (stop : Nat)
  | readRun (stop : Nat)
  | cancelRun (stop : Nat)
  | lookPending (look : Nat)
  | lookRun (look : Nat)
  | receive
  | record
  | release
  | check
  | invoke
  | finish
  | clear
  | cancelRoot
  | exit

namespace State

def step (state : State) : Step → Option State
  | .request ticket message =>
    match state.calls ticket with
    | .absent =>
      if state.free = 0 then
        some ({ state with waiting := state.waiting ++ [ticket] }.setCall ticket (.waiting message))
      else some ({ state with free := state.free - 1 }.setCall ticket (.granted message))
    | _ => none
  | .abandon ticket =>
    match state.calls ticket with
    | .absent => some (state.setCall ticket .refused)
    | .waiting _ =>
      some ({ state with waiting := state.waiting.erase ticket }.setCall ticket .refused)
    | .granted _ => some ((state.setCall ticket .refused).freeSlot)
    | _ => none
  | .enter ticket =>
    match state.calls ticket with
    | .granted message =>
      if state.rootCancelled then none else some (state.setCall ticket (.admitted message))
    | _ => none
  | .count ticket =>
    match state.calls ticket with
    | .admitted message =>
      some ({ state with pending := state.pending + 1 }.setCall ticket (.counted message))
    | _ => none
  | .stamp ticket =>
    match state.calls ticket with
    | .counted message => some (state.setCall ticket (.stamped ⟨ticket, state.epoch, message⟩))
    | _ => none
  | .send ticket =>
    match state.calls ticket with
    | .stamped envelope =>
      some ({ state with queue := state.queue ++ [envelope] }.setCall ticket .sent)
    | _ => none
  | .bump stop =>
    match state.stops stop with
    | .absent => some { state with epoch := state.epoch + 1, stops := put state.stops stop .bumped }
    | _ => none
  | .readRun stop =>
    match state.stops stop with
    | .bumped => some { state with stops := put state.stops stop (.sawRun state.run) }
    | _ => none
  | .cancelRun stop =>
    match state.stops stop with
    | .sawRun run =>
      some { state with
        cancelledRuns := run.toList ++ state.cancelledRuns
        stops := put state.stops stop .returned }
    | _ => none
  | .lookPending look =>
    match state.looks look with
    | .absent | .answered false =>
      let seen := if state.hasExited then .answered true else .sawPending state.pending
      some { state with looks := put state.looks look seen }
    | _ => none
  | .lookRun look =>
    match state.looks look with
    | .sawPending pending =>
      let idle := pending = 0 && !state.isRunning
      some { state with looks := put state.looks look (.answered idle) }
    | _ => none
  | .receive =>
    match state.worker, state.queue with
    | .ready, envelope :: rest =>
      if state.rootCancelled then none
      else some { state with queue := rest, worker := .received envelope }.freeSlot
    | _, _ => none
  | .record =>
    match state.worker with
    | .received envelope =>
      some { state with run := some envelope.ticket, worker := .recorded envelope }
    | _ => none
  | .release =>
    match state.worker with
    | .recorded envelope =>
      some { state with pending := state.pending - 1, worker := .released envelope }
    | _ => none
  | .check =>
    match state.worker with
    | .released envelope =>
      let worker := if envelope.epoch < state.epoch then .rejected envelope else .accepted envelope
      some { state with worker }
    | _ => none
  | .invoke =>
    match state.worker with
    | .accepted envelope => some { state with worker := .handling envelope }
    | _ => none
  | .finish =>
    match state.worker with
    | .handling envelope => some { state with worker := .finished envelope }
    | _ => none
  | .clear =>
    match state.worker with
    | .rejected _ | .finished _ => some { state with run := none, worker := .ready }
    | _ => none
  | .cancelRoot => some { state with rootCancelled := true }
  | .exit =>
    match state.worker with
    | .ready => if state.rootCancelled then some { state with worker := .exited } else none
    | _ => none

def steps : State → List Step → Option State
  | state, [] => some state
  | state, step :: rest => (state.step step).bind fun next => next.steps rest

end State

def sending (ticket : Ticket) : List Step :=
  [.enter ticket, .count ticket, .stamp ticket, .send ticket]

def stopping (stop : Nat) : List Step := [.bump stop, .readRun stop, .cancelRun stop]

def takingOver : List Step := [.receive, .record, .release, .check]

theorem steps_append (state : State) (first second : List Step) :
    state.steps (first ++ second) = (state.steps first).bind fun next => next.steps second := by
  induction first generalizing state with
  | nil => rfl
  | cons step rest ih =>
      simp only [List.cons_append, State.steps]
      cases possible : state.step step with
      | none => rfl
      | some next => simp [ih]

def State.Onward (state next : State) : Prop := ∃ run, state.steps run = some next

theorem onward_here (state : State) : state.Onward state := ⟨[], rfl⟩

theorem onward_further {state between next : State} (first : state.Onward between)
    (later : between.Onward next) : state.Onward next := by
  obtain ⟨run, reached⟩ := first
  obtain ⟨more, further⟩ := later
  refine ⟨run ++ more, ?_⟩
  rw [steps_append, reached]
  exact further

end Dialogue.Dispatch
