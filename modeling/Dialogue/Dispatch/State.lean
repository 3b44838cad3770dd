import Dialogue.Chat.Inbound

/-!
The state of a dispatcher: a bounded queue of inbound messages in front of a single worker. Every
call that queues a message, every stop and every look whether the dispatcher is idle proceeds in
small steps of its own, and so does the worker between two messages.
-/

set_option autoImplicit false

namespace Dialogue.Dispatch

abbrev Ticket := Nat

-- A queued message and the number of stops before it was stamped.
structure Envelope where
  ticket : Ticket
  epoch : Nat
  message : Inbound

inductive Call where
  | absent
  | waiting (message : Inbound)
  -- Was given a slot, but has not noticed yet.
  | granted (message : Inbound)
  -- Goes on with its slot and can no longer be cancelled.
  | admitted (message : Inbound)
  | counted (message : Inbound)
  | stamped (envelope : Envelope)
  | sent
  | refused

inductive Worker where
  | ready
  | received (envelope : Envelope)
  | recorded (envelope : Envelope)
  | released (envelope : Envelope)
  | accepted (envelope : Envelope)
  | rejected (envelope : Envelope)
  | handling (envelope : Envelope)
  | finished (envelope : Envelope)
  | exited

inductive Stop where
  | absent
  | bumped
  | sawRun (run : Option Ticket)
  | returned

inductive Look where
  | absent
  | sawPending (pending : Nat)
  | answered (idle : Bool)

structure State where
  free : Nat
  -- Calls that wait for a slot, first come, first served.
  waiting : List Ticket := []
  calls : Ticket → Call := fun _ => .absent
  queue : List Envelope := []
  -- Messages counted, but not yet released by the worker.
  pending : Nat := 0
  epoch : Nat := 0
  rootCancelled : Bool := false
  worker : Worker := .ready
  run : Option Ticket := none
  cancelledRuns : List Ticket := []
  stops : Nat → Stop := fun _ => .absent
  looks : Nat → Look := fun _ => .absent

def put {α : Type} (f : Nat → α) (place : Nat) (value : α) : Nat → α :=
  fun other => if other = place then value else f other

theorem put_same {α : Type} (f : Nat → α) (place : Nat) (value : α) :
    put f place value place = value := by
  simp [put]

theorem put_other {α : Type} (f : Nat → α) (place other : Nat) (value : α)
    (different : other ≠ place) : put f place value other = f other := by
  simp [put, different]

namespace State

def initial (capacity : Nat) : State := { free := max capacity 1 }

variable (state : State)

def runCancelled (ticket : Ticket) : Bool :=
  state.rootCancelled || state.cancelledRuns.contains ticket

def isRunning : Bool := state.run.isSome

def hasExited : Bool :=
  match state.worker with
  | .exited => true
  | _ => false

def isIdle : Bool := state.hasExited || (state.pending = 0 && !state.isRunning)

def setCall (ticket : Ticket) (call : Call) : State :=
  { state with calls := put state.calls ticket call }

def freeSlot : State :=
  match state.waiting with
  | [] => { state with free := state.free + 1 }
  | ticket :: rest =>
    match state.calls ticket with
    | .waiting message => { state with waiting := rest }.setCall ticket (.granted message)
    | _ => { state with waiting := rest }

end State

end Dialogue.Dispatch
