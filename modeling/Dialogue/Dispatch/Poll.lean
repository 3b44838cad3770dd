import Dialogue.Dispatch.Step
import Dialogue.Error

set_option autoImplicit false

namespace Dialogue.Dispatch

namespace State

def advance (state : State) (run : List Step) : State := (state.steps run).getD state

-- Goes on with a call that queues a message; there is no answer while it waits for a slot.
def enqueue (state : State) (ticket : Ticket) (message : Inbound) (callerCancelled : Bool) :
    State × Option (Except Error Unit) :=
  if state.rootCancelled || callerCancelled then
    (state.advance [.abandon ticket], some (.error .cancelled))
  else
    let asked := state.advance [.request ticket message]
    match asked.steps (sending ticket) with
    | some sent => (sent, some (.ok ()))
    | none => (asked, none)

def takeNext : Nat → State → State × Option Envelope
  | 0, state => (state, none)
  | fuel + 1, state =>
    let taken := state.advance takingOver
    match taken.worker with
    | .accepted envelope => (taken.advance [.invoke], some envelope)
    | .rejected _ => takeNext fuel (taken.advance [.clear])
    | _ => (taken, none)

def nextMessage (state : State) : State × Option Envelope :=
  if state.rootCancelled then (state.advance [.exit], none)
  else takeNext (state.queue.length + 1) state

def finishMessage (state : State) : State := state.advance [.finish, .clear]

def stop (state : State) (stop : Nat) : State := state.advance (stopping stop)

def shutDown (state : State) : State := state.advance [.cancelRoot]

def giveUp (state : State) (ticket : Ticket) : State := state.advance [.abandon ticket]

end State

inductive Part where
  | enqueue (ticket : Ticket) (message : Inbound) (callerCancelled : Bool)
  | giveUp (ticket : Ticket)
  | nextMessage
  | finishMessage
  | stop (stop : Nat)
  | shutDown

namespace State

def perform (state : State) : Part → State
  | .enqueue ticket message callerCancelled => (state.enqueue ticket message callerCancelled).1
  | .giveUp ticket => state.giveUp ticket
  | .nextMessage => state.nextMessage.1
  | .finishMessage => state.finishMessage
  | .stop stop => state.stop stop
  | .shutDown => state.shutDown

theorem advance_onward (state : State) (run : List Step) : state.Onward (state.advance run) := by
  rw [advance]
  cases possible : state.steps run with
  | none => exact onward_here state
  | some next => exact ⟨run, possible⟩

theorem enqueue_onward (state : State) (ticket : Ticket) (message : Inbound)
    (callerCancelled : Bool) : state.Onward (state.enqueue ticket message callerCancelled).1 := by
  unfold enqueue
  split
  · exact advance_onward state _
  · have asked := advance_onward state [.request ticket message]
    dsimp only
    split
    · rename_i sent possible
      exact onward_further asked ⟨sending ticket, possible⟩
    · exact asked

theorem take_next_onward (fuel : Nat) (state : State) : state.Onward (takeNext fuel state).1 := by
  induction fuel generalizing state with
  | zero => exact onward_here state
  | succ fuel ih =>
      have taken := advance_onward state takingOver
      unfold takeNext
      dsimp only
      split
      · exact onward_further taken (advance_onward _ _)
      · exact onward_further (onward_further taken (advance_onward _ _)) (ih _)
      · exact taken

theorem next_message_onward (state : State) : state.Onward state.nextMessage.1 := by
  unfold nextMessage
  split
  · exact advance_onward state _
  · exact take_next_onward _ state

theorem perform_onward (state : State) (part : Part) : state.Onward (state.perform part) := by
  cases part with
  | enqueue ticket message callerCancelled => exact enqueue_onward state ticket message _
  | giveUp ticket => exact advance_onward state [.abandon ticket]
  | nextMessage => exact next_message_onward state
  | finishMessage => exact advance_onward state [.finish, .clear]
  | stop stop => exact advance_onward state (stopping stop)
  | shutDown => exact advance_onward state [.cancelRoot]

theorem performed_onward (state : State) (parts : List Part) :
    state.Onward (parts.foldl perform state) := by
  induction parts generalizing state with
  | nil => exact onward_here state
  | cons part rest ih => exact onward_further (perform_onward state part) (ih _)

end State

end Dialogue.Dispatch
