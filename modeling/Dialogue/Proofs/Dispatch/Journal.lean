import Dialogue.Dispatch.Step

set_option autoImplicit false

namespace Dialogue.Dispatch

inductive Entry where
  | refused (ticket : Ticket)
  -- The call read the epoch.
  | stamped (ticket : Ticket)
  | sent (ticket : Ticket)
  | bumped (stop : Nat)
  | returned (stop : Nat)
  | taken (ticket : Ticket)
  -- The worker compared the epochs; a message that is not fresh is discarded.
  | checked (ticket : Ticket) (fresh : Bool)
  | passed (ticket : Ticket)
  | finished (ticket : Ticket)
  | closed
deriving DecidableEq

abbrev Journal := List Entry

namespace State

def entry (state : State) : Step → Option Entry
  | .abandon ticket => some (.refused ticket)
  | .stamp ticket => some (.stamped ticket)
  | .send ticket => some (.sent ticket)
  | .bump stop => some (.bumped stop)
  | .cancelRun stop => some (.returned stop)
  | .receive => state.queue.head?.map fun envelope => .taken envelope.ticket
  | .check =>
    match state.worker with
    | .released envelope => some (.checked envelope.ticket (state.epoch ≤ envelope.epoch))
    | _ => none
  | .invoke =>
    match state.worker with
    | .accepted envelope => some (.passed envelope.ticket)
    | _ => none
  | .finish =>
    match state.worker with
    | .handling envelope => some (.finished envelope.ticket)
    | _ => none
  | .cancelRoot => some .closed
  | _ => none

def journal (state : State) : List Step → Journal
  | [] => []
  | step :: rest =>
    match state.step step with
    | none => []
    | some next => (state.entry step).toList ++ next.journal rest

end State

def Call.Open : Call → Prop
  | .absent | .waiting _ | .granted _ | .admitted _ | .counted _ => True
  | .stamped _ | .sent | .refused => False

-- Calls may have come further, but none got its stamp, was sent or was refused.
def Undecided (calls later : Ticket → Call) : Prop :=
  ∀ ticket, later ticket = calls ticket ∨ (calls ticket).Open ∧ (later ticket).Open

inductive State.Moves (state : State) : Option Entry → State → Prop where
  | prepared (free : Nat) (waiting : List Ticket) (calls : Ticket → Call) (pending : Nat)
      (looks : Nat → Look) (undecided : Undecided state.calls calls) :
      Moves state none { state with free, waiting, calls, pending, looks }
  | refused (ticket : Ticket) (free : Nat) (waiting : List Ticket) (calls : Ticket → Call)
      (opened : (state.calls ticket).Open)
      (undecided : Undecided (put state.calls ticket .refused) calls) :
      Moves state (some (.refused ticket)) { state with free, waiting, calls }
  | stamped (ticket : Ticket) (message : Inbound)
      (counted : state.calls ticket = .counted message) :
      Moves state (some (.stamped ticket))
        (state.setCall ticket (.stamped ⟨ticket, state.epoch, message⟩))
  | sent (ticket : Ticket) (envelope : Envelope)
      (stamped : state.calls ticket = .stamped envelope) :
      Moves state (some (.sent ticket))
        ({ state with queue := state.queue ++ [envelope] }.setCall ticket .sent)
  | bumped (stop : Nat) (absent : state.stops stop = .absent) :
      Moves state (some (.bumped stop))
        { state with epoch := state.epoch + 1, stops := put state.stops stop .bumped }
  | sawRun (stop : Nat) (bumped : state.stops stop = .bumped) :
      Moves state none { state with stops := put state.stops stop (.sawRun state.run) }
  | returned (stop : Nat) (run : Option Ticket) (saw : state.stops stop = .sawRun run) :
      Moves state (some (.returned stop))
        { state with
          cancelledRuns := run.toList ++ state.cancelledRuns
          stops := put state.stops stop .returned }
  | taken (envelope : Envelope) (rest : List Envelope) (free : Nat) (waiting : List Ticket)
      (calls : Ticket → Call) (ready : state.worker = .ready)
      (queued : state.queue = envelope :: rest) (opened : state.rootCancelled = false)
      (undecided : Undecided state.calls calls) :
      Moves state (some (.taken envelope.ticket))
        { state with free, waiting, calls, queue := rest, worker := .received envelope }
  | recorded (envelope : Envelope) (received : state.worker = .received envelope) :
      Moves state none
        { state with run := some envelope.ticket, worker := .recorded envelope }
  | released (envelope : Envelope) (recorded : state.worker = .recorded envelope) :
      Moves state none
        { state with pending := state.pending - 1, worker := .released envelope }
  | discarded (envelope : Envelope) (released : state.worker = .released envelope)
      (stale : envelope.epoch < state.epoch) :
      Moves state (some (.checked envelope.ticket false))
        { state with worker := .rejected envelope }
  | accepted (envelope : Envelope) (released : state.worker = .released envelope)
      (fresh : state.epoch ≤ envelope.epoch) :
      Moves state (some (.checked envelope.ticket true))
        { state with worker := .accepted envelope }
  | passed (envelope : Envelope) (accepted : state.worker = .accepted envelope) :
      Moves state (some (.passed envelope.ticket)) { state with worker := .handling envelope }
  | finished (envelope : Envelope) (handling : state.worker = .handling envelope) :
      Moves state (some (.finished envelope.ticket)) { state with worker := .finished envelope }
  | cleared (envelope : Envelope)
      (ended : state.worker = .rejected envelope ∨ state.worker = .finished envelope) :
      Moves state none { state with run := none, worker := .ready }
  | closed : Moves state (some .closed) { state with rootCancelled := true }
  | exited (ready : state.worker = .ready) (cancelled : state.rootCancelled = true) :
      Moves state none { state with worker := .exited }

theorem undecided_same (calls : Ticket → Call) : Undecided calls calls := fun _ => .inl rfl

theorem undecided_put (calls : Ticket → Call) (ticket : Ticket) (call : Call)
    (before : (calls ticket).Open) (after : call.Open) :
    Undecided calls (put calls ticket call) := by
  intro other
  by_cases same : other = ticket
  · rw [same, put_same]
    exact .inr ⟨before, after⟩
  · rw [put_other _ _ _ _ same]
    exact .inl rfl

theorem free_slot_undecided (state : State) :
    ∃ free waiting calls, state.freeSlot = { state with free, waiting, calls } ∧
      Undecided state.calls calls := by
  rw [State.freeSlot]
  cases state.waiting with
  | nil => exact ⟨_, _, _, rfl, undecided_same _⟩
  | cons ticket rest =>
      dsimp only
      cases call : state.calls ticket with
      | waiting message =>
          refine ⟨_, rest, _, rfl, undecided_put _ ticket (.granted message) ?_ trivial⟩
          rw [call]
          trivial
      | _ => exact ⟨_, rest, _, rfl, undecided_same _⟩

variable (state next : State)

theorem open_prepared (ticket : Ticket) (call : Call) (before : (state.calls ticket).Open)
    (after : call.Open) : state.Moves none (state.setCall ticket call) :=
  .prepared _ _ _ _ _ (undecided_put _ ticket call before after)

theorem request_moves (ticket : Ticket) (message : Inbound)
    (possible : state.step (.request ticket message) = some next) : state.Moves none next := by
  simp only [State.step] at possible
  cases call : state.calls ticket with
  | absent =>
      have opened : (state.calls ticket).Open := by rw [call]; trivial
      simp only [call] at possible
      by_cases full : state.free = 0
      · rw [if_pos full, Option.some.injEq] at possible
        exact possible ▸ .prepared _ _ _ _ _ (undecided_put _ ticket _ opened trivial)
      · rw [if_neg full, Option.some.injEq] at possible
        exact possible ▸ .prepared _ _ _ _ _ (undecided_put _ ticket _ opened trivial)
  | _ => simp [call] at possible

theorem abandon_moves (ticket : Ticket) (possible : state.step (.abandon ticket) = some next) :
    state.Moves (some (.refused ticket)) next := by
  simp only [State.step] at possible
  cases call : state.calls ticket with
  | absent =>
      simp only [call, Option.some.injEq] at possible
      exact possible ▸ .refused ticket _ _ _ (by rw [call]; trivial) (undecided_same _)
  | waiting message =>
      simp only [call, Option.some.injEq] at possible
      exact possible ▸ .refused ticket _ _ _ (by rw [call]; trivial) (undecided_same _)
  | granted message =>
      obtain ⟨free, waiting, calls, slot, undecided⟩ :=
        free_slot_undecided (state.setCall ticket .refused)
      simp only [call, Option.some.injEq] at possible
      rw [← possible, slot]
      exact .refused ticket free waiting calls (by rw [call]; trivial) undecided
  | _ => simp [call] at possible

theorem receive_moves (possible : state.step .receive = some next) :
    state.Moves (state.entry .receive) next := by
  simp only [State.step] at possible
  cases worker : state.worker with
  | ready =>
      cases queue : state.queue with
      | nil => simp [worker, queue] at possible
      | cons envelope rest =>
          simp only [worker, queue] at possible
          cases cancelled : state.rootCancelled with
          | true => simp [cancelled] at possible
          | false =>
              obtain ⟨free, waiting, calls, slot, undecided⟩ := free_slot_undecided
                { state with queue := rest, worker := .received envelope }
              simp only [cancelled, Bool.false_eq_true, if_false, Option.some.injEq] at possible
              rw [← possible, ← cancelled, slot]
              simp only [State.entry, queue]
              exact .taken envelope rest free waiting calls worker queue cancelled undecided
  | _ => simp [worker] at possible

theorem check_moves (possible : state.step .check = some next) :
    state.Moves (state.entry .check) next := by
  simp only [State.step] at possible
  cases worker : state.worker with
  | released envelope =>
      simp only [worker, Option.some.injEq] at possible
      simp only [State.entry, worker]
      by_cases stale : envelope.epoch < state.epoch
      · have late : ¬ state.epoch ≤ envelope.epoch := Nat.not_le.mpr stale
        simp only [stale, if_true] at possible
        simp only [late, decide_false]
        exact possible ▸ .discarded envelope worker stale
      · have fresh : state.epoch ≤ envelope.epoch := Nat.not_lt.mp stale
        simp only [stale, if_false] at possible
        simp only [fresh, decide_true]
        exact possible ▸ .accepted envelope worker fresh
  | _ => simp [worker] at possible

theorem look_moves (step : Step) (look : Nat)
    (asks : step = .lookPending look ∨ step = .lookRun look)
    (possible : state.step step = some next) : state.Moves none next := by
  rcases asks with rfl | rfl
  · simp only [State.step] at possible
    split at possible <;> cases possible <;> exact .prepared _ _ _ _ _ (undecided_same _)
  · simp only [State.step] at possible
    split at possible <;> cases possible
    exact .prepared _ _ _ _ _ (undecided_same _)

theorem step_moves (step : Step) (possible : state.step step = some next) :
    state.Moves (state.entry step) next := by
  cases step with
  | request ticket message => exact request_moves state next ticket message possible
  | abandon ticket => exact abandon_moves state next ticket possible
  | enter ticket =>
      simp only [State.step] at possible
      cases call : state.calls ticket with
      | granted message =>
          cases cancelled : state.rootCancelled with
          | true => simp [call, cancelled] at possible
          | false =>
              simp only [call, cancelled, Bool.false_eq_true, if_false,
                Option.some.injEq] at possible
              exact possible ▸ open_prepared state ticket _ (by rw [call]; trivial) trivial
      | _ => simp [call] at possible
  | count ticket =>
      simp only [State.step] at possible
      cases call : state.calls ticket with
      | admitted message =>
          simp only [call, Option.some.injEq] at possible
          rw [← possible]
          exact .prepared _ _ _ _ _ (undecided_put _ ticket _ (by rw [call]; trivial) trivial)
      | _ => simp [call] at possible
  | stamp ticket =>
      simp only [State.step] at possible
      cases call : state.calls ticket with
      | counted message =>
          simp only [call, Option.some.injEq] at possible
          exact possible ▸ .stamped ticket message call
      | _ => simp [call] at possible
  | send ticket =>
      simp only [State.step] at possible
      cases call : state.calls ticket with
      | stamped envelope =>
          simp only [call, Option.some.injEq] at possible
          exact possible ▸ .sent ticket envelope call
      | _ => simp [call] at possible
  | bump stop =>
      simp only [State.step] at possible
      cases progress : state.stops stop with
      | absent =>
          simp only [progress, Option.some.injEq] at possible
          exact possible ▸ .bumped stop progress
      | _ => simp [progress] at possible
  | readRun stop =>
      simp only [State.step] at possible
      cases progress : state.stops stop with
      | bumped =>
          simp only [progress, Option.some.injEq] at possible
          exact possible ▸ .sawRun stop progress
      | _ => simp [progress] at possible
  | cancelRun stop =>
      simp only [State.step] at possible
      cases progress : state.stops stop with
      | sawRun run =>
          simp only [progress, Option.some.injEq] at possible
          exact possible ▸ .returned stop run progress
      | _ => simp [progress] at possible
  | lookPending look => exact look_moves state next _ look (.inl rfl) possible
  | lookRun look => exact look_moves state next _ look (.inr rfl) possible
  | receive => exact receive_moves state next possible
  | record =>
      simp only [State.step] at possible
      cases worker : state.worker with
      | received envelope =>
          simp only [worker, Option.some.injEq] at possible
          exact possible ▸ .recorded envelope worker
      | _ => simp [worker] at possible
  | release =>
      simp only [State.step] at possible
      cases worker : state.worker with
      | recorded envelope =>
          simp only [worker, Option.some.injEq] at possible
          exact possible ▸ .released envelope worker
      | _ => simp [worker] at possible
  | check => exact check_moves state next possible
  | invoke =>
      simp only [State.step] at possible
      cases worker : state.worker with
      | accepted envelope =>
          simp only [worker, Option.some.injEq] at possible
          simp only [State.entry, worker]
          exact possible ▸ .passed envelope worker
      | _ => simp [worker] at possible
  | finish =>
      simp only [State.step] at possible
      cases worker : state.worker with
      | handling envelope =>
          simp only [worker, Option.some.injEq] at possible
          simp only [State.entry, worker]
          exact possible ▸ .finished envelope worker
      | _ => simp [worker] at possible
  | clear =>
      simp only [State.step] at possible
      cases worker : state.worker with
      | rejected envelope =>
          simp only [worker, Option.some.injEq] at possible
          exact possible ▸ .cleared envelope (.inl worker)
      | finished envelope =>
          simp only [worker, Option.some.injEq] at possible
          exact possible ▸ .cleared envelope (.inr worker)
      | _ => simp [worker] at possible
  | cancelRoot =>
      cases possible
      exact .closed
  | exit =>
      simp only [State.step] at possible
      cases worker : state.worker with
      | ready =>
          cases cancelled : state.rootCancelled with
          | true =>
              simp only [worker, cancelled, if_true, Option.some.injEq] at possible
              rw [← possible, ← cancelled]
              exact .exited worker cancelled
          | false => simp [worker, cancelled] at possible
      | _ => simp [worker] at possible

theorem journal_append (state between : State) (first second : List Step)
    (possible : state.steps first = some between) :
    state.journal (first ++ second) = state.journal first ++ between.journal second := by
  induction first generalizing state with
  | nil =>
      cases possible
      rfl
  | cons step rest ih =>
      simp only [State.steps, Option.bind_eq_some_iff] at possible
      obtain ⟨next, now, later⟩ := possible
      simp only [List.cons_append, State.journal, now, ih next later, List.append_assoc]

theorem run_keeps (inv : Journal → State → Prop)
    (kept : ∀ journal entry state next, inv journal state → State.Moves state entry next →
      inv (journal ++ entry.toList) next)
    (journal : Journal) (state last : State) (run : List Step)
    (possible : state.steps run = some last) (starts : inv journal state) :
    inv (journal ++ state.journal run) last := by
  induction run generalizing journal state with
  | nil =>
      cases possible
      rwa [State.journal, List.append_nil]
  | cons step rest ih =>
      simp only [State.steps, Option.bind_eq_some_iff] at possible
      obtain ⟨next, now, later⟩ := possible
      simp only [State.journal, now, ← List.append_assoc]
      exact ih _ next later (kept _ _ _ _ starts (step_moves state next step now))

-- A division of a longer journal divides the shorter one, or it is at the last entry.
theorem split_added (journal early late : Journal) (last entry : Entry)
    (split : journal ++ [last] = early ++ entry :: late) :
    (early = journal ∧ entry = last ∧ late = []) ∨
      ∃ rest, journal = early ++ entry :: rest ∧ late = rest ++ [last] := by
  rcases List.eq_nil_or_concat late with rfl | ⟨rest, final, rfl⟩
  · obtain ⟨same, final⟩ := List.append_inj' split rfl
    exact .inl ⟨same.symm, (List.singleton_inj.mp final).symm, rfl⟩
  · rw [List.concat_eq_append, ← List.cons_append, ← List.append_assoc] at split
    obtain ⟨same, last⟩ := List.append_inj' split rfl
    exact .inr ⟨rest, same, by rw [List.concat_eq_append, last]⟩

def Before (first second : Entry) (journal : Journal) : Prop :=
  ∃ early late, journal = early ++ first :: late ∧ second ∈ late

theorem before_append (first second : Entry) (journal more : Journal)
    (ordered : Before first second journal) : Before first second (journal ++ more) := by
  obtain ⟨early, late, split, member⟩ := ordered
  refine ⟨early, late ++ more, ?_, List.mem_append_left more member⟩
  rw [split, List.append_assoc, List.cons_append]

theorem before_mem (first second : Entry) (journal : Journal)
    (ordered : Before first second journal) : first ∈ journal ∧ second ∈ journal := by
  obtain ⟨early, late, split, member⟩ := ordered
  rw [split]
  exact ⟨by simp, by simp [member]⟩

theorem before_last (first last : Entry) (journal : Journal) (member : first ∈ journal) :
    Before first last (journal ++ [last]) := by
  obtain ⟨early, late, split⟩ := List.append_of_mem member
  refine ⟨early, late ++ [last], ?_, by simp⟩
  rw [split, List.append_assoc, List.cons_append]

theorem before_added (first second last : Entry) (journal : Journal)
    (ordered : Before first second (journal ++ [last])) :
    Before first second journal ∨ first ∈ journal ∧ last = second := by
  obtain ⟨early, late, split, member⟩ := ordered
  rcases split_added journal early late last first split with
    ⟨_, _, nothing⟩ | ⟨rest, shorter, longer⟩
  · rw [nothing] at member
    cases member
  · rw [longer] at member
    rcases List.mem_append.mp member with within | atEnd
    · exact .inl ⟨early, rest, shorter, within⟩
    · exact .inr ⟨by simp [shorter], (List.mem_singleton.mp atEnd).symm⟩

theorem before_new (first second : Entry) (journal more : Journal)
    (ordered : Before first second (journal ++ more)) (new : first ∉ journal) : second ∈ more := by
  obtain ⟨early, late, split, member⟩ := ordered
  rcases List.append_eq_append_iff.mp split with ⟨middle, _, rest⟩ | ⟨middle, shorter, rest⟩
  · rw [rest]
    exact List.mem_append_right _ (List.mem_cons_of_mem _ member)
  · cases middle with
    | nil =>
        rw [← List.nil_append more, ← rest]
        exact List.mem_cons_of_mem _ member
    | cons entry others =>
        obtain ⟨rfl, _⟩ := List.cons.inj rest
        exact absurd (by simp [shorter]) new

end Dialogue.Dispatch
