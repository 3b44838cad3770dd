import Dialogue.Proofs.Dispatch.Barrier
import Mathlib.Data.List.Perm.Subperm

/-!
The counter of pending messages, and what it means that a dispatcher was found idle. A call counts
its message before it sends it, and the worker takes the message off the counter only after it has
recorded the run. So a look that finds the counter at zero and then no run on record has seen the
end of every message that was sent before the look began.
-/

set_option autoImplicit false

namespace Dialogue.Dispatch

def Step.counted? : Step → Option Ticket
  | .count ticket => some ticket
  | _ => none

def counted (run : List Step) : List Ticket := run.filterMap Step.counted?

namespace State

def taken? (state : State) (step : Step) : Option Ticket :=
  (state.entry step).bind (Entry.arrival .taken)

def released? (state : State) : Step → Option Ticket
  | .release =>
    match state.worker with
    | .recorded envelope => some envelope.ticket
    | _ => none
  | _ => none

def released (state : State) : List Step → List Ticket
  | [] => []
  | step :: rest =>
    match state.step step with
    | none => []
    | some next => (state.released? step).toList ++ next.released rest

end State

def Call.Counted : Call → Prop
  | .counted _ | .stamped _ | .sent => True
  | _ => False

def Worker.unreleased : Worker → List Ticket
  | .received envelope | .recorded envelope => [envelope.ticket]
  | _ => []

-- All that a step can do to the counter: what is counted, taken from the queue and released.
inductive State.Tallies (state next : State) :
    Option Ticket → Option Ticket → Option Ticket → Prop where
  | nothing (pending : next.pending = state.pending)
      (calls : ∀ other, (next.calls other).Counted ↔ (state.calls other).Counted)
      (worker : next.worker.unreleased = state.worker.unreleased) :
      Tallies state next none none none
  | counted (ticket : Ticket) (pending : next.pending = state.pending + 1)
      (new : ¬ (state.calls ticket).Counted)
      (calls : ∀ other, (next.calls other).Counted ↔
        (state.calls other).Counted ∨ other = ticket)
      (worker : next.worker = state.worker) :
      Tallies state next (some ticket) none none
  | taken (ticket : Ticket) (pending : next.pending = state.pending)
      (calls : ∀ other, (next.calls other).Counted ↔ (state.calls other).Counted)
      (idle : state.worker.unreleased = []) (worker : next.worker.unreleased = [ticket]) :
      Tallies state next none (some ticket) none
  | released (ticket : Ticket) (pending : next.pending = state.pending - 1)
      (calls : next.calls = state.calls)
      (held : state.worker.unreleased = [ticket]) (worker : next.worker.unreleased = []) :
      Tallies state next none none (some ticket)

variable (state next : State)

theorem put_counted (calls : Ticket → Call) (ticket : Ticket) (call : Call)
    (same : call.Counted ↔ (calls ticket).Counted) :
    ∀ other, (put calls ticket call other).Counted ↔ (calls other).Counted := by
  intro other
  by_cases own : other = ticket
  · rw [own, put_same]
    exact same
  · rw [put_other _ _ _ _ own]

theorem free_slot_tallies (pending : next.pending = state.pending)
    (calls : ∀ other, (next.calls other).Counted ↔ (state.calls other).Counted) :
    next.freeSlot.pending = state.pending ∧ next.freeSlot.worker = next.worker ∧
      ∀ other, (next.freeSlot.calls other).Counted ↔ (state.calls other).Counted := by
  rw [State.freeSlot]
  cases next.waiting with
  | nil => exact ⟨pending, rfl, calls⟩
  | cons ticket rest =>
      dsimp only
      cases call : next.calls ticket with
      | waiting message =>
          have same := put_counted next.calls ticket (.granted message) (by rw [call]; rfl)
          exact ⟨pending, rfl, fun other => (same other).trans (calls other)⟩
      | _ => exact ⟨pending, rfl, calls⟩

theorem put_tallies (ticket : Ticket) (call : Call) (pending : next.pending = state.pending)
    (calls : next.calls = put state.calls ticket call) (worker : next.worker = state.worker)
    (same : call.Counted ↔ (state.calls ticket).Counted) :
    state.Tallies next none none none := by
  refine .nothing pending ?_ (by rw [worker])
  rw [calls]
  exact put_counted state.calls ticket call same

theorem call_tallies (step : Step) (ticket : Ticket)
    (own : (∃ message, step = .request ticket message) ∨ step = .abandon ticket ∨
      step = .enter ticket ∨ step = .stamp ticket ∨ step = .send ticket)
    (possible : state.step step = some next) : state.Tallies next none none none := by
  rcases own with ⟨message, rfl⟩ | rfl | rfl | rfl | rfl <;> simp only [State.step] at possible <;>
    split at possible <;> rename_i call
  · split at possible <;> cases possible <;>
      exact put_tallies state _ ticket _ rfl rfl rfl (by rw [call]; rfl)
  · cases possible
  · cases possible
    exact put_tallies state _ ticket _ rfl rfl rfl (by rw [call]; rfl)
  · cases possible
    exact put_tallies state _ ticket _ rfl rfl rfl (by rw [call]; rfl)
  · cases possible
    obtain ⟨pending, worker, calls⟩ := free_slot_tallies state (state.setCall ticket .refused) rfl
      (put_counted state.calls ticket .refused (by rw [call]; rfl))
    exact .nothing pending calls (by rw [worker]; rfl)
  · cases possible
  · split at possible <;> cases possible
    exact put_tallies state _ ticket _ rfl rfl rfl (by rw [call]; rfl)
  · cases possible
  · cases possible
    exact put_tallies state _ ticket _ rfl rfl rfl (by rw [call]; rfl)
  · cases possible
  · cases possible
    exact put_tallies state _ ticket _ rfl rfl rfl (by rw [call]; rfl)
  · cases possible

theorem count_tallies (ticket : Ticket) (possible : state.step (.count ticket) = some next) :
    state.Tallies next (some ticket) none none := by
  simp only [State.step] at possible
  split at possible <;> rename_i call <;> cases possible
  refine .counted ticket rfl (by rw [call]; exact id) ?_ rfl
  intro other
  change (put state.calls ticket _ other).Counted ↔ _
  by_cases own : other = ticket
  · simp [own, put_same, Call.Counted]
  · simp [put_other _ _ _ _ own, own]

theorem taken_elsewhere (step : Step) (other : step ≠ .receive) : state.taken? step = none := by
  cases step with
  | receive => exact absurd rfl other
  | check | invoke | finish =>
      cases worker : state.worker <;> simp [State.taken?, State.entry, worker, Entry.arrival]
  | _ => rfl

theorem receive_tallies (possible : state.step .receive = some next) :
    state.Tallies next none (state.taken? .receive) none := by
  simp only [State.step] at possible
  split at possible
  · rename_i envelope rest worker queue
    split at possible <;> cases possible
    obtain ⟨pending, held, calls⟩ := free_slot_tallies state
      { state with queue := rest, worker := .received envelope } rfl fun _ => Iff.rfl
    have taken : state.taken? .receive = some envelope.ticket := by
      rw [State.taken?, State.entry, queue]
      rfl
    rw [taken]
    exact .taken envelope.ticket pending calls (by rw [worker]; rfl) (by rw [held]; rfl)
  · cases possible

theorem release_tallies (possible : state.step .release = some next) :
    state.Tallies next none none (state.released? .release) := by
  simp only [State.step] at possible
  split at possible <;> rename_i worker <;> cases possible
  rename_i envelope
  have released : state.released? .release = some envelope.ticket := by
    rw [State.released?, worker]
  rw [released]
  exact .released envelope.ticket rfl rfl (by rw [worker]; rfl) rfl

theorem step_tallies (step : Step) (possible : state.step step = some next) :
    state.Tallies next step.counted? (state.taken? step) (state.released? step) := by
  cases step with
  | request ticket message =>
      exact call_tallies state next _ ticket (.inl ⟨message, rfl⟩) possible
  | abandon ticket | enter ticket | stamp ticket | send ticket =>
      exact call_tallies state next _ ticket (by simp) possible
  | count ticket => exact count_tallies state next ticket possible
  | receive => exact receive_tallies state next possible
  | release => exact release_tallies state next possible
  | bump | readRun | cancelRun | lookPending | lookRun =>
      simp only [State.step] at possible
      split at possible <;> cases possible <;> exact .nothing rfl (fun _ => Iff.rfl) rfl
  | cancelRoot =>
      cases possible
      exact .nothing rfl (fun _ => Iff.rfl) rfl
  | record =>
      simp only [State.step] at possible
      split at possible <;> rename_i worker <;> cases possible
      exact .nothing rfl (fun _ => Iff.rfl) (by rw [worker]; rfl)
  | invoke | finish =>
      rw [taken_elsewhere state _ (by simp)]
      simp only [State.step] at possible
      split at possible <;> rename_i worker <;> cases possible
      exact .nothing rfl (fun _ => Iff.rfl) (by rw [worker]; rfl)
  | check =>
      rw [taken_elsewhere state _ (by simp)]
      simp only [State.step] at possible
      split at possible <;> rename_i worker <;> cases possible
      refine .nothing rfl (fun _ => Iff.rfl) ?_
      rw [worker]
      dsimp only
      split <;> rfl
  | clear =>
      simp only [State.step] at possible
      split at possible <;> rename_i worker <;> cases possible <;>
        exact .nothing rfl (fun _ => Iff.rfl) (by rw [worker]; rfl)
  | exit =>
      simp only [State.step] at possible
      split at possible <;> rename_i worker
      · split at possible <;> cases possible
        exact .nothing rfl (fun _ => Iff.rfl) (by rw [worker]; rfl)
      · cases possible

-- What is counted is either released or still on the counter, and the worker releases what it took
-- in order.
structure Tallied (counted released : List Ticket) (journal : Journal) (state : State) : Prop where
  pending : counted.length = released.length + state.pending
  once : counted.Nodup
  calls : ∀ ticket, ticket ∈ counted ↔ (state.calls ticket).Counted
  taken : arrivals .taken journal = released ++ state.worker.unreleased

variable {state next} {journal : Journal} {counted released : List Ticket}

theorem taken_counted (inv : Tallied counted released journal state)
    (accounted : Accounted journal state) : ∀ ticket ∈ arrivals .taken journal, ticket ∈ counted := by
  intro ticket taken
  have sent : ticket ∈ arrivals .sent journal := by
    rw [accounted.conveyed.queued]
    exact List.mem_append_left _ taken
  rw [inv.calls, (accounted.calls.each ticket).sent.mp ((sent_iff ticket journal).mp sent)]
  trivial

theorem unreleased_pending (inv : Tallied counted released journal state)
    (accounted : Accounted journal state) : state.worker.unreleased.length ≤ state.pending := by
  have bound := (List.subperm_of_subset (taken_once journal state accounted)
    (taken_counted inv accounted)).length_le
  rw [inv.taken, List.length_append, inv.pending] at bound
  omega

theorem tallied_kept (entry : Option Entry) (added dropped : Option Ticket)
    (inv : Tallied counted released journal state) (accounted : Accounted journal state)
    (tallies : state.Tallies next added (entry.bind (Entry.arrival .taken)) dropped) :
    Tallied (counted ++ added.toList) (released ++ dropped.toList) (journal ++ entry.toList)
      next := by
  have arrived : arrivals .taken (journal ++ entry.toList) =
      arrivals .taken journal ++ (entry.bind (Entry.arrival .taken)).toList := by
    rw [arrivals_append]
    cases entry with
    | none => rfl
    | some entry => rw [Option.toList_some, arrivals_one, Option.bind_some]
  have bound := unreleased_pending inv accounted
  obtain ⟨pending, once, calls, taken⟩ := inv
  rw [taken] at arrived
  generalize entry.bind (Entry.arrival .taken) = now at tallies arrived
  cases tallies with
  | nothing same others worker =>
      refine ⟨by simpa [same] using pending, by simpa using once, ?_, ?_⟩
      · intro ticket
        rw [others, ← calls]
        simp
      · rw [arrived, worker]
        simp
  | counted ticket more new others worker =>
      refine ⟨?_, ?_, ?_, ?_⟩
      · rw [more, Option.toList_some, List.length_append, pending]
        simp [Nat.add_assoc]
      · exact nodup_added counted ticket once fun member => new ((calls ticket).mp member)
      · intro other
        rw [others, ← calls]
        simp
      · rw [arrived, worker]
        simp
  | taken ticket same others idle worker =>
      refine ⟨by simpa [same] using pending, by simpa using once, ?_, ?_⟩
      · intro other
        rw [others, ← calls]
        simp
      · rw [arrived, idle, worker]
        simp
  | released ticket fewer same held worker =>
      rw [held, List.length_singleton] at bound
      refine ⟨?_, by simpa using once, ?_, ?_⟩
      · rw [fewer, Option.toList_some, Option.toList_none, List.append_nil, List.length_append,
          List.length_singleton, pending]
        omega
      · intro other
        rw [same, ← calls]
        simp
      · rw [arrived, held, worker]
        simp

theorem initial_tallied (capacity : Nat) : Tallied [] [] [] (State.initial capacity) where
  pending := rfl
  once := List.nodup_nil
  calls := fun _ => ⟨fun member => absurd member List.not_mem_nil, fun counted => counted.elim⟩
  taken := rfl

theorem released_counted (inv : Tallied counted released journal state)
    (accounted : Accounted journal state) :
    released.Nodup ∧ ∀ ticket ∈ released, ticket ∈ counted := by
  have taken := taken_counted inv accounted
  have once := taken_once journal state accounted
  rw [inv.taken] at taken once
  exact ⟨(List.nodup_append.mp once).1, fun ticket member =>
    taken ticket (List.mem_append_left _ member)⟩

theorem pending_exact (inv : Tallied counted released journal state)
    (accounted : Accounted journal state) :
    state.pending = (counted.filter fun ticket => ticket ∉ released).length := by
  obtain ⟨once, within⟩ := released_counted inv accounted
  have both : (counted.filter fun ticket => ticket ∈ released).Perm released := by
    rw [List.perm_ext_iff_of_nodup (inv.once.filter _) once]
    intro ticket
    simpa using within ticket
  have whole := List.length_eq_length_filter_add (l := counted) fun ticket => ticket ∈ released
  rw [both.length_eq, inv.pending] at whole
  simpa using whole

theorem none_pending (inv : Tallied counted released journal state)
    (accounted : Accounted journal state) (zero : state.pending = 0) :
    ∀ ticket ∈ counted, ticket ∈ released := by
  intro ticket member
  by_contra left
  have empty := pending_exact inv accounted
  rw [zero, eq_comm, List.length_eq_zero_iff, List.filter_eq_nil_iff] at empty
  exact empty ticket member (by simpa using left)

def Settled (journal : Journal) (ticket : Ticket) : Prop :=
  .finished ticket ∈ journal ∨ .checked ticket false ∈ journal

theorem settled_of_released (inv : Tallied counted released journal state)
    (barred : Barred journal state) (idle : state.run = none) (ticket : Ticket)
    (member : ticket ∈ released) : Settled journal ticket := by
  have unrecorded : state.worker.onRecord = none := by
    by_contra recorded
    obtain ⟨envelope, held⟩ := Option.ne_none_iff_exists'.mp recorded
    rw [barred.guarded.recorded envelope held] at idle
    cases idle
  have once := taken_once journal state barred.accounted
  obtain ⟨_, checked, passed, finished⟩ := barred.accounted.conveyed
  rw [inv.taken] at once
  have apart := (List.nodup_append.mp once).2.2
  have taken : ticket ∈ arrivals .taken journal := by
    rw [inv.taken]
    exact List.mem_append_left _ member
  rw [checked] at taken
  have judged : ticket ∈ arrivals .checked journal := by
    rcases List.mem_append.mp taken with judged | held
    · exact judged
    · refine absurd rfl (apart ticket member ticket ?_)
      cases worker : state.worker <;> simp_all [Worker.before, Worker.unreleased, Worker.onRecord]
  obtain ⟨fresh, verdict⟩ := (checked_iff ticket journal).mp judged
  cases fresh with
  | false => exact .inr verdict
  | true =>
      have nothing : state.worker.before .passed = [] ∧ state.worker.before .finished = [] := by
        cases worker : state.worker <;> simp_all [Worker.before, Worker.onRecord]
      rw [← fresh_iff, passed, finished, nothing.1, nothing.2, List.append_nil,
        List.append_nil] at verdict
      exact .inl ((finished_iff ticket journal).mp verdict)

theorem run_keeps_tallies (inv : List Ticket → List Ticket → Journal → State → Prop)
    (kept : ∀ counted released journal state next step, inv counted released journal state →
      state.step step = some next →
        inv (counted ++ step.counted?.toList) (released ++ (state.released? step).toList)
          (journal ++ (state.entry step).toList) next)
    (counted released : List Ticket) (journal : Journal) (first last : State) (run : List Step)
    (possible : first.steps run = some last) (starts : inv counted released journal first) :
    inv (counted ++ Dispatch.counted run) (released ++ first.released run)
      (journal ++ first.journal run) last := by
  induction run generalizing counted released journal first with
  | nil =>
      cases possible
      simpa [State.journal, State.released, Dispatch.counted] using starts
  | cons step rest ih =>
      simp only [State.steps, Option.bind_eq_some_iff] at possible
      obtain ⟨next, now, later⟩ := possible
      have onward := ih _ _ _ next later (kept _ _ _ _ next step starts now)
      have split : Dispatch.counted (step :: rest) =
          step.counted?.toList ++ Dispatch.counted rest := by
        rw [Dispatch.counted, List.filterMap_cons]
        cases step.counted? <;> rfl
      simpa only [split, State.journal, State.released, now, List.append_assoc] using onward

structure Watched (counted released : List Ticket) (journal : Journal) (state : State) : Prop where
  tallied : Tallied counted released journal state
  barred : Barred journal state

theorem watched_kept (step : Step) (inv : Watched counted released journal state)
    (possible : state.step step = some next) :
    Watched (counted ++ step.counted?.toList) (released ++ (state.released? step).toList)
      (journal ++ (state.entry step).toList) next where
  tallied := tallied_kept _ _ _ inv.tallied inv.barred.accounted (step_tallies state next step possible)
  barred := barred_kept journal _ state next inv.barred (step_moves state next step possible)

theorem run_watched (capacity : Nat) (run : List Step)
    (possible : (State.initial capacity).steps run = some state) :
    Watched (Dispatch.counted run) ((State.initial capacity).released run)
      ((State.initial capacity).journal run) state := by
  simpa using run_keeps_tallies Watched
    (fun _ _ _ _ _ step inv possible => watched_kept step inv possible) [] [] []
    (State.initial capacity) state run possible
    ⟨initial_tallied capacity, initial_barred capacity⟩

-- What a look has found out about messages that were sent before it began.
def Look.Found (early released : List Ticket) (journal : Journal) (exited : Bool) : Look → Prop
  | .sawPending pending => pending = 0 → ∀ ticket ∈ early, ticket ∈ released
  | .answered true => exited = true ∨ ∀ ticket ∈ early, Settled journal ticket
  | _ => True

theorem found_later (early more : List Ticket) (later : Journal) (exited after : Bool) (look : Look)
    (found : look.Found early released journal exited) (stays : exited = true → after = true) :
    look.Found early (released ++ more) (journal ++ later) after := by
  cases look with
  | absent => trivial
  | sawPending pending =>
      exact fun zero ticket member => List.mem_append_left _ (found zero ticket member)
  | answered idle =>
      cases idle with
      | false => trivial
      | true =>
          rcases found with gone | settled
          · exact .inl (stays gone)
          · refine .inr fun ticket member => ?_
            exact (settled ticket member).imp (List.mem_append_left _) (List.mem_append_left _)

theorem exited_stays (entry : Option Entry) (moves : state.Moves entry next)
    (exited : state.hasExited = true) : next.hasExited = true := by
  rw [State.hasExited] at exited
  cases worker : state.worker <;> rw [worker] at exited <;> try cases exited
  cases moves <;> simp_all [State.hasExited, State.setCall]

theorem free_slot_looks (state : State) : state.freeSlot.looks = state.looks := by
  rw [State.freeSlot]
  split
  · rfl
  · split <;> rfl

theorem step_looks (step : Step) (possible : state.step step = some next) :
    (∃ look, step = .lookPending look ∨ step = .lookRun look) ∨ next.looks = state.looks := by
  cases step with
  | lookPending look => exact .inl ⟨look, .inl rfl⟩
  | lookRun look => exact .inl ⟨look, .inr rfl⟩
  | cancelRoot =>
      cases possible
      exact .inr rfl
  | abandon ticket =>
      simp only [State.step] at possible
      split at possible <;> cases possible
      · exact .inr rfl
      · exact .inr rfl
      · exact .inr (free_slot_looks _)
  | receive =>
      simp only [State.step] at possible
      split at possible
      · split at possible <;> cases possible
        exact .inr (free_slot_looks _)
      · cases possible
  | request | enter | exit =>
      simp only [State.step] at possible
      split at possible
      · split at possible <;> cases possible <;> exact .inr rfl
      · cases possible
  | count | stamp | send | bump | readRun | cancelRun | record | release | check | invoke | finish
  | clear =>
      simp only [State.step] at possible
      split at possible <;> cases possible <;> exact .inr rfl

structure Looking (early : List Ticket) (look : Nat) (counted released : List Ticket)
    (journal : Journal) (state : State) : Prop where
  watched : Watched counted released journal state
  counted : ∀ ticket ∈ early, ticket ∈ counted
  found : (state.looks look).Found early released journal state.hasExited

theorem began_found (early : List Ticket) (watched : Watched counted released journal state)
    (known : ∀ ticket ∈ early, ticket ∈ counted) :
    (if state.hasExited then Look.answered true else .sawPending state.pending).Found early
      released journal state.hasExited := by
  cases gone : state.hasExited with
  | true => exact .inl rfl
  | false =>
      intro zero ticket member
      exact none_pending watched.tallied watched.barred.accounted zero ticket (known ticket member)

theorem ended_found (early : List Ticket) (watched : Watched counted released journal state)
    (pending : Nat)
    (found : (Look.sawPending pending).Found early released journal state.hasExited) :
    (Look.answered (pending = 0 && !state.isRunning)).Found early released journal
      state.hasExited := by
  cases idle : decide (pending = 0) && !state.isRunning with
  | false => trivial
  | true =>
      simp only [State.isRunning, Bool.and_eq_true, decide_eq_true_eq, Bool.not_eq_true',
        Option.isSome_eq_false_iff, Option.isNone_iff_eq_none] at idle
      refine .inr fun ticket member => ?_
      exact settled_of_released watched.tallied watched.barred idle.2 ticket
        (found idle.1 ticket member)

theorem looking_kept (early : List Ticket) (look : Nat) (step : Step)
    (inv : Looking early look counted released journal state)
    (possible : state.step step = some next) :
    Looking early look (counted ++ step.counted?.toList)
      (released ++ (state.released? step).toList) (journal ++ (state.entry step).toList) next := by
  obtain ⟨watched, known, found⟩ := inv
  have stays := exited_stays _ (step_moves state next step possible)
  refine ⟨watched_kept step watched possible,
    fun ticket member => List.mem_append_left _ (known ticket member), ?_⟩
  apply found_later early _ _ _ _ _ _ stays
  rcases step_looks step possible with ⟨other, rfl | rfl⟩ | same
  · by_cases own : look = other
    · subst own
      have began := began_found early watched known
      simp only [State.step] at possible
      split at possible <;> cases possible <;> simpa only [put_same] using began
    · simp only [State.step] at possible
      split at possible <;> cases possible <;> simpa only [put_other _ _ _ _ own] using found
  · by_cases own : look = other
    · subst own
      simp only [State.step] at possible
      split at possible <;> rename_i saw <;> cases possible
      rw [saw] at found
      simpa only [put_same] using ended_found early watched _ found
    · simp only [State.step] at possible
      split at possible <;> cases possible
      simpa only [put_other _ _ _ _ own] using found
  · rw [same]
    exact found

structure Watch (run : List Step) (released : List Ticket) (journal : Journal) (state : State) :
    Prop where
  once : (Dispatch.counted run).Nodup
  within : released.Nodup ∧ ∀ ticket ∈ released, ticket ∈ Dispatch.counted run
  exact : state.pending = ((Dispatch.counted run).filter fun ticket => ticket ∉ released).length
  decrement : ∀ next, state.step .release = some next → state.pending = next.pending + 1
  idle : ∀ look, state.looks look = .absent → ∀ rest last, state.steps rest = some last →
    last.looks look = .answered true → last.hasExited = false →
      ∀ ticket, .sent ticket ∈ journal → Settled (journal ++ state.journal rest) ticket

theorem idle_settles_sent (capacity : Nat) (run : List Step) (state : State)
    (possible : (State.initial capacity).steps run = some state) :
    Watch run ((State.initial capacity).released run) ((State.initial capacity).journal run)
      state := by
  have watched := run_watched capacity run possible
  have accounted := watched.barred.accounted
  refine ⟨watched.tallied.once, released_counted watched.tallied accounted,
    pending_exact watched.tallied accounted, ?_, ?_⟩
  · intro next released
    have held := unreleased_pending watched.tallied accounted
    simp only [State.step] at released
    split at released <;> rename_i worker <;> cases released
    rw [worker] at held
    change 1 ≤ state.pending at held
    change state.pending = state.pending - 1 + 1
    omega
  · intro look absent rest last onward answered running ticket sent
    have starts : Looking (arrivals .sent ((State.initial capacity).journal run)) look
        (Dispatch.counted run) ((State.initial capacity).released run)
        ((State.initial capacity).journal run) state := by
      refine ⟨watched, ?_, by rw [absent]; trivial⟩
      intro other member
      have call := (accounted.calls.each other).sent.mp ((sent_iff other _).mp member)
      rw [watched.tallied.calls, call]
      trivial
    have looked := run_keeps_tallies (Looking _ look)
      (fun _ _ _ _ _ step inv possible => looking_kept _ look step inv possible) _ _ _ state last
      rest onward starts
    have found := looked.found
    rw [answered, running] at found
    rcases found with gone | settled
    · cases gone
    · exact settled ticket ((sent_iff ticket _).mpr sent)

def waitingRun : List Step :=
  let message := Inbound.ofText "local" "hi"
  .request 0 message :: sending 0 ++ .request 1 message :: sending 1

def drainingRun : List Step :=
  takingOver ++ [.lookPending 0, .lookRun 0, .invoke] ++ stopping 0 ++ [.finish, .clear] ++
    takingOver ++ [.lookPending 0, .clear, .lookRun 0]

theorem drained_run_settled :
    ∃ state last, (State.initial 2).steps waitingRun = some state ∧
      Watch waitingRun ((State.initial 2).released waitingRun)
        ((State.initial 2).journal waitingRun) state ∧
      state.pending = 2 ∧ state.looks 0 = .absent ∧ state.steps drainingRun = some last ∧
      last.looks 0 = .answered true ∧ last.hasExited = false ∧
      Settled ((State.initial 2).journal waitingRun ++ state.journal drainingRun) 1 := by
  have watch := idle_settles_sent 2 waitingRun _ rfl
  exact ⟨_, _, rfl, watch, rfl, rfl, rfl, rfl, rfl,
    watch.idle 0 rfl drainingRun _ rfl rfl rfl 1 (by decide)⟩

end Dialogue.Dispatch
