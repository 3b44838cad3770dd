import Dialogue.Proofs.Dispatch.Journal
import Mathlib.Data.List.Nodup

set_option autoImplicit false

namespace Dialogue.Dispatch

-- What a message comes to, one after the other; only some are fresh when they are checked.
inductive Stage where
  | stamped
  | sent
  | taken
  | checked
  | fresh
  | passed
  | finished

def Entry.arrival : Stage → Entry → Option Ticket
  | .stamped, .stamped ticket => some ticket
  | .sent, .sent ticket => some ticket
  | .taken, .taken ticket => some ticket
  | .checked, .checked ticket _ => some ticket
  | .fresh, .checked ticket true => some ticket
  | .passed, .passed ticket => some ticket
  | .finished, .finished ticket => some ticket
  | _, _ => none

def arrivals (stage : Stage) (journal : Journal) : List Ticket :=
  journal.filterMap (Entry.arrival stage)

theorem arrivals_append (stage : Stage) (first second : Journal) :
    arrivals stage (first ++ second) = arrivals stage first ++ arrivals stage second :=
  List.filterMap_append

theorem arrivals_one (stage : Stage) (entry : Entry) :
    arrivals stage [entry] = (entry.arrival stage).toList := by
  cases arrived : entry.arrival stage <;> simp [arrivals, arrived]

def Worker.before : Stage → Worker → List Ticket
  | .checked, .received envelope => [envelope.ticket]
  | .checked, .recorded envelope => [envelope.ticket]
  | .checked, .released envelope => [envelope.ticket]
  | .passed, .accepted envelope => [envelope.ticket]
  | .finished, .handling envelope => [envelope.ticket]
  | _, _ => []

def Call.HasStamp : Call → Prop
  | .stamped _ | .sent => True
  | _ => False

structure Call.Journaled (call : Call) (ticket : Ticket) (journal : Journal) : Prop where
  stamped : .stamped ticket ∈ journal ↔ call.HasStamp
  sent : .sent ticket ∈ journal ↔ call = .sent
  refused : .refused ticket ∈ journal → call = .refused
  own : ∀ envelope, call = .stamped envelope → envelope.ticket = ticket

structure CallsJournaled (journal : Journal) (state : State) : Prop where
  each : ∀ ticket, (state.calls ticket).Journaled ticket journal
  stampedOnce : (arrivals .stamped journal).Nodup
  sentOnce : (arrivals .sent journal).Nodup

-- What has come to a stage is what has come to the next one, but for what is in between.
structure Conveyed (journal : Journal) (state : State) : Prop where
  queued : arrivals .sent journal =
    arrivals .taken journal ++ state.queue.map Envelope.ticket
  checked : arrivals .taken journal = arrivals .checked journal ++ state.worker.before .checked
  passed : arrivals .fresh journal = arrivals .passed journal ++ state.worker.before .passed
  finished : arrivals .passed journal = arrivals .finished journal ++ state.worker.before .finished

theorem arrived_iff (stage : Stage) (ticket : Ticket) (journal : Journal) :
    ticket ∈ arrivals stage journal ↔ ∃ entry ∈ journal, entry.arrival stage = some ticket :=
  List.mem_filterMap

theorem entry_iff (stage : Stage) (made : Ticket → Entry)
    (only : ∀ entry ticket, Entry.arrival stage entry = some ticket ↔ entry = made ticket)
    (ticket : Ticket) (journal : Journal) :
    ticket ∈ arrivals stage journal ↔ made ticket ∈ journal := by
  rw [arrived_iff]
  constructor
  · rintro ⟨entry, member, arrived⟩
    exact (only entry ticket).mp arrived ▸ member
  · exact fun member => ⟨_, member, (only _ ticket).mpr rfl⟩

theorem stamped_iff (ticket : Ticket) (journal : Journal) :
    ticket ∈ arrivals .stamped journal ↔ .stamped ticket ∈ journal :=
  entry_iff .stamped .stamped (by intro entry; cases entry <;> simp [Entry.arrival]) ticket journal

theorem sent_iff (ticket : Ticket) (journal : Journal) :
    ticket ∈ arrivals .sent journal ↔ .sent ticket ∈ journal :=
  entry_iff .sent .sent (by intro entry; cases entry <;> simp [Entry.arrival]) ticket journal

theorem taken_iff (ticket : Ticket) (journal : Journal) :
    ticket ∈ arrivals .taken journal ↔ .taken ticket ∈ journal :=
  entry_iff .taken .taken (by intro entry; cases entry <;> simp [Entry.arrival]) ticket journal

theorem passed_iff (ticket : Ticket) (journal : Journal) :
    ticket ∈ arrivals .passed journal ↔ .passed ticket ∈ journal :=
  entry_iff .passed .passed (by intro entry; cases entry <;> simp [Entry.arrival]) ticket journal

theorem finished_iff (ticket : Ticket) (journal : Journal) :
    ticket ∈ arrivals .finished journal ↔ .finished ticket ∈ journal :=
  entry_iff .finished .finished (by intro entry; cases entry <;> simp [Entry.arrival]) ticket
    journal

theorem fresh_iff (ticket : Ticket) (journal : Journal) :
    ticket ∈ arrivals .fresh journal ↔ .checked ticket true ∈ journal := by
  refine entry_iff .fresh (.checked · true) ?_ ticket journal
  intro entry
  cases entry with
  | checked other fresh => cases fresh <;> simp [Entry.arrival]
  | _ => simp [Entry.arrival]

theorem checked_iff (ticket : Ticket) (journal : Journal) :
    ticket ∈ arrivals .checked journal ↔ ∃ fresh, .checked ticket fresh ∈ journal := by
  rw [arrived_iff]
  constructor
  · rintro ⟨entry, member, arrived⟩
    cases entry <;> simp [Entry.arrival] at arrived
    exact ⟨_, arrived ▸ member⟩
  · rintro ⟨fresh, member⟩
    exact ⟨_, member, rfl⟩

theorem open_unjournaled (call : Call) (ticket : Ticket) (journal : Journal)
    (known : call.Journaled ticket journal) (opened : call.Open) :
    .stamped ticket ∉ journal ∧ .sent ticket ∉ journal := by
  cases call <;> first
    | exact opened.elim
    | exact ⟨known.stamped.mp, fun member => nomatch known.sent.mp member⟩

theorem open_journaled (call later : Call) (ticket : Ticket) (journal : Journal)
    (known : call.Journaled ticket journal) (before : call.Open) (after : later.Open) :
    later.Journaled ticket journal := by
  obtain ⟨stamped, sent, refused, own⟩ := known
  cases call <;> first
    | exact before.elim
    | cases later <;> first
      | exact after.elim
      | exact ⟨stamped.trans Iff.rfl, by simpa using sent, by simpa using refused, by simp⟩

theorem calls_undecided (journal : Journal) (state next : State)
    (inv : CallsJournaled journal state) (undecided : Undecided state.calls next.calls) :
    CallsJournaled journal next := by
  obtain ⟨each, stampedOnce, sentOnce⟩ := inv
  refine ⟨?_, stampedOnce, sentOnce⟩
  intro ticket
  rcases undecided ticket with same | ⟨before, after⟩
  · rw [same]
    exact each ticket
  · exact open_journaled _ _ ticket journal (each ticket) before after

theorem journaled_added (call : Call) (ticket : Ticket) (journal : Journal) (entry : Entry)
    (known : call.Journaled ticket journal)
    (foreign : entry ≠ .stamped ticket ∧ entry ≠ .sent ticket ∧ entry ≠ .refused ticket) :
    call.Journaled ticket (journal ++ [entry]) := by
  obtain ⟨stamped, sent, refused, own⟩ := known
  obtain ⟨noStamp, noSend, noRefusal⟩ := foreign
  refine ⟨?_, ?_, ?_, own⟩
  · rw [List.mem_append, List.mem_singleton]
    simpa [noStamp.symm] using stamped
  · rw [List.mem_append, List.mem_singleton]
    simpa [noSend.symm] using sent
  · rw [List.mem_append, List.mem_singleton]
    simpa [noRefusal.symm] using refused

theorem put_journaled (journal : Journal) (calls : Ticket → Call) (ticket : Ticket) (call : Call)
    (entry : Entry) (each : ∀ other, (calls other).Journaled other journal)
    (own : ∀ other, other ≠ ticket →
      entry ≠ .stamped other ∧ entry ≠ .sent other ∧ entry ≠ .refused other)
    (now : call.Journaled ticket (journal ++ [entry])) :
    ∀ other, (put calls ticket call other).Journaled other (journal ++ [entry]) := by
  intro other
  by_cases same : other = ticket
  · rw [same, put_same]
    exact now
  · rw [put_other _ _ _ _ same]
    exact journaled_added _ other journal entry (each other) (own other same)

theorem nodup_added (tickets : List Ticket) (ticket : Ticket) (once : tickets.Nodup)
    (new : ticket ∉ tickets) : (tickets ++ [ticket]).Nodup :=
  List.nodup_append.mpr ⟨once, List.nodup_singleton ticket, fun _ member _ last same =>
    new (List.mem_singleton.mp last ▸ same ▸ member)⟩

theorem calls_refused (journal : Journal) (state : State) (ticket : Ticket)
    (inv : CallsJournaled journal state) (opened : (state.calls ticket).Open) :
    CallsJournaled (journal ++ [.refused ticket]) (state.setCall ticket .refused) := by
  obtain ⟨each, stampedOnce, sentOnce⟩ := inv
  refine ⟨put_journaled journal state.calls ticket .refused _ each ?_ ?_, ?_, ?_⟩
  · intro other different
    simp [different.symm]
  · obtain ⟨unstamped, unsent⟩ := open_unjournaled _ ticket journal (each ticket) opened
    exact ⟨by simp [unstamped, Call.HasStamp], by simp [unsent], fun _ => rfl, by simp⟩
  · simpa [arrivals_append, arrivals_one, Entry.arrival] using stampedOnce
  · simpa [arrivals_append, arrivals_one, Entry.arrival] using sentOnce

theorem calls_stamped (journal : Journal) (state : State) (ticket : Ticket) (message : Inbound)
    (inv : CallsJournaled journal state) (counted : state.calls ticket = .counted message) :
    CallsJournaled (journal ++ [.stamped ticket])
      (state.setCall ticket (.stamped ⟨ticket, state.epoch, message⟩)) := by
  obtain ⟨each, stampedOnce, sentOnce⟩ := inv
  obtain ⟨stamped, sent, refused, _⟩ := counted ▸ each ticket
  refine ⟨put_journaled journal state.calls ticket _ _ each ?_ ?_, ?_, ?_⟩
  · intro other different
    simp [different.symm]
  · refine ⟨by simp [Call.HasStamp], by simpa using sent, ?_, ?_⟩
    · intro member
      cases refused (by simpa using member)
    · intro envelope call
      cases call
      rfl
  · rw [arrivals_append, arrivals_one]
    refine nodup_added _ _ stampedOnce ?_
    rw [stamped_iff, stamped]
    exact fun impossible => impossible
  · simpa [arrivals_append, arrivals_one, Entry.arrival] using sentOnce

theorem calls_sent (journal : Journal) (state : State) (ticket : Ticket) (envelope : Envelope)
    (inv : CallsJournaled journal state) (was : state.calls ticket = .stamped envelope) :
    CallsJournaled (journal ++ [.sent ticket])
      ({ state with queue := state.queue ++ [envelope] }.setCall ticket .sent) := by
  obtain ⟨each, stampedOnce, sentOnce⟩ := inv
  obtain ⟨stamped, sent, refused, _⟩ := was ▸ each ticket
  refine ⟨put_journaled journal state.calls ticket .sent _ each ?_ ?_, ?_, ?_⟩
  · intro other different
    simp [different.symm]
  · refine ⟨by simpa [Call.HasStamp] using stamped, by simp, ?_, by simp⟩
    intro member
    cases refused (by simpa using member)
  · simpa [arrivals_append, arrivals_one, Entry.arrival] using stampedOnce
  · rw [arrivals_append, arrivals_one]
    refine nodup_added _ _ sentOnce ?_
    rw [sent_iff, sent]
    exact fun impossible => nomatch impossible

theorem calls_other (journal : Journal) (state next : State) (entry : Entry)
    (inv : CallsJournaled journal state) (same : next.calls = state.calls)
    (foreign : ∀ ticket, entry ≠ .stamped ticket ∧ entry ≠ .sent ticket ∧ entry ≠ .refused ticket) :
    CallsJournaled (journal ++ [entry]) next := by
  obtain ⟨each, stampedOnce, sentOnce⟩ := inv
  refine ⟨?_, ?_, ?_⟩
  · intro ticket
    rw [same]
    exact journaled_added _ ticket journal entry (each ticket) (foreign ticket)
  · rw [arrivals_append, arrivals_one]
    cases entry <;> simp_all [Entry.arrival]
  · rw [arrivals_append, arrivals_one]
    cases entry <;> simp_all [Entry.arrival]

theorem calls_kept (journal : Journal) (entry : Option Entry) (state next : State)
    (inv : CallsJournaled journal state) (moves : state.Moves entry next) :
    CallsJournaled (journal ++ entry.toList) next := by
  cases moves with
  | prepared free waiting calls pending looks undecided =>
      rw [Option.toList_none, List.append_nil]
      exact calls_undecided journal state _ inv undecided
  | refused ticket free waiting calls opened undecided =>
      exact calls_undecided _ _ _ (calls_refused journal state ticket inv opened) undecided
  | stamped ticket message counted => exact calls_stamped journal state ticket message inv counted
  | sent ticket envelope was => exact calls_sent journal state ticket envelope inv was
  | taken envelope rest free waiting calls ready queued opened undecided =>
      exact calls_other journal { state with calls } _ _
        (calls_undecided journal state _ inv undecided) rfl (by simp)
  | sawRun | recorded | released | cleared | exited =>
      rw [Option.toList_none, List.append_nil]
      exact ⟨inv.each, inv.stampedOnce, inv.sentOnce⟩
  | bumped | returned | discarded | accepted | passed | finished | closed =>
      exact calls_other journal state _ _ inv rfl (by simp)

theorem conveyed_other (journal : Journal) (state next : State) (entry : Entry)
    (inv : Conveyed journal state) (queue : next.queue = state.queue)
    (worker : next.worker = state.worker)
    (foreign : ∀ stage, stage ≠ .stamped → entry.arrival stage = none) :
    Conveyed (journal ++ [entry]) next := by
  obtain ⟨queued, checked, passed, finished⟩ := inv
  constructor <;> simp only [arrivals_append, arrivals_one, queue, worker] <;>
    simpa [foreign]

theorem conveyed_kept (journal : Journal) (entry : Option Entry) (state next : State)
    (calls : CallsJournaled journal state) (inv : Conveyed journal state)
    (moves : state.Moves entry next) : Conveyed (journal ++ entry.toList) next := by
  obtain ⟨queued, checked, passed, finished⟩ := inv
  cases moves with
  | prepared | sawRun =>
      rw [Option.toList_none, List.append_nil]
      exact ⟨queued, checked, passed, finished⟩
  | refused | stamped | bumped | returned | closed =>
      refine conveyed_other journal state _ _ ⟨queued, checked, passed, finished⟩ rfl rfl ?_
      intro stage other
      cases stage <;> simp_all [Entry.arrival]
  | sent ticket envelope was =>
      have own := (calls.each ticket).own envelope was
      constructor <;> simp_all [arrivals_append, arrivals_one, Entry.arrival, State.setCall]
  | taken envelope rest free waiting calls ready queue opened undecided =>
      constructor <;>
        simp_all [arrivals_append, arrivals_one, Entry.arrival, Worker.before]
  | recorded envelope worker | released envelope worker | discarded envelope worker
  | accepted envelope worker | passed envelope worker | finished envelope worker =>
      constructor <;>
        simp_all [arrivals_append, arrivals_one, Entry.arrival, Worker.before]
  | cleared envelope ended =>
      rcases ended with worker | worker <;> constructor <;> simp_all [Worker.before]
  | exited ready =>
      constructor <;> simp_all [Worker.before]

end Dialogue.Dispatch
