import Dialogue.Dispatch.Poll
import Dialogue.Proofs.Dispatch.Contents
import Dialogue.Proofs.Dispatch.Epochs

set_option autoImplicit false

namespace Dialogue.Dispatch

-- The worker on its own hands the message over to the handler, or discards it.
def HandedOver (state : State) (ticket : Ticket) : Prop :=
  ∃ rest last, state.steps rest = some last ∧
    (∀ step ∈ rest, step ∈ [.record, .release, .check, .invoke]) ∧
    (.passed ticket ∈ state.journal rest ∨ .checked ticket false ∈ state.journal rest)

theorem handed_over_after (state next : State) (ticket : Ticket) (step : Step)
    (possible : state.step step = some next)
    (own : step ∈ [Step.record, .release, .check, .invoke]) (later : HandedOver next ticket) :
    HandedOver state ticket := by
  obtain ⟨rest, last, reached, owns, handed⟩ := later
  refine ⟨step :: rest, last, ?_, ?_, ?_⟩
  · rw [State.steps, possible]
    exact reached
  · intro other member
    rcases List.mem_cons.mp member with same | earlier
    · rw [same]
      exact own
    · exact owns other earlier
  · simp only [State.journal, possible, List.mem_append]
    rcases handed with passed | discarded
    · exact .inl (.inr passed)
    · exact .inr (.inr discarded)

theorem accepted_handed_over (state : State) (envelope : Envelope)
    (worker : state.worker = .accepted envelope) : HandedOver state envelope.ticket := by
  refine ⟨[.invoke], { state with worker := .handling envelope }, ?_, by simp, .inl ?_⟩
  · simp [State.steps, State.step, worker]
  · simp [State.journal, State.step, State.entry, worker]

theorem released_handed_over (state : State) (envelope : Envelope)
    (worker : state.worker = .released envelope) : HandedOver state envelope.ticket := by
  by_cases stale : envelope.epoch < state.epoch
  · have late : ¬ state.epoch ≤ envelope.epoch := Nat.not_le.mpr stale
    refine ⟨[.check], { state with worker := .rejected envelope }, ?_, by simp, .inr ?_⟩
    · simp [State.steps, State.step, worker, stale]
    · simp [State.journal, State.step, State.entry, worker, late]
  · exact handed_over_after state { state with worker := .accepted envelope } _ .check
      (by simp [State.step, worker, stale]) (by simp) (accepted_handed_over _ envelope rfl)

theorem unchecked_handed_over (state : State) (envelope : Envelope)
    (held : state.worker.unchecked = some envelope) : HandedOver state envelope.ticket := by
  have recorded : ∀ state : State, state.worker = .recorded envelope →
      HandedOver state envelope.ticket := by
    intro state worker
    exact handed_over_after state
      { state with pending := state.pending - 1, worker := .released envelope } _ .release
      (by simp [State.step, worker]) (by simp) (released_handed_over _ envelope rfl)
  cases worker : state.worker with
  | received other =>
      rw [worker] at held
      cases held
      exact handed_over_after state
        { state with run := some envelope.ticket, worker := .recorded envelope } _ .record
        (by simp [State.step, worker]) (by simp) (recorded _ rfl)
  | recorded other =>
      rw [worker] at held
      cases held
      exact recorded state worker
  | released other =>
      rw [worker] at held
      cases held
      exact released_handed_over state envelope worker
  | _ =>
      rw [worker] at held
      cases held

theorem taken_once (journal : Journal) (state : State) (inv : Accounted journal state) :
    (arrivals .taken journal).Nodup := by
  have once := inv.calls.sentOnce
  rw [inv.conveyed.queued] at once
  exact (List.nodup_append.mp once).1

theorem checked_once (journal : Journal) (state : State) (inv : Accounted journal state) :
    (arrivals .checked journal).Nodup := by
  have once := taken_once journal state inv
  rw [inv.conveyed.checked] at once
  exact (List.nodup_append.mp once).1

theorem fresh_sublist (journal : Journal) :
    (arrivals .fresh journal).Sublist (arrivals .checked journal) := by
  induction journal with
  | nil => exact .slnil
  | cons entry rest ih =>
      rw [← List.singleton_append, arrivals_append, arrivals_append, arrivals_one, arrivals_one]
      refine List.Sublist.append ?_ ih
      cases entry with
      | checked ticket fresh => cases fresh <;> simp [Entry.arrival]
      | _ => exact .slnil

theorem one_verdict (journal : Journal) (ticket : Ticket)
    (once : (arrivals .checked journal).Nodup) (fresh : .checked ticket true ∈ journal) :
    .checked ticket false ∉ journal := by
  intro stale
  obtain ⟨early, late, split⟩ := List.append_of_mem fresh
  rw [split] at once stale
  rw [← List.singleton_append, arrivals_append, arrivals_append, arrivals_one] at once
  obtain ⟨_, rest, apart⟩ := List.nodup_append.mp once
  rcases List.mem_append.mp stale with before | after
  · have earlier := (checked_iff ticket early).mpr ⟨false, before⟩
    exact apart ticket earlier ticket (by simp [Entry.arrival]) rfl
  · have later := (checked_iff ticket late).mpr ⟨false, by simpa using after⟩
    exact (List.nodup_append.mp rest).2.2 ticket (by simp [Entry.arrival]) ticket later rfl

inductive Fate (journal : Journal) (state : State) (ticket : Ticket) : Prop where
  | discarded (stale : .checked ticket false ∈ journal) (unpassed : .passed ticket ∉ journal)
  | passed (kept : .checked ticket false ∉ journal)
      (once : (arrivals .passed journal).count ticket = 1)
  | inHand (kept : .checked ticket false ∉ journal) (unpassed : .passed ticket ∉ journal)
      (handed : HandedOver state ticket)

theorem passed_fresh (journal : Journal) (state : State) (inv : Accounted journal state)
    (ticket : Ticket) (passed : .passed ticket ∈ journal) : .checked ticket true ∈ journal := by
  rw [← fresh_iff, inv.conveyed.passed]
  exact List.mem_append_left _ ((passed_iff ticket journal).mpr passed)

theorem fate_of_taken (journal : Journal) (state : State) (inv : Accounted journal state)
    (ticket : Ticket) (taken : ticket ∈ arrivals .taken journal) : Fate journal state ticket := by
  have once := checked_once journal state inv
  have whole := taken_once journal state inv
  rw [inv.conveyed.checked] at taken whole
  rcases List.mem_append.mp taken with judged | held
  · obtain ⟨fresh, member⟩ := (checked_iff ticket journal).mp judged
    cases fresh with
    | false =>
        refine .discarded member ?_
        intro passed
        exact one_verdict journal ticket once (passed_fresh journal state inv ticket passed) member
    | true =>
        have kept := one_verdict journal ticket once member
        have fresh := (fresh_iff ticket journal).mpr member
        have freshOnce := once.sublist (fresh_sublist journal)
        rw [inv.conveyed.passed] at fresh freshOnce
        obtain ⟨passedOnce, _, apart⟩ := List.nodup_append.mp freshOnce
        rcases List.mem_append.mp fresh with passed | accepted
        · exact .passed kept (List.count_eq_one_of_mem passedOnce passed)
        · refine .inHand kept ?_ ?_
          · intro passed
            exact apart ticket ((passed_iff ticket journal).mpr passed) ticket accepted rfl
          · cases worker : state.worker <;> rw [worker] at accepted <;>
              simp [Worker.before] at accepted
            exact accepted ▸ accepted_handed_over state _ worker
  · have unchecked : ∀ fresh, .checked ticket fresh ∉ journal := by
      intro fresh member
      exact (List.nodup_append.mp whole).2.2 ticket
        ((checked_iff ticket journal).mpr ⟨fresh, member⟩) ticket held rfl
    refine .inHand (unchecked false) ?_ ?_
    · exact fun passed => unchecked true (passed_fresh journal state inv ticket passed)
    · cases worker : state.worker <;> rw [worker] at held <;> simp [Worker.before] at held <;>
        exact held ▸ unchecked_handed_over state _ (by rw [worker]; rfl)

structure InOrder (run : List Step) (journal : Journal) (state : State) : Prop where
  inOrder : arrivals .taken journal <+: arrivals .sent journal
  queued : arrivals .sent journal = arrivals .taken journal ++ state.queue.map Envelope.ticket
  sentOnce : (arrivals .sent journal).Nodup
  stampedOnce : (arrivals .stamped journal).Nodup
  intact : state.Intact run
  settled : ∀ ticket ∈ arrivals .taken journal, Fate journal state ticket
  onlyTaken : ∀ ticket, .passed ticket ∈ journal ∨ (∃ fresh, .checked ticket fresh ∈ journal) →
    ticket ∈ arrivals .taken journal
  judged : Judged journal
  unrefused : ∀ ticket, .refused ticket ∈ journal → .taken ticket ∉ journal
  untaken : ∀ ticket, ¬ Before .closed (.taken ticket) journal

theorem run_in_order (capacity : Nat) (run : List Step) (state : State)
    (possible : (State.initial capacity).steps run = some state) :
    InOrder run ((State.initial capacity).journal run) state := by
  have inv := run_accounted capacity run state possible
  have intact := run_intact run state capacity possible
  generalize (State.initial capacity).journal run = journal at inv
  have checked : ∀ ticket fresh, .checked ticket fresh ∈ journal →
      ticket ∈ arrivals .taken journal := by
    intro ticket fresh member
    rw [inv.conveyed.checked]
    exact List.mem_append_left _ ((checked_iff ticket journal).mpr ⟨fresh, member⟩)
  refine ⟨?_, inv.conveyed.queued, inv.calls.sentOnce, inv.calls.stampedOnce, intact,
    fate_of_taken journal state inv, ?_, inv.epochs.judged, ?_, inv.closing.untaken⟩
  · rw [inv.conveyed.queued]
    exact List.prefix_append _ _
  · intro ticket reached
    rcases reached with passed | ⟨fresh, member⟩
    · exact checked ticket true (passed_fresh journal state inv ticket passed)
    · exact checked ticket fresh member
  · intro ticket refused taken
    have sent : ticket ∈ arrivals .sent journal := by
      rw [inv.conveyed.queued]
      exact List.mem_append_left _ ((taken_iff ticket journal).mpr taken)
    have call := (inv.calls.each ticket).sent.mp ((sent_iff ticket journal).mp sent)
    rw [(inv.calls.each ticket).refused refused] at call
    cases call

-- The messages are in order after any run, and after all that the participants do from there.
theorem messages_in_order (capacity : Nat) (run : List Step) (state : State)
    (possible : (State.initial capacity).steps run = some state) :
    InOrder run ((State.initial capacity).journal run) state ∧
      ∀ parts : List Part, ∃ more, state.steps more = some (parts.foldl State.perform state) ∧
        InOrder (run ++ more) ((State.initial capacity).journal (run ++ more))
          (parts.foldl State.perform state) := by
  refine ⟨run_in_order capacity run state possible, ?_⟩
  intro parts
  obtain ⟨more, performed⟩ := state.performed_onward parts
  refine ⟨more, performed, run_in_order capacity (run ++ more) _ ?_⟩
  rw [steps_append, possible]
  exact performed

-- Of two messages in a full queue the first is handled until a stop, and the second is discarded;
-- a third finds no slot.
def stoppedRun : List Step :=
  let message := Inbound.ofText "local" "hi"
  .request 0 message :: sending 0 ++ .request 1 message :: sending 1 ++
    [.request 2 message, .abandon 2] ++ takingOver ++ [.invoke] ++ stopping 0 ++
    [.finish, .clear] ++ takingOver ++ [.clear, .cancelRoot, .exit]

theorem stopped_run_in_order :
    ∃ state, (State.initial 2).steps stoppedRun = some state ∧
      InOrder stoppedRun ((State.initial 2).journal stoppedRun) state :=
  ⟨_, rfl, (messages_in_order 2 stoppedRun _ rfl).1⟩

example : (State.initial 2).journal stoppedRun =
    [.stamped 0, .sent 0, .stamped 1, .sent 1, .refused 2, .taken 0, .checked 0 true, .passed 0,
      .bumped 0, .returned 0, .finished 0, .taken 1, .checked 1 false, .closed] := by
  rfl

end Dialogue.Dispatch
