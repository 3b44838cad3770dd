import Dialogue.Proofs.Dispatch.Stages

set_option autoImplicit false

namespace Dialogue.Dispatch

def Worker.unchecked : Worker → Option Envelope
  | .received envelope | .recorded envelope | .released envelope => some envelope
  | _ => none

inductive State.InTransit (state : State) (envelope : Envelope) : Prop where
  | unsent (ticket : Ticket) (call : state.calls ticket = .stamped envelope)
  | queued (member : envelope ∈ state.queue)
  | received (worker : state.worker.unchecked = some envelope)

-- The epoch has gone on since a message was stamped just when a stop has bumped it.
structure Outdated (journal : Journal) (epoch : Nat) (envelope : Envelope) : Prop where
  stamped : .stamped envelope.ticket ∈ journal
  reached : envelope.epoch ≤ epoch
  stale : envelope.epoch < epoch ↔ ∃ stop, Before (.stamped envelope.ticket) (.bumped stop) journal

def Judged (journal : Journal) : Prop :=
  ∀ early ticket fresh late, journal = early ++ .checked ticket fresh :: late →
    .stamped ticket ∈ early ∧
      (fresh = false ↔ ∃ stop, Before (.stamped ticket) (.bumped stop) early)

structure EpochsJournaled (journal : Journal) (state : State) : Prop where
  transit : ∀ envelope, state.InTransit envelope → Outdated journal state.epoch envelope
  judged : Judged journal

theorem outdated_added (journal : Journal) (epoch : Nat) (envelope : Envelope) (entry : Entry)
    (known : Outdated journal epoch envelope) (noBump : ∀ stop, entry ≠ .bumped stop) :
    Outdated (journal ++ [entry]) epoch envelope := by
  obtain ⟨stamped, reached, stale⟩ := known
  refine ⟨by simp [stamped], reached, stale.trans ⟨?_, ?_⟩⟩
  · rintro ⟨stop, ordered⟩
    exact ⟨stop, before_append _ _ _ _ ordered⟩
  · rintro ⟨stop, ordered⟩
    rcases before_added _ _ _ _ ordered with earlier | ⟨_, last⟩
    · exact ⟨stop, earlier⟩
    · exact absurd last (noBump stop)

theorem outdated_bumped (journal : Journal) (epoch : Nat) (envelope : Envelope) (stop : Nat)
    (known : Outdated journal epoch envelope) :
    Outdated (journal ++ [.bumped stop]) (epoch + 1) envelope := by
  obtain ⟨stamped, reached, _⟩ := known
  refine ⟨by simp [stamped], by omega, ?_⟩
  exact ⟨fun _ => ⟨stop, before_last _ _ _ stamped⟩, fun _ => by omega⟩

theorem outdated_stamped (journal : Journal) (ticket : Ticket) (epoch : Nat) (message : Inbound)
    (new : .stamped ticket ∉ journal) :
    Outdated (journal ++ [.stamped ticket]) epoch ⟨ticket, epoch, message⟩ := by
  refine ⟨by simp, Nat.le_refl epoch, ⟨fun less => absurd less (Nat.lt_irrefl epoch), ?_⟩⟩
  rintro ⟨stop, ordered⟩
  rcases before_added _ _ _ _ ordered with earlier | ⟨member, _⟩
  · exact absurd (before_mem _ _ _ earlier).1 new
  · exact absurd member new

theorem judged_added (journal : Journal) (entry : Entry) (judged : Judged journal)
    (noCheck : ∀ ticket fresh, entry ≠ .checked ticket fresh) : Judged (journal ++ [entry]) := by
  intro early ticket fresh late split
  rcases split_added journal early late entry _ split with ⟨_, same, _⟩ | ⟨rest, shorter, _⟩
  · exact absurd same.symm (noCheck ticket fresh)
  · exact judged early ticket fresh rest shorter

theorem judged_checked (journal : Journal) (epoch : Nat) (envelope : Envelope) (fresh : Bool)
    (judged : Judged journal) (known : Outdated journal epoch envelope)
    (verdict : fresh = false ↔ envelope.epoch < epoch) :
    Judged (journal ++ [.checked envelope.ticket fresh]) := by
  intro early ticket other late split
  rcases split_added journal early late _ _ split with ⟨whole, same, _⟩ | ⟨rest, shorter, _⟩
  · obtain ⟨rfl, rfl⟩ := Entry.checked.inj same
    rw [whole]
    exact ⟨known.stamped, verdict.trans known.stale⟩
  · exact judged early ticket other rest shorter

theorem undecided_stamped (calls later : Ticket → Call) (undecided : Undecided calls later)
    (ticket : Ticket) (envelope : Envelope) (call : later ticket = .stamped envelope) :
    calls ticket = .stamped envelope := by
  rcases undecided ticket with same | ⟨_, opened⟩
  · exact same ▸ call
  · rw [call] at opened
    exact opened.elim

theorem put_cases {α : Type} (f : Nat → α) (place other : Nat) (value result : α)
    (equal : put f place value other = result) :
    (other = place ∧ value = result) ∨ (other ≠ place ∧ f other = result) := by
  by_cases same : other = place
  · rw [same, put_same] at equal
    exact .inl ⟨same, equal⟩
  · rw [put_other _ _ _ _ same] at equal
    exact .inr ⟨same, equal⟩

-- A message in transit was in transit before, or it was stamped just now.
theorem transit_moves (entry : Option Entry) (state next : State) (moves : state.Moves entry next)
    (envelope : Envelope) (transit : next.InTransit envelope) :
    state.InTransit envelope ∨ ∃ ticket message, state.calls ticket = .counted message ∧
      entry = some (.stamped ticket) ∧ envelope = ⟨ticket, state.epoch, message⟩ := by
  cases moves with
  | prepared free waiting calls pending looks undecided =>
      cases transit with
      | unsent ticket call =>
          exact .inl (.unsent ticket (undecided_stamped _ _ undecided ticket _ call))
      | queued member => exact .inl (.queued member)
      | received worker => exact .inl (.received worker)
  | refused ticket free waiting calls opened undecided =>
      cases transit with
      | unsent other call =>
          have earlier := undecided_stamped _ _ undecided other _ call
          rcases put_cases _ _ _ _ _ earlier with ⟨_, impossible⟩ | ⟨_, was⟩
          · cases impossible
          · exact .inl (.unsent other was)
      | queued member => exact .inl (.queued member)
      | received worker => exact .inl (.received worker)
  | stamped ticket message counted =>
      cases transit with
      | unsent other call =>
          rcases put_cases _ _ _ _ _ call with ⟨_, now⟩ | ⟨_, was⟩
          · cases now
            exact .inr ⟨ticket, message, counted, rfl, rfl⟩
          · exact .inl (.unsent other was)
      | queued member => exact .inl (.queued member)
      | received worker => exact .inl (.received worker)
  | sent ticket sending was =>
      cases transit with
      | unsent other call =>
          rcases put_cases _ _ _ _ _ call with ⟨_, impossible⟩ | ⟨_, earlier⟩
          · cases impossible
          · exact .inl (.unsent other earlier)
      | queued member =>
          rcases List.mem_append.mp member with old | new
          · exact .inl (.queued old)
          · rw [List.mem_singleton.mp new]
            exact .inl (.unsent ticket was)
      | received worker => exact .inl (.received worker)
  | taken head rest free waiting calls ready queue opened undecided =>
      cases transit with
      | unsent ticket call =>
          exact .inl (.unsent ticket (undecided_stamped _ _ undecided ticket _ call))
      | queued member =>
          refine .inl (.queued ?_)
          rw [queue]
          exact List.mem_cons_of_mem _ member
      | received worker =>
          cases worker
          refine .inl (.queued ?_)
          rw [queue]
          exact List.mem_cons_self
  | recorded held worker | released held worker =>
      cases transit with
      | unsent ticket call => exact .inl (.unsent ticket call)
      | queued member => exact .inl (.queued member)
      | received still =>
          refine .inl (.received ?_)
          rw [worker]
          exact still
  | bumped | sawRun | returned | closed =>
      cases transit with
      | unsent ticket call => exact .inl (.unsent ticket call)
      | queued member => exact .inl (.queued member)
      | received worker => exact .inl (.received worker)
  | discarded | accepted | passed | finished | cleared | exited =>
      cases transit with
      | unsent ticket call => exact .inl (.unsent ticket call)
      | queued member => exact .inl (.queued member)
      | received worker => cases worker

theorem epochs_kept (journal : Journal) (entry : Option Entry) (state next : State)
    (calls : CallsJournaled journal state) (inv : EpochsJournaled journal state)
    (moves : state.Moves entry next) : EpochsJournaled (journal ++ entry.toList) next := by
  have before := transit_moves entry state next moves
  obtain ⟨transit, judged⟩ := inv
  have old : ∀ envelope, (∀ ticket, entry ≠ some (.stamped ticket)) →
      next.InTransit envelope → Outdated journal state.epoch envelope := by
    intro envelope noStamp now
    rcases before envelope now with earlier | ⟨ticket, _, _, stamped, _⟩
    · exact transit envelope earlier
    · exact absurd stamped (noStamp ticket)
  cases moves with
  | prepared | sawRun | recorded | released | cleared | exited =>
      rw [Option.toList_none, List.append_nil]
      exact ⟨fun envelope now => old envelope (by simp) now, judged⟩
  | refused | sent | returned | taken | passed | finished | closed =>
      exact ⟨fun envelope now => outdated_added _ _ _ _ (old envelope (by simp) now) (by simp),
        judged_added _ _ judged (by simp)⟩
  | bumped stop absent =>
      exact ⟨fun envelope now => outdated_bumped _ _ _ _ (old envelope (by simp) now),
        judged_added _ _ judged (by simp)⟩
  | stamped ticket message counted =>
      refine ⟨?_, judged_added _ _ judged (by simp)⟩
      intro envelope now
      rcases before envelope now with earlier | ⟨other, text, _, same, rfl⟩
      · exact outdated_added _ _ _ _ (transit envelope earlier) (by simp)
      · cases same
        refine outdated_stamped journal ticket state.epoch text ?_
        rw [(calls.each ticket).stamped, counted]
        exact fun impossible => impossible
  | discarded envelope released stale =>
      have known := transit envelope (.received (by rw [released]; rfl))
      exact ⟨fun other now => outdated_added _ _ _ _ (old other (by simp) now) (by simp),
        judged_checked journal _ envelope false judged known (by simp [stale])⟩
  | accepted envelope released fresh =>
      have known := transit envelope (.received (by rw [released]; rfl))
      exact ⟨fun other now => outdated_added _ _ _ _ (old other (by simp) now) (by simp),
        judged_checked journal _ envelope true judged known (by simp [fresh])⟩

structure Closing (journal : Journal) (state : State) : Prop where
  closed : .closed ∈ journal ↔ state.rootCancelled = true
  untaken : ∀ ticket, ¬ Before .closed (.taken ticket) journal

theorem closing_other (journal : Journal) (state next : State) (entry : Entry)
    (inv : Closing journal state) (same : next.rootCancelled = state.rootCancelled)
    (foreign : entry ≠ .closed ∧ ∀ ticket, entry ≠ .taken ticket) :
    Closing (journal ++ [entry]) next := by
  obtain ⟨closed, untaken⟩ := inv
  constructor
  · rw [same, ← closed, List.mem_append, List.mem_singleton]
    simp [foreign.1.symm]
  · intro ticket ordered
    rcases before_added _ _ _ _ ordered with earlier | ⟨_, last⟩
    · exact untaken ticket earlier
    · exact foreign.2 ticket last

theorem closing_kept (journal : Journal) (entry : Option Entry) (state next : State)
    (inv : Closing journal state) (moves : state.Moves entry next) :
    Closing (journal ++ entry.toList) next := by
  cases moves with
  | prepared | sawRun | recorded | released | cleared | exited =>
      rw [Option.toList_none, List.append_nil]
      exact ⟨inv.closed, inv.untaken⟩
  | refused | stamped | sent | bumped | returned | discarded | accepted | passed | finished =>
      exact closing_other journal state _ _ inv rfl (by simp)
  | closed =>
      refine ⟨by simp, ?_⟩
      intro ticket ordered
      rcases before_added _ _ _ _ ordered with earlier | ⟨_, last⟩
      · exact inv.untaken ticket earlier
      · cases last
  | taken envelope rest free waiting calls ready queue opened undecided =>
      have unclosed : .closed ∉ journal := by
        rw [inv.closed, opened]
        simp
      refine ⟨by simp [unclosed, opened], ?_⟩
      intro ticket ordered
      rcases before_added _ _ _ _ ordered with earlier | ⟨member, _⟩
      · exact inv.untaken ticket earlier
      · exact unclosed member

structure Accounted (journal : Journal) (state : State) : Prop where
  calls : CallsJournaled journal state
  conveyed : Conveyed journal state
  epochs : EpochsJournaled journal state
  closing : Closing journal state

theorem initial_accounted (capacity : Nat) : Accounted [] (State.initial capacity) where
  calls := ⟨fun ticket => ⟨by simp [State.initial, Call.HasStamp], by simp [State.initial], by simp,
    by simp [State.initial]⟩, List.nodup_nil, List.nodup_nil⟩
  conveyed := ⟨rfl, rfl, rfl, rfl⟩
  epochs := by
    refine ⟨?_, by simp [Judged]⟩
    intro envelope transit
    cases transit with
    | unsent ticket call => cases call
    | queued member => cases member
    | received worker => cases worker
  closing := ⟨by simp [State.initial], by simp [Before]⟩

theorem accounted_kept (journal : Journal) (entry : Option Entry) (state next : State)
    (inv : Accounted journal state) (moves : state.Moves entry next) :
    Accounted (journal ++ entry.toList) next where
  calls := calls_kept journal entry state next inv.calls moves
  conveyed := conveyed_kept journal entry state next inv.calls inv.conveyed moves
  epochs := epochs_kept journal entry state next inv.calls inv.epochs moves
  closing := closing_kept journal entry state next inv.closing moves

theorem run_accounted (capacity : Nat) (run : List Step) (state : State)
    (possible : (State.initial capacity).steps run = some state) :
    Accounted ((State.initial capacity).journal run) state := by
  simpa using run_keeps Accounted accounted_kept [] (State.initial capacity) state run possible
    (initial_accounted capacity)

end Dialogue.Dispatch
