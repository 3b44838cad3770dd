import Dialogue.Proofs.Dispatch.Order

/-!
A stop is a barrier. The worker records its run before it compares epochs, and a stop bumps the
epoch before it reads the record: whichever comes first, a message stamped before the stop is
either discarded, or its run is the one that the stop finds and cancels.
-/

set_option autoImplicit false

namespace Dialogue.Dispatch

def Worker.onRecord : Worker → Option Envelope
  | .recorded envelope | .released envelope | .accepted envelope | .rejected envelope
  | .handling envelope | .finished envelope => some envelope
  | _ => none

def Worker.inFlight : Worker → Option Envelope
  | .accepted envelope | .handling envelope => some envelope
  | _ => none

theorem in_flight_recorded (worker : Worker) (envelope : Envelope)
    (held : worker.inFlight = some envelope) : worker.onRecord = some envelope := by
  cases worker with
  | accepted | handling => exact held
  | _ => cases held

-- A stop that has come so far is bound to cancel the run, or the run is cancelled.
def Caught (progress : Stop) (cancelled : List Ticket) (ticket : Ticket) : Prop :=
  progress = .bumped ∨ progress = .sawRun (some ticket) ∨ ticket ∈ cancelled

theorem caught_other (stops : Nat → Stop) (stop other : Nat) (progress : Stop)
    (cancelled : List Ticket) (ticket : Ticket) (different : other ≠ stop)
    (caught : Caught (stops other) cancelled ticket) :
    Caught (put stops stop progress other) cancelled ticket := by
  rwa [put_other _ _ _ _ different]

theorem caught_more (progress : Stop) (cancelled more : List Ticket) (ticket : Ticket)
    (caught : Caught progress cancelled ticket) : Caught progress (more ++ cancelled) ticket := by
  rcases caught with bumped | found | already
  · exact .inl bumped
  · exact .inr (.inl found)
  · exact .inr (.inr (List.mem_append_right more already))

structure Guarded (journal : Journal) (state : State) : Prop where
  recorded : ∀ envelope, state.worker.onRecord = some envelope →
    state.run = some envelope.ticket
  caught : ∀ envelope, state.worker.inFlight = some envelope → ∀ stop,
    Before (.stamped envelope.ticket) (.bumped stop) journal →
      Caught (state.stops stop) state.cancelledRuns envelope.ticket

theorem caught_added (journal : Journal) (state next : State) (entry : Option Entry)
    (caught : ∀ envelope, state.worker.inFlight = some envelope → ∀ stop,
      Before (.stamped envelope.ticket) (.bumped stop) journal →
        Caught (state.stops stop) state.cancelledRuns envelope.ticket)
    (flight : ∀ envelope, next.worker.inFlight = some envelope →
      state.worker.inFlight = some envelope)
    (stops : next.stops = state.stops) (runs : next.cancelledRuns = state.cancelledRuns)
    (noBump : ∀ stop, entry ≠ some (.bumped stop)) :
    ∀ envelope, next.worker.inFlight = some envelope → ∀ stop,
      Before (.stamped envelope.ticket) (.bumped stop) (journal ++ entry.toList) →
        Caught (next.stops stop) next.cancelledRuns envelope.ticket := by
  intro envelope held stop ordered
  have earlier : Before (.stamped envelope.ticket) (.bumped stop) journal := by
    cases entry with
    | none => simpa using ordered
    | some entry =>
        rcases before_added _ _ _ _ ordered with earlier | ⟨_, last⟩
        · exact earlier
        · exact absurd (congrArg some last) (noBump stop)
  rw [stops, runs]
  exact caught envelope (flight envelope held) stop earlier

theorem guarded_kept (journal : Journal) (entry : Option Entry) (state next : State)
    (epochs : EpochsJournaled journal state) (inv : Guarded journal state)
    (moves : state.Moves entry next) : Guarded (journal ++ entry.toList) next := by
  obtain ⟨recorded, caught⟩ := inv
  cases moves with
  | prepared | refused | stamped | sent | closed =>
      exact ⟨recorded, caught_added journal state _ _ caught (fun _ held => held) rfl rfl (by simp)⟩
  | bumped stop absent =>
      refine ⟨recorded, ?_⟩
      intro envelope held other ordered
      by_cases same : other = stop
      · rw [same]
        exact .inl (put_same _ _ _)
      · rcases before_added _ _ _ _ ordered with earlier | ⟨_, last⟩
        · exact caught_other _ _ _ _ _ _ same (caught envelope held other earlier)
        · exact absurd (Entry.bumped.inj last).symm same
  | sawRun stop bumped =>
      refine ⟨recorded, ?_⟩
      intro envelope held other ordered
      rw [Option.toList_none, List.append_nil] at ordered
      by_cases same : other = stop
      · have found := recorded envelope (in_flight_recorded _ _ held)
        rw [same]
        exact .inr (.inl ((put_same _ _ _).trans (congrArg Stop.sawRun found)))
      · exact caught_other _ _ _ _ _ _ same (caught envelope held other ordered)
  | returned stop run saw =>
      refine ⟨recorded, ?_⟩
      intro envelope held other ordered
      have earlier : Before (.stamped envelope.ticket) (.bumped other) journal := by
        rcases before_added _ _ _ _ ordered with earlier | ⟨_, last⟩
        · exact earlier
        · cases last
      have was := caught envelope held other earlier
      by_cases same : other = stop
      · rw [same, saw] at was
        rcases was with impossible | found | already
        · cases impossible
        · cases found
          exact .inr (.inr List.mem_cons_self)
        · exact .inr (.inr (List.mem_append_right _ already))
      · exact caught_other _ _ _ _ _ _ same (caught_more _ _ _ _ was)
  | taken | cleared | exited =>
      exact ⟨fun _ impossible => (nomatch impossible), fun _ impossible => (nomatch impossible)⟩
  | recorded envelope worker =>
      refine ⟨?_, fun _ impossible => nomatch impossible⟩
      intro other held
      cases held
      rfl
  | released envelope worker | discarded envelope worker | finished envelope worker =>
      refine ⟨?_, fun _ impossible => nomatch impossible⟩
      intro other held
      cases held
      exact recorded envelope (by rw [worker]; rfl)
  | accepted envelope worker fresh =>
      constructor
      · intro other held
        cases held
        exact recorded envelope (by rw [worker]; rfl)
      · intro other held stop ordered
        cases held
        -- No stop has bumped the epoch since the stamp, or the message would be discarded.
        rcases before_added _ _ _ _ ordered with earlier | ⟨_, last⟩
        · have known := epochs.transit envelope (.received (by rw [worker]; rfl))
          have stale := known.stale.mpr ⟨stop, earlier⟩
          exact absurd fresh (Nat.not_le.mpr stale)
        · cases last
  | passed envelope worker =>
      refine ⟨?_, caught_added journal state _ _ caught ?_ rfl rfl (by simp)⟩
      · intro other held
        cases held
        exact recorded envelope (by rw [worker]; rfl)
      · intro other held
        rw [worker]
        exact held

structure RunsTaken (journal : Journal) (state : State) : Prop where
  recorded : ∀ ticket, state.run = some ticket → .taken ticket ∈ journal
  found : ∀ stop ticket, state.stops stop = .sawRun (some ticket) → .taken ticket ∈ journal
  cancelled : ∀ ticket ∈ state.cancelledRuns, .taken ticket ∈ journal

theorem runs_taken_kept (journal : Journal) (entry : Option Entry) (state next : State)
    (conveyed : Conveyed journal state) (inv : RunsTaken journal state)
    (moves : state.Moves entry next) : RunsTaken (journal ++ entry.toList) next := by
  obtain ⟨recorded, found, cancelled⟩ := inv
  have more : RunsTaken (journal ++ entry.toList) state :=
    ⟨fun ticket run => List.mem_append_left _ (recorded ticket run),
      fun stop ticket saw => List.mem_append_left _ (found stop ticket saw),
      fun ticket member => List.mem_append_left _ (cancelled ticket member)⟩
  cases moves with
  | bumped stop absent =>
      refine ⟨more.recorded, ?_, more.cancelled⟩
      intro other ticket saw
      rcases put_cases _ _ _ _ _ saw with ⟨_, impossible⟩ | ⟨_, earlier⟩
      · cases impossible
      · exact more.found other ticket earlier
  | sawRun stop bumped =>
      refine ⟨more.recorded, ?_, more.cancelled⟩
      intro other ticket saw
      rcases put_cases _ _ _ _ _ saw with ⟨_, now⟩ | ⟨_, earlier⟩
      · exact more.recorded ticket (Stop.sawRun.inj now)
      · exact more.found other ticket earlier
  | returned stop run saw =>
      refine ⟨more.recorded, ?_, ?_⟩
      · intro other ticket seen
        rcases put_cases _ _ _ _ _ seen with ⟨_, impossible⟩ | ⟨_, earlier⟩
        · cases impossible
        · exact more.found other ticket earlier
      · intro ticket member
        rcases List.mem_append.mp member with now | earlier
        · exact more.found stop ticket (by rw [saw, Option.mem_toList.mp now])
        · exact more.cancelled ticket earlier
  | recorded envelope received =>
      refine ⟨?_, more.found, more.cancelled⟩
      intro ticket run
      cases run
      rw [Option.toList_none, List.append_nil, ← taken_iff, conveyed.checked, received]
      exact List.mem_append_right _ List.mem_cons_self
  | cleared =>
      exact ⟨fun _ impossible => (nomatch impossible), more.found, more.cancelled⟩
  | prepared | refused | stamped | sent | taken | released | discarded | accepted | passed
  | finished | closed | exited => exact ⟨more.recorded, more.found, more.cancelled⟩

structure Barred (journal : Journal) (state : State) : Prop where
  accounted : Accounted journal state
  guarded : Guarded journal state
  runsTaken : RunsTaken journal state

theorem barred_kept (journal : Journal) (entry : Option Entry) (state next : State)
    (inv : Barred journal state) (moves : state.Moves entry next) :
    Barred (journal ++ entry.toList) next where
  accounted := accounted_kept journal entry state next inv.accounted moves
  guarded := guarded_kept journal entry state next inv.accounted.epochs inv.guarded moves
  runsTaken := runs_taken_kept journal entry state next inv.accounted.conveyed inv.runsTaken moves

theorem initial_barred (capacity : Nat) : Barred [] (State.initial capacity) := by
  refine ⟨initial_accounted capacity, ⟨?_, ?_⟩, ⟨?_, ?_, ?_⟩⟩ <;>
    simp [State.initial, Worker.onRecord, Worker.inFlight]

theorem run_barred (capacity : Nat) (run : List Step) (state : State)
    (possible : (State.initial capacity).steps run = some state) :
    Barred ((State.initial capacity).journal run) state :=
  run_keeps Barred barred_kept [] (State.initial capacity) state run possible
    (initial_barred capacity)

def Stop.Underway : Stop → Prop
  | .bumped | .sawRun _ => True
  | .absent | .returned => False

structure StopsSince (first : State) (journal : Journal) (stops : Nat → Stop) : Prop where
  begun : ∀ stop, first.stops stop ≠ .absent → stops stop ≠ .absent
  returned : ∀ stop, first.stops stop = .returned → stops stop = .returned
  bumped : ∀ stop, .bumped stop ∈ journal → first.stops stop = .absent
  underway : ∀ stop, (stops stop).Underway →
    (first.stops stop).Underway ∨ .bumped stop ∈ journal

structure Since (first : State) (journal : Journal) (state : State) : Prop where
  stops : StopsSince first journal state.stops
  cancelled : ∀ ticket ∈ state.cancelledRuns, ticket ∈ first.cancelledRuns ∨
    ∃ stop, (first.stops stop).Underway ∨ .bumped stop ∈ journal

theorem stops_since_added (first : State) (journal : Journal) (stops : Nat → Stop)
    (entry : Option Entry) (inv : StopsSince first journal stops)
    (new : ∀ stop, entry = some (.bumped stop) → stops stop = .absent) :
    StopsSince first (journal ++ entry.toList) stops := by
  obtain ⟨begun, returned, bumped, underway⟩ := inv
  refine ⟨begun, returned, ?_, ?_⟩
  · intro stop member
    rcases List.mem_append.mp member with earlier | now
    · exact bumped stop earlier
    · by_contra old
      exact begun stop old (new stop (Option.mem_toList.mp now))
  · intro stop under
    exact (underway stop under).imp id (List.mem_append_left _)

theorem stops_since_put (first : State) (journal : Journal) (stops : Nat → Stop) (stop : Nat)
    (progress : Stop) (inv : StopsSince first journal stops) (running : stops stop ≠ .returned)
    (begins : progress ≠ .absent)
    (cause : progress.Underway → (first.stops stop).Underway ∨ .bumped stop ∈ journal) :
    StopsSince first journal (put stops stop progress) := by
  obtain ⟨begun, returned, bumped, underway⟩ := inv
  refine ⟨?_, ?_, bumped, ?_⟩
  · intro other old
    by_cases same : other = stop
    · rwa [same, put_same]
    · rw [put_other _ _ _ _ same]
      exact begun other old
  · intro other was
    have different : other ≠ stop := by
      intro same
      exact running (returned stop (same ▸ was))
    rw [put_other _ _ _ _ different]
    exact returned other was
  · intro other under
    by_cases same : other = stop
    · rw [same, put_same] at under
      rw [same]
      exact cause under
    · rw [put_other _ _ _ _ same] at under
      exact underway other under

theorem since_kept (first : State) (journal : Journal) (entry : Option Entry) (state next : State)
    (inv : Since first journal state) (moves : state.Moves entry next) :
    Since first (journal ++ entry.toList) next := by
  have cancelled : ∀ ticket ∈ state.cancelledRuns, ticket ∈ first.cancelledRuns ∨
      ∃ stop, (first.stops stop).Underway ∨ .bumped stop ∈ journal ++ entry.toList := by
    intro ticket member
    refine (inv.cancelled ticket member).imp id ?_
    rintro ⟨stop, cause⟩
    exact ⟨stop, cause.imp id (List.mem_append_left _)⟩
  cases moves with
  | bumped stop absent =>
      refine ⟨?_, cancelled⟩
      have added := stops_since_added first journal state.stops (some (.bumped stop)) inv.stops
        (by rintro other same; cases same; exact absent)
      exact stops_since_put first _ _ stop .bumped added (by simp [absent]) (by simp)
        (fun _ => .inr (by simp))
  | sawRun stop bumped =>
      refine ⟨?_, cancelled⟩
      have added := stops_since_added first journal state.stops none inv.stops (by simp)
      exact stops_since_put first _ _ stop _ added (by simp [bumped]) (by simp)
        (fun _ => added.underway stop (by rw [bumped]; trivial))
  | returned stop run saw =>
      have added := stops_since_added first journal state.stops (some (.returned stop)) inv.stops
        (by simp)
      refine ⟨?_, ?_⟩
      · exact stops_since_put first _ _ stop .returned added (by simp [saw]) (by simp)
          (fun impossible => impossible.elim)
      · intro ticket member
        rcases List.mem_append.mp member with now | earlier
        · exact .inr ⟨stop, added.underway stop (by rw [saw]; trivial)⟩
        · exact cancelled ticket earlier
  | prepared | refused | stamped | sent | taken | recorded | released | discarded | accepted
  | passed | finished | cleared | closed | exited =>
      exact ⟨stops_since_added first journal state.stops _ inv.stops (by simp), cancelled⟩

theorem since_start (first : State) : Since first [] first where
  stops := ⟨fun _ old => old, fun _ was => was, by simp, fun _ under => .inl under⟩
  cancelled := fun _ member => .inl member

theorem run_since (first last : State) (rest : List Step)
    (possible : first.steps rest = some last) : Since first (first.journal rest) last :=
  run_keeps (Since first) (since_kept first) [] first last rest possible (since_start first)

theorem run_continued (capacity : Nat) (run rest : List Step) (state last : State)
    (possible : (State.initial capacity).steps run = some state)
    (onward : state.steps rest = some last) :
    Barred ((State.initial capacity).journal run ++ state.journal rest) last := by
  rw [← journal_append (State.initial capacity) state run rest possible]
  apply run_barred
  rw [steps_append, possible]
  exact onward

theorem outdated_unpassed (journal more : Journal) (last : State) (ticket : Ticket) (stop : Nat)
    (inv : Barred (journal ++ more) last)
    (ordered : Before (.stamped ticket) (.bumped stop) journal)
    (unchecked : .checked ticket true ∉ journal) : .passed ticket ∉ journal ++ more := by
  intro passed
  have fresh := passed_fresh _ last inv.accounted ticket passed
  obtain ⟨early, late, split⟩ := List.append_of_mem fresh
  obtain ⟨_, verdict⟩ := inv.accounted.epochs.judged early ticket true late split
  rcases List.append_eq_append_iff.mp split with ⟨middle, longer, _⟩ | ⟨middle, shorter, rest⟩
  · -- The check came after the stop.
    have known : Before (.stamped ticket) (.bumped stop) early := by
      rw [longer]
      exact before_append _ _ _ _ ordered
    cases verdict.mpr ⟨stop, known⟩
  · cases middle with
    | nil =>
        rw [List.append_nil] at shorter
        cases verdict.mpr ⟨stop, shorter ▸ ordered⟩
    | cons entry others =>
        obtain ⟨rfl, _⟩ := List.cons.inj rest
        exact unchecked (by simp [shorter])

theorem caught_cancelled (journal : Journal) (state : State) (inv : Barred journal state)
    (stop : Nat) (returned : state.stops stop = .returned) (envelope : Envelope)
    (flight : state.worker.inFlight = some envelope)
    (ordered : Before (.stamped envelope.ticket) (.bumped stop) journal) :
    state.runCancelled envelope.ticket = true := by
  have caught := inv.guarded.caught envelope flight stop ordered
  rw [returned] at caught
  rcases caught with impossible | impossible | cancelled
  · cases impossible
  · cases impossible
  · simp [State.runCancelled, cancelled]

inductive Stopped (journal : Journal) (state : State) (ticket : Ticket) : Prop where
  | finished (ended : .finished ticket ∈ journal)
  | unreached (never : ∀ rest last, state.steps rest = some last →
      .passed ticket ∉ journal ++ state.journal rest)
  | inFlight (envelope : Envelope) (flight : state.worker.inFlight = some envelope)
      (own : envelope.ticket = ticket) (cancelled : state.runCancelled ticket = true)

theorem stopped_before (journal : Journal) (state : State) (inv : Barred journal state)
    (stop : Nat) (returned : state.stops stop = .returned) (ticket : Ticket)
    (ordered : Before (.stamped ticket) (.bumped stop) journal)
    (onward : ∀ rest last, state.steps rest = some last →
      Barred (journal ++ state.journal rest) last) : Stopped journal state ticket := by
  by_cases fresh : .checked ticket true ∈ journal
  · have flying : ∀ envelope, state.worker.inFlight = some envelope → envelope.ticket = ticket →
        Stopped journal state ticket := by
      intro envelope flight own
      refine .inFlight envelope flight own ?_
      rw [← own] at ordered ⊢
      exact caught_cancelled journal state inv stop returned envelope flight ordered
    rw [← fresh_iff, inv.accounted.conveyed.passed, inv.accounted.conveyed.finished] at fresh
    rcases List.mem_append.mp fresh with passed | accepted
    · rcases List.mem_append.mp passed with finished | handling
      · exact .finished ((finished_iff ticket journal).mp finished)
      · cases worker : state.worker <;> rw [worker] at handling <;>
          simp [Worker.before] at handling
        exact flying _ (by rw [worker]; rfl) handling.symm
    · cases worker : state.worker <;> rw [worker] at accepted <;> simp [Worker.before] at accepted
      exact flying _ (by rw [worker]; rfl) accepted.symm
  · exact .unreached fun rest last possible =>
      outdated_unpassed journal _ last ticket stop (onward rest last possible) ordered fresh

theorem absent_unjournaled (journal : Journal) (state : State) (inv : Accounted journal state)
    (ticket : Ticket) (absent : state.calls ticket = .absent) :
    .stamped ticket ∉ journal ∧ .taken ticket ∉ journal := by
  obtain ⟨unstamped, unsent⟩ := open_unjournaled _ ticket journal (inv.calls.each ticket)
    (by rw [absent]; trivial)
  refine ⟨unstamped, ?_⟩
  intro taken
  apply unsent
  rw [← sent_iff, inv.conveyed.queued]
  exact List.mem_append_left _ ((taken_iff ticket journal).mpr taken)

-- Only a stop that bumps the epoch later can discard a message that is queued later.
theorem later_discarded (journal : Journal) (state last : State) (ticket : Ticket)
    (rest : List Step) (before : Accounted journal state) (absent : state.calls ticket = .absent)
    (after : Accounted (journal ++ state.journal rest) last)
    (discarded : .checked ticket false ∈ state.journal rest) :
    ∃ stop, .bumped stop ∈ state.journal rest := by
  obtain ⟨early, late, split⟩ := List.append_of_mem (List.mem_append_right journal discarded)
  obtain ⟨stop, ordered⟩ := (after.epochs.judged early ticket false late split).2.mp rfl
  refine ⟨stop, before_new _ _ journal _ ?_ (absent_unjournaled _ _ before ticket absent).1⟩
  rw [split]
  exact before_append _ _ _ _ ordered

structure Barrier (journal : Journal) (state : State) (stop : Nat) : Prop where
  stopped : ∀ ticket, Before (.stamped ticket) (.bumped stop) journal →
    Stopped journal state ticket
  unhandled : ∀ ticket, Before (.stamped ticket) (.bumped stop) journal →
    ∀ rest last envelope, state.steps rest = some last → last.worker = .handling envelope →
      envelope.ticket = ticket → last.runCancelled ticket = true
  kept : ∀ ticket, state.calls ticket = .absent → ∀ rest last, state.steps rest = some last →
    .checked ticket false ∈ state.journal rest →
      ∃ other, other ≠ stop ∧ .bumped other ∈ state.journal rest
  spared : ∀ ticket, state.calls ticket = .absent → ∀ rest last, state.steps rest = some last →
    last.runCancelled ticket = true → last.rootCancelled = true ∨
      ∃ other, other ≠ stop ∧
        ((state.stops other).Underway ∨ .bumped other ∈ state.journal rest)

theorem stop_is_barrier (capacity : Nat) (run : List Step) (state : State) (stop : Nat)
    (possible : (State.initial capacity).steps run = some state)
    (returned : state.stops stop = .returned) :
    Barrier ((State.initial capacity).journal run) state stop := by
  have inv := run_barred capacity run state possible
  have onward := fun rest last => run_continued capacity run rest state last possible
  generalize (State.initial capacity).journal run = journal at inv onward
  have another : ∀ rest last other, state.steps rest = some last →
      ((state.stops other).Underway ∨ .bumped other ∈ state.journal rest) → other ≠ stop := by
    intro rest last other later cause same
    rcases cause with under | bumped
    · rw [same, returned] at under
      exact under
    · have new := (run_since state last rest later).stops.bumped other bumped
      rw [same, returned] at new
      cases new
  refine ⟨?_, ?_, ?_, ?_⟩
  · exact fun ticket ordered => stopped_before journal state inv stop returned ticket ordered onward
  · intro ticket ordered rest last envelope later handling own
    have still := (run_since state last rest later).stops.returned stop returned
    rw [← own] at ordered ⊢
    exact caught_cancelled _ last (onward rest last later) stop still envelope
      (by rw [handling]; rfl) (before_append _ _ _ _ ordered)
  · intro ticket absent rest last later discarded
    obtain ⟨other, bumped⟩ := later_discarded journal state last ticket rest inv.accounted absent
      (onward rest last later).accounted discarded
    exact ⟨other, another rest last other later (.inr bumped), bumped⟩
  · intro ticket absent rest last later cancelled
    simp only [State.runCancelled, Bool.or_eq_true, List.contains_iff_mem] at cancelled
    refine cancelled.imp id ?_
    intro member
    rcases (run_since state last rest later).cancelled ticket member with old | ⟨other, cause⟩
    · exact absurd (inv.runsTaken.cancelled ticket old)
        (absent_unjournaled _ _ inv.accounted ticket absent).2
    · exact ⟨other, another rest last other later cause, cause⟩

def interruptedRun : List Step :=
  let message := Inbound.ofText "local" "hi"
  .request 0 message :: sending 0 ++ .request 1 message :: sending 1 ++
    [.receive, .record, .release, .bump 0, .readRun 0, .cancelRun 0]

theorem interrupted_run_barred :
    ∃ state, (State.initial 2).steps interruptedRun = some state ∧ state.stops 0 = .returned ∧
      Barrier ((State.initial 2).journal interruptedRun) state 0 :=
  ⟨_, rfl, rfl, stop_is_barrier 2 interruptedRun _ 0 rfl rfl⟩

end Dialogue.Dispatch
