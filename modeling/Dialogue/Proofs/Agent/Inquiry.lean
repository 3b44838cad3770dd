import Dialogue.Proofs.Agent.Course

set_option autoImplicit false

namespace Dialogue

structure Round where
  response : ChatResponse
  supply : Nat → String
  stamp : Stamp
  results : List Message

def Answers (call : ToolCall) (result : Message) : Prop :=
  ∃ stamp text, result = .toolResult stamp call.id text

theorem answers_result_of (call : ToolCall) (result : Message) (answers : Answers call result) :
    ResultOf call result := by
  obtain ⟨stamp, text, rfl⟩ := answers
  exact ⟨rfl, rfl⟩

namespace Round

variable (round : Round)

def calls : List ToolCall :=
  (assignCallIds round.supply round.response.toolCalls).map (·.call)

def issuing (calls : List ToolCall) : Message :=
  .withToolCalls round.stamp round.response.content calls

def messages : List Message := round.issuing round.calls :: round.results

def stripped : List Message :=
  round.issuing (round.calls.take round.results.length) :: round.results

structure Complete : Prop where
  called : round.response.toolCalls ≠ []
  answered : List.Forall₂ Answers round.calls round.results

-- Some calls at the end were not answered.
structure Cut : Prop where
  called : round.response.toolCalls ≠ []
  answered : List.Forall₂ Answers (round.calls.take round.results.length) round.results
  short : round.results.length < round.calls.length

end Round

-- What is seen of a trace does not depend on what goes on in a round, if that is nothing to see.
theorem quiet_unseen {α : Type} (view : Event → Option α)
    (blind : ∀ event, event.effect.OfCalls → view event = none) (events later : List Event)
    (quiet : ∀ event ∈ events, event.effect.OfCalls) :
    (events ++ later).filterMap view = later.filterMap view := by
  have unseen : events.filterMap view = [] :=
    List.filterMap_eq_nil_iff.mpr fun event member => blind event (quiet event member)
  rw [List.filterMap_append, unseen, List.nil_append]

theorem responses_calls (events : List Event) (quiet : ∀ event ∈ events, event.effect.OfCalls) :
    responses events = [] := by
  rw [← List.append_nil events]
  exact quiet_unseen Event.response? of_calls_unanswered events [] quiet

variable {σ : Type} (world : World σ) (setup : LoopSetup)

theorem answer_calls_append (calls : List ToolCall) (history : List Message) :
    (setup.answerCalls calls history).Ensures Effect.OfCalls fun outcome =>
      ∃ results, outcome.1 = history ++ results ∧
        List.Forall₂ Answers (calls.take results.length) results ∧
        (outcome.2 = none ∧ results.length = calls.length ∨
          outcome.2 = some .cancelled ∧ results.length < calls.length) := by
  induction calls generalizing history with
  | nil => exact ⟨[], (List.append_nil history).symm, .nil, .inl ⟨rfl, rfl⟩⟩
  | cons call rest ih =>
      apply Proc.ensures_bind _ _ (answer_call_ensures setup call)
      intro outcome onlyCancelled
      cases outcome with
      | error e =>
          refine ⟨[], (List.append_nil history).symm, .nil, .inr ⟨?_, Nat.zero_lt_succ _⟩⟩
          rw [onlyCancelled e rfl]
      | ok text =>
          apply Proc.ensures_after _ _ .stamp
          intro stamp
          refine Proc.ensures_mono _ (ih (history ++ [.toolResult stamp call.id text]))
            (fun _ may => may) ?_
          rintro after ⟨results, appended, answered, ended⟩
          refine ⟨.toolResult stamp call.id text :: results, ?_, .cons ⟨stamp, text, rfl⟩ answered,
            ?_⟩
          · rw [appended, List.append_assoc, List.singleton_append]
          · simpa using ended

-- A round either answers all calls, and the next one starts from there, or is cut short.
theorem run_call_round (left : Nat) (history : List Message) (usage : Option TokenUsage)
    (response : ChatResponse) (called : response.toolCalls ≠ []) (state : σ) :
    ∃ (round : Round) (events : List Event) (after : σ), round.response = response ∧
      (∀ event ∈ events, event.effect.OfCalls) ∧
      (round.Complete ∧ world.run (setup.callRound left history usage response) state =
          (Run.andThen ⟨⟨.callIds, round.supply⟩ :: events, (), after⟩ fun _ =>
            world.run (setup.runRounds left (history ++ round.messages) usage)) ∨
        round.Cut ∧ world.run (setup.callRound left history usage response) state =
          ⟨⟨.callIds, round.supply⟩ :: events,
            ⟨history ++ round.messages, usage, .error .cancelled⟩, after⟩) := by
  obtain ⟨calls, logs, assigned, quiet⟩ := run_assigned_calls world response.toolCalls state
  rw [LoopSetup.callRound, World.run_bind]
  generalize world.run (LoopSetup.assignedCalls response.toolCalls) state = drawing at *
  obtain ⟨_, _, drawn⟩ := drawing
  dsimp only at calls assigned
  subst calls assigned
  have stamped := World.run_heedless world .stamp drawn rfl (by simp)
  simp only [World.run_bind, Proc.stamp, stamped, Run.andThen]
  generalize (world.respond .callIds state).1 = supply
  generalize (world.respond .stamp drawn).1 = stamp
  obtain ⟨silent, results, appended, answered, ended⟩ := Proc.ensures_run world _
    (world.respond .stamp drawn).2 (answer_calls_append setup
      ((assignCallIds supply response.toolCalls).map (·.call)) (history ++
        [.withToolCalls stamp response.content
          ((assignCallIds supply response.toolCalls).map (·.call))]))
  generalize world.run (setup.answerCalls _ _) _ = answers at *
  obtain ⟨events, ⟨_, failure⟩, after⟩ := answers
  dsimp only at silent appended ended ⊢
  subst appended
  refine ⟨⟨response, supply, stamp, results⟩,
    logs ++ ⟨.stamp, stamp⟩ :: events, after, rfl, ?_, ?_⟩
  · intro event member
    rcases List.mem_append.mp member with log | other
    · exact quiet event log
    · rcases List.mem_cons.mp other with now | late
      · rw [now]
        exact .stamp
      · exact silent event late
  · rcases ended with ⟨rfl, whole⟩ | ⟨rfl, short⟩
    · rw [whole, List.take_length] at answered
      refine .inl ⟨⟨called, answered⟩, ?_⟩
      simp [Round.messages, Round.issuing, Round.calls]
    · refine .inr ⟨⟨called, answered, short⟩, ?_⟩
      simp [Round.messages, Round.issuing, Round.calls, World.run_pure]

def LoopSetup.replied (history : List Message) (reply : Effect.Reply) : Event :=
  ⟨.chat setup.provider (setup.request history), .finished reply⟩

inductive Inquiry (setup : LoopSetup) :
    Nat → List Message → Option TokenUsage → List Event → LoopResult → Prop where
  | exhausted (history : List Message) (usage : Option TokenUsage) :
      Inquiry setup 0 history usage
        [⟨.log ⟨.warning, "Max iterations reached without a final answer"⟩, ()⟩]
        ⟨history, usage, .error (.iterationLimit setup.rounds)⟩
  | refused (left : Nat) (history : List Message) (usage : Option TokenUsage) :
      Inquiry setup (left + 1) history usage [] ⟨history, usage, .error .cancelled⟩
  | interrupted (left : Nat) (history : List Message) (usage : Option TokenUsage) :
      Inquiry setup (left + 1) history usage
        [⟨.chat setup.provider (setup.request history), .interrupted⟩]
        ⟨history, usage, .error .cancelled⟩
  | failed (left : Nat) (history : List Message) (usage : Option TokenUsage) (e : ProviderError) :
      Inquiry setup (left + 1) history usage [setup.replied history (.error e)]
        ⟨history, usage, .error (.provider e)⟩
  | answered (left : Nat) (history : List Message) (usage : Option TokenUsage) (stamp : Stamp)
      (response : ChatResponse) (final : response.toolCalls = []) {events : List Event}
      (quiet : ∀ event ∈ events, event.effect.OfCalls) :
      Inquiry setup (left + 1) history usage (setup.replied history (.ok response) :: events)
        ⟨history ++ answerMessages stamp response, TokenUsage.addReported usage response.usage,
          .ok response⟩
  | cut (left : Nat) (history : List Message) (usage : Option TokenUsage) (round : Round)
      (cut : round.Cut) {events : List Event} (quiet : ∀ event ∈ events, event.effect.OfCalls) :
      Inquiry setup (left + 1) history usage
        (setup.replied history (.ok round.response) :: ⟨.callIds, round.supply⟩ :: events)
        ⟨history ++ round.messages, TokenUsage.addReported usage round.response.usage,
          .error .cancelled⟩
  | called {left : Nat} {history : List Message} {usage : Option TokenUsage} (round : Round)
      (complete : round.Complete) {events later : List Event} {result : LoopResult}
      (quiet : ∀ event ∈ events, event.effect.OfCalls)
      (rest : Inquiry setup left (history ++ round.messages)
        (TokenUsage.addReported usage round.response.usage) later result) :
      Inquiry setup (left + 1) history usage
        (setup.replied history (.ok round.response) :: ⟨.callIds, round.supply⟩ :: events ++ later)
        result

def LoopSetup.answerRound (history : List Message) (usage : Option TokenUsage)
    (response : ChatResponse) : Proc LoopResult := do
  return ⟨← LoopSetup.appendAnswer response history, usage, .ok response⟩

theorem answer_inquired (left : Nat) (history : List Message) (usage : Option TokenUsage)
    (response : ChatResponse) (final : response.toolCalls = []) (state : σ) :
    Inquiry setup (left + 1) history usage
      (setup.replied history (.ok response) :: (world.run (LoopSetup.answerRound history
        (TokenUsage.addReported usage response.usage) response) state).trace)
      (world.run (LoopSetup.answerRound history
        (TokenUsage.addReported usage response.usage) response) state).value := by
  obtain ⟨quiet, stamp, appended⟩ := Proc.ensures_run world _ state
    (minor_of_calls _ (append_answer_ensures response history))
  simp only [LoopSetup.answerRound, World.run_bind, Run.andThen, World.run_pure, List.append_nil,
    appended]
  exact .answered left history usage stamp response final quiet

theorem call_round_inquired (left : Nat) (history : List Message) (usage : Option TokenUsage)
    (response : ChatResponse) (called : response.toolCalls ≠ []) (state : σ)
    (rest : ∀ history usage state,
      Inquiry setup left history usage (world.run (setup.runRounds left history usage) state).trace
        (world.run (setup.runRounds left history usage) state).value) :
    Inquiry setup (left + 1) history usage
      (setup.replied history (.ok response) :: (world.run (setup.callRound left history
        (TokenUsage.addReported usage response.usage) response) state).trace)
      (world.run (setup.callRound left history
        (TokenUsage.addReported usage response.usage) response) state).value := by
  obtain ⟨round, events, after, rfl, quiet, ended⟩ := run_call_round world setup left history
    (TokenUsage.addReported usage response.usage) response called state
  rcases ended with ⟨complete, run⟩ | ⟨cut, run⟩
  · rw [run]
    exact .called round complete quiet (rest _ _ after)
  · rw [run]
    exact .cut left history usage round cut quiet

theorem rounds_inquired (left : Nat) (history : List Message) (usage : Option TokenUsage)
    (state : σ) :
    Inquiry setup left history usage (world.run (setup.runRounds left history usage) state).trace
      (world.run (setup.runRounds left history usage) state).value := by
  induction left generalizing history usage state with
  | zero =>
      have warned := World.run_heedless world
        (.log ⟨.warning, "Max iterations reached without a final answer"⟩) state rfl (by simp)
      rw [LoopSetup.runRounds, World.run_bind, Proc.warn, warned]
      exact .exhausted history usage
  | succ left ih =>
      have raced := World.run_racing world (.chat setup.provider (setup.request history)) state
        .interrupted rfl
      rw [run_rounds_succ, World.run_bind, Proc.chat, raced]
      cases world.cancelled state with
      | true => exact .refused left history usage
      | false =>
          simp only [Bool.false_eq_true, if_false]
          generalize (world.respond _ state).1 = reply
          generalize (world.respond _ state).2 = replied
          rcases reply with _ | e | response
          · exact .interrupted left history usage
          · exact .failed left history usage e
          · simp only [Run.andThen]
            cases final : response.toolCalls with
            | nil => exact answer_inquired world setup left history usage response final replied
            | cons call calls =>
                exact call_round_inquired world setup left history usage response (by simp [final])
                  replied ih

def LoopResult.total (result : LoopResult) : TokenUsage := result.usage.getD {}

def LoopResult.report (result : LoopResult) : Event := ⟨.reportUsage result.total, ()⟩

theorem run_configured (loop : ConversationLoop) (systemPrompt : String) (history : List Message)
    (state : σ) (configured : loop.setup systemPrompt = .ok setup) :
    ∃ trace result after, Inquiry setup setup.rounds history none trace result ∧
      world.run (loop.run systemPrompt history) state =
        ⟨trace ++ if loop.reportsUsage then [result.report] else [],
          ConversationLoop.withTotal result, after⟩ := by
  have inquiry := rounds_inquired world setup setup.rounds history none state
  rw [ConversationLoop.run, configured]
  simp only [World.run_bind]
  generalize world.run (setup.runRounds setup.rounds history none) state = rounds at *
  cases reports : loop.reportsUsage with
  | true =>
      have told := World.run_heedless world (.reportUsage rounds.value.total) rounds.state rfl
        (by simp)
      refine ⟨rounds.trace, rounds.value,
        (world.respond (.reportUsage rounds.value.total) rounds.state).2, inquiry, ?_⟩
      simp only [if_true, World.run_bind, Run.andThen]
      rw [Proc.reportUsage, ← LoopResult.total, told]
      rfl
  | false => exact ⟨rounds.trace, rounds.value, rounds.state, inquiry, rfl⟩

end Dialogue
