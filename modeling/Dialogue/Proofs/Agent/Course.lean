import Dialogue.Proofs.Agent.Rounds
import Dialogue.Proofs.Agent.Walk

set_option autoImplicit false

namespace Dialogue

variable {σ : Type}

def Event.response? : Event → Option ChatResponse
  | ⟨.chat _ _, .finished (.ok response)⟩ => some response
  | _ => none

def responses (trace : List Event) : List ChatResponse := trace.filterMap Event.response?

theorem responses_append (first second : List Event) :
    responses (first ++ second) = responses first ++ responses second :=
  List.filterMap_append

theorem of_calls_unanswered (event : Event) (may : event.effect.OfCalls) :
    event.response? = none := by
  obtain ⟨effect, answer⟩ := event
  cases may <;> rfl

theorem heedless_unanswered (event : Event) (heedless : event.effect.Heedless) :
    event.response? = none := by
  obtain ⟨effect, answer⟩ := event
  cases effect with
  | chat => cases heedless
  | _ => rfl

def AssignedTo (response : ChatResponse) (calls : List ToolCall) : Prop :=
  ∃ supply, calls = (assignCallIds supply response.toolCalls).map (·.call)

inductive Course (world : World σ) (setup : LoopSetup) :
    List ChatResponse → List (Moment σ) → List Message → Except Error ChatResponse → Prop where
  | unanswered (e : Error) : Course world setup [] [] [] (.error e)
  | answered (stamp : Stamp) (response : ChatResponse) (final : response.toolCalls = []) :
      Course world setup [response] [] (answerMessages stamp response) (.ok response)
  | stopped {response : ChatResponse} {calls : List ToolCall} {attempts : List (Moment σ)}
      {results : List Message} (stamp : Stamp) (called : response.toolCalls ≠ [])
      (assigned : AssignedTo response calls)
      (answers : List.Forall₂ ResultOf (calls.take results.length) results)
      (walk : Walk world setup calls attempts (results.map (·.content)) false) :
      Course world setup [response] attempts
        (.withToolCalls stamp response.content calls :: results) (.error .cancelled)
  | onward {response : ChatResponse} {calls : List ToolCall} {attempts later : List (Moment σ)}
      {results appended : List Message} {more : List ChatResponse}
      {outcome : Except Error ChatResponse} (stamp : Stamp) (called : response.toolCalls ≠ [])
      (assigned : AssignedTo response calls)
      (answers : List.Forall₂ ResultOf calls results)
      (walk : Walk world setup calls attempts (results.map (·.content)) true)
      (rest : Course world setup more later appended outcome) :
      Course world setup (response :: more) (attempts ++ later)
        (.withToolCalls stamp response.content calls :: results ++ appended) outcome

variable (world : World σ) (setup : LoopSetup)

theorem assigned_calls_heedless (response : ChatResponse) :
    (LoopSetup.assignedCalls response.toolCalls).Ensures Effect.Heedless
      (AssignedTo response) := by
  refine Proc.ensures_after _ _ (by rfl) fun supply => ?_
  apply Proc.ensures_bind _ _ (minor_heedless _
    (report_replaced_ensures (assignCallIds supply response.toolCalls)))
  exact fun _ _ => ⟨supply, rfl⟩

theorem run_heedless_process {α : Type} {post : α → Prop} (process : Proc α) (state : σ)
    (holds : process.Ensures Effect.Heedless post) :
    world.attempts process state = [] ∧ responses (world.run process state).trace = [] ∧
      post (world.run process state).value := by
  obtain ⟨events, value⟩ := Proc.ensures_run world process state holds
  refine ⟨Proc.ensures_no_attempts world process state holds, ?_, value⟩
  rw [responses, List.filterMap_eq_nil_iff]
  exact fun event member => heedless_unanswered event (events event member)

theorem run_chat (provider : Provider) (request : ChatRequest) (state : σ) :
    world.attempts (Proc.chat provider request) state = [] ∧
      responses (world.run (Proc.chat provider request) state).trace =
        (Event.response? ⟨.chat provider request,
          (world.run (Proc.chat provider request) state).value⟩).toList := by
  refine ⟨rfl, ?_⟩
  have raced := World.run_racing world (.chat provider request) state .interrupted rfl
  rw [Proc.chat, raced]
  cases world.cancelled state with
  | true => rfl
  | false =>
      simp only [Bool.false_eq_true, if_false]
      rcases (world.respond (.chat provider request) state).1 with _ | _ | _ <;> rfl

-- The process appends to the history and takes a course, after the responses that came before it.
def HasCourse (before : List ChatResponse) (process : Proc LoopResult) (history : List Message)
    (state : σ) : Prop :=
  ∃ appended, (world.run process state).value.history = history ++ appended ∧
    Course world setup (before ++ responses (world.run process state).trace)
      (world.attempts process state) appended (world.run process state).value.outcome

theorem has_course_unanswered (history : List Message) (usage : Option TokenUsage) (e : Error)
    (state : σ) : HasCourse world setup [] (pure ⟨history, usage, .error e⟩) history state :=
  ⟨[], (List.append_nil history).symm, .unanswered e⟩

theorem has_course_after {α : Type} {before : List ChatResponse} (process : Proc α)
    (next : α → Proc LoopResult) (history : List Message) (state : σ)
    (noAttempts : world.attempts process state = [])
    (silent : responses (world.run process state).trace = [])
    (rest : HasCourse world setup before (next (world.run process state).value) history
      (world.run process state).state) :
    HasCourse world setup before (process >>= next) history state := by
  obtain ⟨appended, value, course⟩ := rest
  refine ⟨appended, ?_, ?_⟩
  · rw [World.run_bind]
    exact value
  · rw [World.run_bind, World.attempts_bind, noAttempts]
    simp only [Run.andThen, responses_append, silent, List.nil_append]
    exact course

theorem answer_round_course (response : ChatResponse) (final : response.toolCalls = [])
    (history : List Message) (usage : Option TokenUsage) (state : σ) :
    HasCourse world setup [response] (do
      return ⟨← LoopSetup.appendAnswer response history, usage, .ok response⟩) history state := by
  obtain ⟨noAttempts, silent, stamp, value⟩ := run_heedless_process world _ state
    (minor_heedless _ (append_answer_ensures response history))
  apply has_course_after world setup _ _ history state noAttempts silent
  exact ⟨answerMessages stamp response, value, .answered stamp response final⟩

theorem call_round_course (left : Nat) (history : List Message) (usage : Option TokenUsage)
    (response : ChatResponse) (called : response.toolCalls ≠ []) (state : σ)
    (rounds : ∀ (history : List Message) (state : σ),
      HasCourse world setup [] (setup.runRounds left history usage) history state) :
    HasCourse world setup [response] (setup.callRound left history usage response) history
      state := by
  obtain ⟨noAttempts, silent, assigned⟩ := run_heedless_process world _ state
    (assigned_calls_heedless response)
  apply has_course_after world setup _ _ history state noAttempts silent
  generalize (world.run (LoopSetup.assignedCalls response.toolCalls) state).value = calls at *
  generalize (world.run (LoopSetup.assignedCalls response.toolCalls) state).state = after
  have stamped := World.run_heedless world .stamp after rfl (by simp)
  apply has_course_after world setup _ _ history after rfl (by rw [Proc.stamp, stamped]; rfl)
  rw [Proc.stamp, stamped]
  dsimp only
  generalize (world.respond .stamp after).1 = stamp
  generalize (world.respond .stamp after).2 = walking
  obtain ⟨results, all, value, answers, whole, walk⟩ := answer_calls_walk world setup calls
    (history ++ [.withToolCalls stamp response.content calls]) walking
  have unanswered : responses (world.run (setup.answerCalls calls
      (history ++ [.withToolCalls stamp response.content calls])) walking).trace = [] := by
    rw [responses, List.filterMap_eq_nil_iff]
    exact fun event member => of_calls_unanswered event
      ((Proc.ensures_run world _ walking (answer_calls_ensures setup calls _)).events event member)
  rw [HasCourse, World.run_bind, World.attempts_bind]
  simp only [Run.andThen, responses_append, unanswered, List.nil_append, value]
  cases all with
  | false =>
      refine ⟨.withToolCalls stamp response.content calls :: results, ?_, ?_⟩
      · simp [World.run_pure]
      · rw [if_neg (by simp), World.attempts_pure, List.append_nil]
        exact .stopped stamp called assigned answers walk
  | true =>
      obtain ⟨appended, history', course⟩ := rounds
        (history ++ [.withToolCalls stamp response.content calls] ++ results)
        (world.run (setup.answerCalls calls
          (history ++ [.withToolCalls stamp response.content calls])) walking).state
      refine ⟨.withToolCalls stamp response.content calls :: results ++ appended, ?_, ?_⟩
      · rw [if_pos rfl, history']
        simp
      · rw [whole rfl, List.take_length] at answers
        rw [if_pos rfl]
        exact .onward stamp called assigned answers walk course

theorem rounds_course (left : Nat) (history : List Message) (usage : Option TokenUsage)
    (state : σ) : HasCourse world setup [] (setup.runRounds left history usage) history state := by
  induction left generalizing history usage state with
  | zero =>
      obtain ⟨noAttempts, silent, _⟩ := run_heedless_process world _ state
        (Proc.ensures_after (.log ⟨.warning, "Max iterations reached without a final answer"⟩)
          pure (by rfl) fun _ => trivial)
      exact has_course_after world setup _ _ history state noAttempts silent
        (has_course_unanswered world setup history usage _ _)
  | succ left ih =>
      rw [run_rounds_succ]
      obtain ⟨noAttempts, responded⟩ := run_chat world setup.provider (setup.request history) state
      rw [HasCourse, World.run_bind, World.attempts_bind, noAttempts]
      simp only [Run.andThen, responses_append, responded, List.nil_append]
      generalize world.run (Proc.chat setup.provider (setup.request history)) state = asked
      obtain ⟨_, reply, replied⟩ := asked
      rcases reply with _ | e | response
      · exact has_course_unanswered world setup history usage _ replied
      · exact has_course_unanswered world setup history usage _ replied
      · dsimp only
        cases final : response.toolCalls with
        | nil => exact answer_round_course world setup response final history _ replied
        | cons call calls =>
            exact call_round_course world setup left history _ response (by simp [final]) replied
              fun history state => ih history _ state

theorem loop_course (loop : ConversationLoop) (systemPrompt : String) (history : List Message)
    (state : σ) (configured : loop.setup systemPrompt = .ok setup) :
    ∃ appended outcome,
      (world.run (loop.run systemPrompt history) state).value.history = history ++ appended ∧
        Course world setup (responses (world.run (loop.run systemPrompt history) state).trace)
          (world.attempts (loop.run systemPrompt history) state) appended outcome ∧
        (world.run (loop.run systemPrompt history) state).value.outcome =
          outcome.map fun response => { response with
            usage := (world.run (loop.run systemPrompt history) state).value.usage } := by
  obtain ⟨appended, kept, course⟩ := rounds_course world setup setup.rounds history none state
  obtain ⟨noAttempts, silent, total⟩ := run_heedless_process world _
    (world.run (setup.runRounds setup.rounds history none) state).state
    (total_heedless loop (world.run (setup.runRounds setup.rounds history none) state).value)
  refine ⟨appended, (world.run (setup.runRounds setup.rounds history none) state).value.outcome,
    ?_, ?_, ?_⟩
  · rw [ConversationLoop.run, configured]
    simp only [World.run_bind, Run.andThen] at total ⊢
    rw [total]
    exact kept
  · rw [ConversationLoop.run, configured]
    simp only [World.run_bind, World.attempts_bind, Run.andThen, responses_append] at *
    rw [silent, noAttempts, List.append_nil, List.append_nil]
    exact course
  · rw [ConversationLoop.run, configured]
    simp only [World.run_bind, Run.andThen] at total ⊢
    rw [total]
    rfl

-- What is appended in a run that was answered: for each response its calls and their results, at
-- last the answer.
inductive Rounds : List ChatResponse → List Message → Prop where
  | answered (stamp : Stamp) (response : ChatResponse) (final : response.toolCalls = []) :
      Rounds [response] (answerMessages stamp response)
  | called {response : ChatResponse} {calls : List ToolCall} {results appended : List Message}
      {more : List ChatResponse} (stamp : Stamp) (assigned : AssignedTo response calls)
      (answers : List.Forall₂ ResultOf calls results) (rest : Rounds more appended) :
      Rounds (response :: more) (.withToolCalls stamp response.content calls :: results ++ appended)

variable {world setup}

theorem course_rounds {replies : List ChatResponse} {attempts : List (Moment σ)}
    {appended : List Message} {outcome : Except Error ChatResponse} (response : ChatResponse)
    (course : Course world setup replies attempts appended outcome)
    (succeeded : outcome = .ok response) :
    Rounds replies appended ∧ response ∈ replies ∧ response.toolCalls = [] := by
  induction course with
  | unanswered e => cases succeeded
  | answered stamp reply final =>
      cases succeeded
      exact ⟨.answered stamp response final, List.mem_singleton.mpr rfl, final⟩
  | stopped => cases succeeded
  | onward stamp called assigned answers walk rest ih =>
      obtain ⟨rounds, member, final⟩ := ih succeeded
      exact ⟨.called stamp assigned answers rounds, List.mem_cons_of_mem _ member, final⟩

theorem course_final {replies : List ChatResponse} {attempts : List (Moment σ)}
    {appended : List Message} {outcome : Except Error ChatResponse} (response : ChatResponse)
    (course : Course world setup replies attempts appended outcome) (member : response ∈ replies)
    (final : response.toolCalls = []) : outcome = .ok response := by
  induction course with
  | unanswered e => cases member
  | answered stamp reply _ => rw [List.mem_singleton.mp member]
  | stopped stamp called => exact absurd (List.mem_singleton.mp member ▸ final) called
  | onward stamp called assigned answers walk rest ih =>
      rcases List.mem_cons.mp member with now | later
      · exact absurd (now ▸ final) called
      · exact ih later

variable (world)

theorem loop_unanswered (loop : ConversationLoop) (systemPrompt : String) (history : List Message)
    (state : σ)
    (unanswered : ∀ response ∈ responses (world.run (loop.run systemPrompt history) state).trace,
      response.toolCalls ≠ []) :
    ∃ e, (world.run (loop.run systemPrompt history) state).value.outcome = .error e := by
  cases configured : loop.setup systemPrompt with
  | error e =>
      rw [ConversationLoop.run, configured]
      exact ⟨e, rfl⟩
  | ok setup =>
      obtain ⟨appended, outcome, _, course, ended⟩ :=
        loop_course world setup loop systemPrompt history state configured
      cases outcome with
      | error e => exact ⟨e, ended⟩
      | ok response =>
          obtain ⟨_, member, final⟩ := course_rounds response course rfl
          exact absurd final (unanswered response member)

theorem loop_answered (loop : ConversationLoop) (systemPrompt : String) (history : List Message)
    (state : σ) (response : ChatResponse)
    (member : response ∈ responses (world.run (loop.run systemPrompt history) state).trace)
    (final : response.toolCalls = []) :
    (world.run (loop.run systemPrompt history) state).value.outcome = .ok { response with
        usage := (world.run (loop.run systemPrompt history) state).value.usage } ∧
      ∃ appended, (world.run (loop.run systemPrompt history) state).value.history =
          history ++ appended ∧
        Rounds (responses (world.run (loop.run systemPrompt history) state).trace) appended := by
  cases configured : loop.setup systemPrompt with
  | error e =>
      rw [ConversationLoop.run, configured] at member
      cases member
  | ok setup =>
      obtain ⟨appended, outcome, kept, course, ended⟩ :=
        loop_course world setup loop systemPrompt history state configured
      have answered := course_final response course member final
      refine ⟨by rw [ended, answered]; rfl, appended, kept, ?_⟩
      exact (course_rounds response course answered).1

end Dialogue
