import Dialogue.Proofs.Agent.Course
import Dialogue.Proofs.Process.Script

set_option autoImplicit false

namespace Dialogue

variable {σ : Type}

def Effect.isExecution : Effect → Bool
  | .execute _ _ => true
  | _ => false

def journal (trace : List Event) : List Event := trace.filter (·.effect.isJournaled)

def requested (trace : List Event) : List ToolCall := (responses trace).flatMap (·.toolCalls)

def resultTexts (messages : List Message) : List String :=
  (messages.filter Message.isTool).map (·.content)

def LoopSetup.Runnable (setup : LoopSetup) (call : ToolCall) : Prop :=
  ∃ tool arguments, setup.tools.lookup call.name = some tool ∧
    parseArguments call.arguments = .ok arguments

inductive Denies : Approver → String → Prop where
  | readOnly (supervisor : Option Approver) :
      Denies (.autonomy .readOnly supervisor) readOnlyReason
  | unsupervised : Denies (.autonomy .supervised none) unsupervisedReason

theorem denies_ruling (approver : Approver) (reason : String) (denies : Denies approver reason) :
    approver.ruling = .decided (.denied reason) := by
  cases denies <;> rfl

theorem journal_of_attempts {α : Type} (world : World σ) (process : Proc α) (state : σ) :
    journal (world.run process state).trace =
      ((world.attempts process state).filter fun attempt =>
        !world.cancelled attempt.state).map world.event := by
  have decided : ∀ moment : Moment σ, moment.effect.isJournaled = true →
      (world.outcome moment).started = !world.cancelled moment.state := by
    intro moment journaled
    apply world.started_unless_cancelled
    intro heedless
    rw [moment.effect.heedless_unjournaled heedless] at journaled
    cases journaled
  rw [journal, World.trace_of_timeline, List.filter_map, World.attempts, List.filter_filter,
    List.filter_filter]
  congr 1
  apply List.filter_congr
  intro moment _
  change (moment.effect.isJournaled && (world.outcome moment).started) =
    (!world.cancelled moment.state && moment.effect.isJournaled)
  cases journaled : moment.effect.isJournaled with
  | true => rw [decided moment journaled, Bool.and_comm]
  | false => simp

theorem execution_attempted {α : Type} (world : World σ) (process : Proc α) (state : σ)
    (event : Event) (member : event ∈ (world.run process state).trace)
    (executes : event.effect.isExecution = true) :
    ∃ attempt ∈ world.attempts process state, attempt.effect.isExecution = true := by
  rw [World.trace_of_timeline] at member
  obtain ⟨moment, performed, rfl⟩ := List.mem_map.mp member
  refine ⟨moment, List.mem_filter.mpr ⟨(List.mem_filter.mp performed).1, ?_⟩, executes⟩
  change moment.effect.isExecution = true at executes
  revert executes
  cases moment.effect <;> simp [Effect.isExecution, Effect.isJournaled]

variable {world : World σ} {setup : LoopSetup}

theorem walked_any_id {call : ToolCall} {id : String} {attempts : List (Moment σ)}
    {answer : Option String} (walked : Walked world setup { call with id } attempts answer) :
    Walked world setup call attempts answer := by
  cases walked with
  | unknown missing => exact .unknown missing
  | malformed found bad => exact .malformed found bad
  | failed found parsed asks verdict => exact .failed found parsed asks verdict
  | denied found parsed asks verdict => exact .denied found parsed asks verdict
  | executed found parsed asks verdict onward executes =>
      exact .executed found parsed asks verdict onward executes

theorem walk_any_ids {calls others : List ToolCall} {attempts : List (Moment σ)}
    {texts : List String} {all : Bool} (same : SameButIds calls others)
    (walk : Walk world setup calls attempts texts all) :
    Walk world setup others attempts texts all := by
  induction walk generalizing others with
  | done =>
      cases same
      exact .done
  | onward first rest ih =>
      cases same with
      | cons one more =>
          obtain ⟨id, rfl⟩ := one
          exact .onward (walked_any_id first) (ih more)
  | stopped last =>
      cases same with
      | cons one more =>
          obtain ⟨id, rfl⟩ := one
          exact .stopped (walked_any_id last)

theorem walk_append {calls more : List ToolCall} {attempts later : List (Moment σ)}
    {texts others : List String} {complete all : Bool}
    (first : Walk world setup calls attempts texts complete) (whole : complete = true)
    (rest : Walk world setup more later others all) :
    Walk world setup (calls ++ more) (attempts ++ later) (texts ++ others) all := by
  induction first with
  | done => exact rest
  | onward one _ ih =>
      rw [List.append_assoc]
      exact .onward one (ih whole)
  | stopped => cases whole

theorem result_texts_append (first second : List Message) :
    resultTexts (first ++ second) = resultTexts first ++ resultTexts second := by
  simp [resultTexts]

theorem result_texts_of_round (stamp : Stamp) (content : String) (called calls : List ToolCall)
    (results : List Message) (answers : List.Forall₂ ResultOf calls results) :
    resultTexts (.withToolCalls stamp content called :: results) = results.map (·.content) := by
  rw [resultTexts, results_of_round stamp content called calls results answers]

-- The calls of all responses are walked one after the other; only a cancelled run leaves some out.
theorem course_walk {replies : List ChatResponse} {attempts : List (Moment σ)}
    {appended : List Message} {outcome : Except Error ChatResponse}
    (course : Course world setup replies attempts appended outcome) :
    ∃ all, Walk world setup (replies.flatMap (·.toolCalls)) attempts (resultTexts appended) all ∧
      (all = false → outcome = .error .cancelled) := by
  induction course with
  | unanswered e => exact ⟨true, .done, by simp⟩
  | answered stamp response final =>
      refine ⟨true, ?_, by simp⟩
      have noResults : resultTexts (answerMessages stamp response) = [] := by
        rw [resultTexts, answer_no_results, List.map_nil]
      rw [noResults, List.flatMap_cons, final]
      exact .done
  | stopped stamp called assigned answers walk =>
      obtain ⟨supply, rfl⟩ := assigned
      refine ⟨false, ?_, fun _ => rfl⟩
      rw [result_texts_of_round stamp _ _ _ _ answers, List.flatMap_cons, List.flatMap_nil,
        List.append_nil]
      exact walk_any_ids (assigned_same supply 0 [] _) walk
  | onward stamp called assigned answers walk rest ih =>
      obtain ⟨supply, rfl⟩ := assigned
      obtain ⟨all, later, ends⟩ := ih
      refine ⟨all, ?_, ends⟩
      rw [result_texts_append, result_texts_of_round stamp _ _ _ _ answers, List.flatMap_cons]
      exact walk_append (walk_any_ids (assigned_same supply 0 [] _) walk) rfl later

theorem denied_asking {reason : String} (denies : Denies setup.approver reason) (call : ToolCall)
    (arguments : Json) :
    setup.asking call arguments =
      .rule (.denied reason) ⟨call.name, arguments, describeToolCall call⟩ := by
  rw [LoopSetup.asking, denies_ruling _ _ denies]
  rfl

theorem denied_verdict {reason : String} (denies : Denies setup.approver reason) (call : ToolCall)
    (arguments : Json) (asked : Moment σ) (asks : asked.effect = setup.asking call arguments) :
    (world.event asked).verdict = .ok (.denied reason) ∨
      (world.event asked).verdict = .error .cancelled := by
  obtain ⟨state, effect⟩ := asked
  rw [denied_asking denies] at asks
  cases asks
  rw [World.event, World.outcome]
  cases (world.step (.rule (.denied reason) ⟨call.name, arguments, describeToolCall call⟩)
    state).answer with
  | interrupted => exact .inr rfl
  | finished => exact .inl rfl

theorem told_failure (e : ToolError) (cancelled : Bool) (text : String)
    (answered : setup.told (.error e) cancelled = some text) :
    e ≠ .cancelled ∧ text = failureText e := by
  rw [LoopSetup.told] at answered
  split at answered
  · cases answered
  · rename_i onward
    exact ⟨fun same => onward (.inl same), (Option.some.inj answered).symm⟩

theorem walked_denied {call : ToolCall} {attempts : List (Moment σ)} {answer : Option String}
    {reason : String} (denies : Denies setup.approver reason)
    (walked : Walked world setup call attempts answer) :
    (∀ attempt ∈ attempts, attempt.effect.isExecution = false) ∧
      ∀ text, answer = some text → setup.Runnable call →
        text = failureText (.permissionDenied call.name reason) := by
  cases walked with
  | unknown missing =>
      refine ⟨by simp, ?_⟩
      rintro _ _ ⟨tool, arguments, found, _⟩
      rw [missing] at found
      cases found
  | malformed found bad =>
      refine ⟨by simp, ?_⟩
      rintro _ _ ⟨tool, arguments, _, parsed⟩
      rw [bad] at parsed
      cases parsed
  | @failed tool arguments asked e found parsed asks failed =>
      refine ⟨by simp [asks, denied_asking denies, Effect.isExecution], ?_⟩
      intro text answered _
      rcases denied_verdict denies call arguments asked asks with other | cancelled
      · rw [failed] at other
        cases other
      · rw [failed] at cancelled
        cases cancelled
        exact absurd rfl (told_failure _ _ _ answered).1
  | @denied tool arguments asked given found parsed asks denied =>
      refine ⟨by simp [asks, denied_asking denies, Effect.isExecution], ?_⟩
      intro text answered _
      rcases denied_verdict denies call arguments asked asks with same | other
      · rw [denied] at same
        cases same
        exact (told_failure _ _ _ answered).2
      · rw [denied] at other
        cases other
  | @executed tool arguments asked started found parsed asks approved onward executes =>
      rcases denied_verdict denies call arguments asked asks with other | other <;>
        · rw [approved] at other
          cases other

theorem walk_denied {calls : List ToolCall} {attempts : List (Moment σ)} {texts : List String}
    {all : Bool} {reason : String} (denies : Denies setup.approver reason)
    (walk : Walk world setup calls attempts texts all) :
    (∀ attempt ∈ attempts, attempt.effect.isExecution = false) ∧
      ∀ answer ∈ calls.zip texts, setup.Runnable answer.1 →
        answer.2 = failureText (.permissionDenied answer.1.name reason) := by
  induction walk with
  | done => simp
  | onward first rest ih =>
      obtain ⟨unexecuted, told⟩ := walked_denied denies first
      constructor
      · intro attempt member
        rcases List.mem_append.mp member with now | later
        · exact unexecuted attempt now
        · exact ih.1 attempt later
      · intro answer member
        rcases List.mem_cons.mp member with now | later
        · rw [now]
          exact told _ rfl
        · exact ih.2 answer later
  | stopped last => exact ⟨(walked_denied denies last).1, by simp⟩

-- The attempts of a run walk the requested calls, which get these texts in answer; where everything
-- is denied nothing runs, and the model is told so.
structure Gated (world : World σ) (setup : LoopSetup) (run : Run σ LoopResult)
    (attempts : List (Moment σ)) (texts : List String) : Prop where
  walk : ∃ all, Walk world setup (requested run.trace) attempts texts all ∧
    (all = false → run.value.outcome = .error .cancelled)
  unexecuted : ∀ reason, Denies setup.approver reason →
    ∀ event ∈ run.trace, event.effect.isExecution = false
  told : ∀ reason, Denies setup.approver reason →
    ∀ answer ∈ (requested run.trace).zip texts, setup.Runnable answer.1 →
      answer.2 = failureText (.permissionDenied answer.1.name reason)

theorem journal_walks_requested_calls (world : World σ) (loop : ConversationLoop)
    (systemPrompt : String) (history : List Message) (state : σ) :
    journal (world.run (loop.run systemPrompt history) state).trace =
        ((world.attempts (loop.run systemPrompt history) state).filter fun attempt =>
          !world.cancelled attempt.state).map world.event ∧
      (∀ e, loop.setup systemPrompt = .error e →
        world.attempts (loop.run systemPrompt history) state = []) ∧
      ∀ setup, loop.setup systemPrompt = .ok setup →
        ∃ appended, (world.run (loop.run systemPrompt history) state).value.history =
            history ++ appended ∧
          Gated world setup (world.run (loop.run systemPrompt history) state)
            (world.attempts (loop.run systemPrompt history) state) (resultTexts appended) := by
  refine ⟨journal_of_attempts world _ state, ?_, ?_⟩
  · intro e unconfigured
    rw [ConversationLoop.run, unconfigured]
    rfl
  · intro setup configured
    obtain ⟨appended, outcome, kept, course, ended⟩ :=
      loop_course world setup loop systemPrompt history state configured
    obtain ⟨all, walk, stopped⟩ := course_walk course
    refine ⟨appended, kept, ⟨all, walk, ?_⟩, ?_, ?_⟩
    · intro some
      rw [ended, stopped some]
      rfl
    · intro reason denies event member
      rw [Bool.eq_false_iff]
      intro executes
      obtain ⟨attempt, attempted, also⟩ := execution_attempted world _ state event member executes
      rw [(walk_denied denies walk).1 attempt attempted] at also
      cases also
    · exact fun reason denies => (walk_denied denies walk).2

def readOnlyLoop : ConversationLoop where
  provider := some ⟨"model"⟩
  tools := some (.ofTools [⟨⟨"read", "", Json.empty⟩, 0⟩])
  approver := some (.autonomy .readOnly none)

def eagerModel : Script where
  replies :=
    [.ok (.ofToolCalls [⟨"a", "read", ""⟩, ⟨"b", "guess", ""⟩]), .ok (.ofText "done")]

theorem read_only_call_denied :
    ∃ setup, readOnlyLoop.setup "" = .ok setup ∧ Denies setup.approver readOnlyReason ∧
      setup.Runnable ⟨"a", "read", ""⟩ ∧
      ∃ text later, resultTexts (scripted.run (readOnlyLoop.run "" []) eagerModel).value.history =
          text :: later ∧
        text = failureText (.permissionDenied "read" readOnlyReason) := by
  refine ⟨_, rfl, .readOnly none, ⟨_, _, rfl, rfl⟩, ?_⟩
  obtain ⟨appended, kept, gated⟩ :=
    (journal_walks_requested_calls scripted readOnlyLoop "" [] eagerModel).2.2 _ rfl
  rw [List.nil_append] at kept
  rw [kept]
  have texts : ∃ text later, resultTexts appended = text :: later := by
    rw [← kept]
    exact ⟨_, _, rfl⟩
  obtain ⟨text, later, same⟩ := texts
  have calls : requested (scripted.run (readOnlyLoop.run "" []) eagerModel).trace =
      [⟨"a", "read", ""⟩, ⟨"b", "guess", ""⟩] := rfl
  refine ⟨text, later, same, ?_⟩
  apply gated.told readOnlyReason (.readOnly none) (⟨"a", "read", ""⟩, text)
  · rw [calls, same]
    exact List.mem_cons_self
  · exact ⟨_, _, rfl, rfl⟩

end Dialogue
