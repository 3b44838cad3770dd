import Dialogue.Proofs.Agent.Calls

set_option autoImplicit false

namespace Dialogue

variable {σ : Type}

def Ruling.asking (ruling : Ruling) (request : ApprovalRequest) : Effect :=
  match ruling with
  | .decided decision => .rule decision request
  | .ask desk => .approve desk request

namespace Event

def verdict : Event → Except ToolError ApprovalDecision
  | ⟨.rule decision _, .finished ()⟩ => .ok decision
  | ⟨.approve _ _, .finished outcome⟩ => outcome
  | _ => .error .cancelled

def output : Event → Except ToolError String
  | ⟨.execute _ _, .finished outcome⟩ => outcome
  | _ => .error .cancelled

end Event

namespace LoopSetup

variable (setup : LoopSetup)

def asking (call : ToolCall) (arguments : Json) : Effect :=
  setup.approver.ruling.asking ⟨call.name, arguments, describeToolCall call⟩

-- The text that answers a call, none if its failure ends the run.
def told (result : Except ToolError String) (cancelled : Bool) : Option String :=
  match result with
  | .ok output => some (Text.truncate output setup.toolOutputCap)
  | .error e => if e = .cancelled ∨ cancelled = true then none else some (failureText e)

end LoopSetup

-- What is attempted for one call, each attempt with the state of its moment, and the text that
-- answers it; no text if the call ends the run.
inductive Walked (world : World σ) (setup : LoopSetup) (call : ToolCall) :
    List (Moment σ) → Option String → Prop where
  | unknown (missing : setup.tools.lookup call.name = none) :
      Walked world setup call [] (some (setup.unknownToolText call.name))
  | malformed {tool : Tool} {e : Json.SyntaxError}
      (found : setup.tools.lookup call.name = some tool)
      (bad : parseArguments call.arguments = .error e) :
      Walked world setup call [] (some (LoopSetup.malformedText call.name e))
  | failed {tool : Tool} {arguments : Json} {asked : Moment σ} {e : ToolError}
      (found : setup.tools.lookup call.name = some tool)
      (parsed : parseArguments call.arguments = .ok arguments)
      (asks : asked.effect = setup.asking call arguments)
      (verdict : (world.event asked).verdict = .error e) :
      Walked world setup call [asked]
        (setup.told (.error e) (world.cancelled (world.outcome asked).state))
  | denied {tool : Tool} {arguments : Json} {asked : Moment σ} {reason : String}
      (found : setup.tools.lookup call.name = some tool)
      (parsed : parseArguments call.arguments = .ok arguments)
      (asks : asked.effect = setup.asking call arguments)
      (verdict : (world.event asked).verdict = .ok (.denied reason)) :
      Walked world setup call [asked]
        (setup.told (.error (.permissionDenied call.name reason))
          (world.cancelled (world.outcome asked).state))
  | executed {tool : Tool} {arguments : Json} {asked started : Moment σ}
      (found : setup.tools.lookup call.name = some tool)
      (parsed : parseArguments call.arguments = .ok arguments)
      (asks : asked.effect = setup.asking call arguments)
      (verdict : (world.event asked).verdict = .ok .approved)
      (onward : started.state = (world.outcome asked).state)
      (executes : started.effect = .execute tool arguments) :
      Walked world setup call [asked, started]
        (setup.told (world.event started).output (world.cancelled (world.outcome started).state))

inductive Walk (world : World σ) (setup : LoopSetup) :
    List ToolCall → List (Moment σ) → List String → Bool → Prop where
  | done : Walk world setup [] [] [] true
  | onward {call : ToolCall} {calls : List ToolCall} {attempts later : List (Moment σ)}
      {text : String} {texts : List String} {all : Bool}
      (first : Walked world setup call attempts (some text))
      (rest : Walk world setup calls later texts all) :
      Walk world setup (call :: calls) (attempts ++ later) (text :: texts) all
  | stopped {call : ToolCall} {calls : List ToolCall} {attempts : List (Moment σ)}
      (last : Walked world setup call attempts none) :
      Walk world setup (call :: calls) attempts [] false

variable (world : World σ) (setup : LoopSetup)

theorem run_decide (approver : Approver) (request : ApprovalRequest) (state : σ) :
    world.attempts (approver.decide request) state = [⟨state, approver.ruling.asking request⟩] ∧
      (world.run (approver.decide request) state).value =
        (world.event ⟨state, approver.ruling.asking request⟩).verdict ∧
      (world.run (approver.decide request) state).state =
        (world.outcome ⟨state, approver.ruling.asking request⟩).state := by
  rw [Approver.decide]
  cases approver.ruling with
  | decided decision =>
      have asked := world.run_effect (.rule decision request) state
      simp only [Ruling.asking, World.event, World.outcome, Proc.rule, World.attempts_bind,
        World.run_bind, asked, Run.andThen]
      cases (world.step (.rule decision request) state).answer <;> exact ⟨rfl, rfl, rfl⟩
  | ask desk =>
      have asked := world.run_effect (.approve desk request) state
      simp only [Ruling.asking, World.event, World.outcome, Proc.approve, World.attempts_bind,
        World.run_bind, asked, Run.andThen]
      cases (world.step (.approve desk request) state).answer <;> exact ⟨rfl, rfl, rfl⟩

theorem run_run_tool (tool : Tool) (arguments : Json) (state : σ) :
    world.attempts (runTool tool arguments) state = [⟨state, .execute tool arguments⟩] ∧
      (world.run (runTool tool arguments) state).value =
        (world.event ⟨state, .execute tool arguments⟩).output ∧
      (world.run (runTool tool arguments) state).state =
        (world.outcome ⟨state, .execute tool arguments⟩).state := by
  have executed := world.run_effect (.execute tool arguments) state
  simp only [runTool, World.event, World.outcome, Proc.execute, World.attempts_bind,
    World.run_bind, executed, Run.andThen]
  cases (world.step (.execute tool arguments) state).answer <;> exact ⟨rfl, rfl, rfl⟩

theorem run_settle (result : Except ToolError String) (state : σ) :
    (world.run (setup.settle result) state).value.toOption =
      setup.told result (world.cancelled state) := by
  cases result with
  | ok output => rfl
  | error e =>
      by_cases cancelled : e = .cancelled
      · rw [cancelled]
        rfl
      · rw [settle_failure setup e cancelled]
        simp only [World.run_bind, World.run_look, Run.andThen, LoopSetup.told, cancelled, false_or]
        cases world.cancelled state <;> rfl

theorem lookup_name (registry : ToolRegistry) (name : String) (tool : Tool)
    (found : registry.lookup name = some tool) : tool.name = name := by
  simpa using List.find?_some found

theorem run_call_walked (tool : Tool) (arguments : Json) (call : ToolCall) (state : σ)
    (found : setup.tools.lookup call.name = some tool)
    (parsed : parseArguments call.arguments = .ok arguments) :
    Walked world setup call (world.attempts (setup.runCall tool arguments call) state)
      (world.run (setup.runCall tool arguments call) state).value.toOption := by
  have name := lookup_name _ _ _ found
  have silent : ∀ result state, world.attempts (setup.settle result) state = [] :=
    fun result state => Proc.ensures_no_attempts world _ state
      (minor_heedless _ (settle_ensures setup result))
  obtain ⟨asking, verdict, after⟩ := run_decide world setup.approver
    ⟨tool.name, arguments, describeToolCall call⟩ state
  rw [run_call_settles, executeTool]
  simp only [World.attempts_bind, World.run_bind, Run.andThen, asking, verdict, after, silent,
    run_settle, List.append_nil]
  rw [name]
  generalize settled : (world.event ⟨state, setup.approver.ruling.asking
    ⟨call.name, arguments, describeToolCall call⟩⟩).verdict = decision
  rcases decision with e | ⟨⟩ | reason
  · exact .failed found parsed rfl settled
  · obtain ⟨running, output, left⟩ := run_run_tool world tool arguments
      (world.outcome ⟨state, setup.approver.ruling.asking
        ⟨call.name, arguments, describeToolCall call⟩⟩).state
    simp only [running, output, left]
    exact .executed found parsed rfl settled rfl rfl
  · exact .denied found parsed rfl settled

theorem answer_call_walked (call : ToolCall) (state : σ) :
    Walked world setup call (world.attempts (setup.answerCall call) state)
      (world.run (setup.answerCall call) state).value.toOption := by
  rw [LoopSetup.answerCall]
  cases found : setup.tools.lookup call.name with
  | none => exact .unknown found
  | some tool =>
      cases parsed : parseArguments call.arguments with
      | error e => exact .malformed found parsed
      | ok arguments => exact run_call_walked world setup tool arguments call state found parsed

theorem answer_calls_walk (calls : List ToolCall) (history : List Message) (state : σ) :
    ∃ results all,
      (world.run (setup.answerCalls calls history) state).value =
          (history ++ results, if all then none else some .cancelled) ∧
        List.Forall₂ ResultOf (calls.take results.length) results ∧
        (all = true → results.length = calls.length) ∧
        Walk world setup calls (world.attempts (setup.answerCalls calls history) state)
          (results.map (·.content)) all := by
  induction calls generalizing history state with
  | nil => exact ⟨[], true, by simp [LoopSetup.answerCalls, World.run_pure], .nil, by simp, .done⟩
  | cons call rest ih =>
      have walked := answer_call_walked world setup call state
      have only := (Proc.ensures_run world _ state (answer_call_ensures setup call)).value
      rw [LoopSetup.answerCalls, World.run_bind, World.attempts_bind]
      simp only [Run.andThen]
      generalize world.run (setup.answerCall call) state = answer at *
      obtain ⟨_, outcome, answered⟩ := answer
      cases outcome with
      | error e =>
          have cancelled : e = .cancelled := only e rfl
          subst cancelled
          refine ⟨[], false, by simp [World.run_pure], .nil, by simp, ?_⟩
          rw [World.attempts_pure, List.append_nil]
          exact .stopped walked
      | ok text =>
          have stamped := World.run_heedless world .stamp answered rfl (by simp)
          obtain ⟨results, all, value, answers, whole, walk⟩ := ih
            (history ++ [.toolResult (world.respond .stamp answered).1 call.id text])
            (world.respond .stamp answered).2
          refine ⟨.toolResult (world.respond .stamp answered).1 call.id text :: results, all,
            ?_, ?_, ?_, ?_⟩
          · simp only [World.run_bind, Proc.stamp, stamped, Run.andThen, value, List.append_assoc,
              List.singleton_append]
          · exact .cons ⟨rfl, rfl⟩ answers
          · simpa using whole
          · simp only [World.attempts_bind, Proc.stamp, stamped]
            exact .onward walked walk

end Dialogue
