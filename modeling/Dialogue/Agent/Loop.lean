import Dialogue.Agent.CallIds
import Dialogue.Agent.Describe
import Dialogue.Json.Reader
import Dialogue.Tool.Execution

/-!
The conversation loop: ask the model, run the tools it calls, and ask again with their results,
until it answers without calls. What goes wrong with a single call becomes text for the model to
read. Only a failed model call, cancellation and the limit of rounds end a run early, and the
history keeps what was appended until then.
-/

set_option autoImplicit false

namespace Dialogue

structure ConversationLoop where
  provider : Option Provider := none
  tools : Option ToolRegistry := none
  -- Without an approver every call is approved.
  approver : Option Approver := none
  -- Rounds before giving up; zero stands for the default.
  maxIterations : Nat := 0
  -- The most bytes of a tool's output that are kept; zero means all.
  toolOutputCap : Nat := 0
  maxTokens : Option Nat := none
  reportsUsage : Bool := false

structure LoopResult where
  history : List Message
  usage : Option TokenUsage
  outcome : Except Error ChatResponse

structure LoopSetup where
  provider : Provider
  tools : ToolRegistry
  approver : Approver
  systemPrompt : String
  rounds : Nat
  toolOutputCap : Nat
  maxTokens : Option Nat

def parseArguments (text : String) : Except Json.SyntaxError Json :=
  if Text.isBlank text then .ok Json.empty else Json.parse text

def failureText (e : ToolError) : String := "Error: " ++ e.message

namespace LoopSetup

variable (setup : LoopSetup)

def request (history : List Message) : ChatRequest :=
  { systemPrompt := setup.systemPrompt, messages := history
    tools := setup.tools.definitions, maxTokens := setup.maxTokens }

def unknownToolText (name : String) : String :=
  failureText (.notFound name) ++ ". Available tools: " ++
    if setup.tools.isEmpty then "none" else ", ".intercalate setup.tools.names

def malformedText (name : String) (e : Json.SyntaxError) : String :=
  failureText (.invalidArguments (name ++ ": " ++ e.message))

def runCall (tool : Tool) (arguments : Json) (call : ToolCall) : Proc (Except Error String) := do
  match ← executeTool setup.approver tool arguments (describeToolCall call) with
  | .ok output => return .ok (Text.truncate output setup.toolOutputCap)
  | .error .cancelled => return .error .cancelled
  | .error e =>
    if ← Proc.cancelled then return .error .cancelled
    else
      Proc.warn "Tool execution failed"
      return .ok (failureText e)

def answerCall (call : ToolCall) : Proc (Except Error String) :=
  match setup.tools.lookup call.name with
  | none => do
    Proc.warn "Model requested an unknown tool"
    return .ok (setup.unknownToolText call.name)
  | some tool =>
    match parseArguments call.arguments with
    | .error e => do
      Proc.warn "Tool call has malformed arguments"
      return .ok (malformedText call.name e)
    | .ok arguments => setup.runCall tool arguments call

def answerCalls : List ToolCall → List Message → Proc (List Message × Option Error)
  | [], history => return (history, none)
  | call :: calls, history => do
    match ← setup.answerCall call with
    | .error e => return (history, some e)
    | .ok text =>
      let stamp ← Proc.stamp
      answerCalls calls (history ++ [.toolResult stamp call.id text])

def reportReplaced : List AssignedCall → Proc Unit
  | [] => return ()
  | assigned :: rest => do
    if assigned.replaced then Proc.warn "Replacing unusable tool call id"
    reportReplaced rest

def assignedCalls (calls : List ToolCall) : Proc (List ToolCall) := do
  let supply ← Proc.callIds
  let assigned := assignCallIds supply calls
  reportReplaced assigned
  return assigned.map (·.call)

def appendAnswer (response : ChatResponse) (history : List Message) : Proc (List Message) :=
  if response.content.isEmpty then return history
  else do
    let stamp ← Proc.stamp
    return history ++ [.assistant stamp response.content]

def runRounds : Nat → List Message → Option TokenUsage → Proc LoopResult
  | 0, history, usage => do
    Proc.warn "Max iterations reached without a final answer"
    return ⟨history, usage, .error (.iterationLimit setup.rounds)⟩
  | left + 1, history, usage => do
    match ← Proc.chat setup.provider (setup.request history) with
    | .interrupted => return ⟨history, usage, .error .cancelled⟩
    | .finished (.error e) => return ⟨history, usage, .error (.provider e)⟩
    | .finished (.ok response) =>
      let usage := TokenUsage.addReported usage response.usage
      if response.toolCalls.isEmpty then
        return ⟨← appendAnswer response history, usage, .ok response⟩
      else
        let calls ← assignedCalls response.toolCalls
        let stamp ← Proc.stamp
        match ← setup.answerCalls calls (history ++ [.withToolCalls stamp response.content calls]) with
        | (history, some e) => return ⟨history, usage, .error e⟩
        | (history, none) => runRounds left history usage

end LoopSetup

namespace ConversationLoop

def defaultMaxIterations : Nat := 10

def rounds (loop : ConversationLoop) : Nat :=
  if loop.maxIterations = 0 then defaultMaxIterations else loop.maxIterations

def setup (loop : ConversationLoop) (systemPrompt : String) : Except Error LoopSetup :=
  match loop.provider, loop.tools with
  | none, _ => .error (.config "conversation loop has no provider")
  | some _, none => .error (.config "conversation loop has no tool registry")
  | some provider, some tools =>
    .ok { provider, tools, approver := loop.approver.getD .auto, systemPrompt
          rounds := loop.rounds, toolOutputCap := loop.toolOutputCap, maxTokens := loop.maxTokens }

def withTotal (result : LoopResult) : LoopResult :=
  { result with outcome := result.outcome.map fun response => { response with usage := result.usage } }

def run (loop : ConversationLoop) (systemPrompt : String) (history : List Message) :
    Proc LoopResult :=
  match loop.setup systemPrompt with
  | .error e => return ⟨history, none, .error e⟩
  | .ok setup => do
    let result ← setup.runRounds setup.rounds history none
    if loop.reportsUsage then Proc.reportUsage (result.usage.getD {})
    return withTotal result

end ConversationLoop

end Dialogue
