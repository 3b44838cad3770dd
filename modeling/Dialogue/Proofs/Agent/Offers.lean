import Dialogue.Proofs.Agent.Outcome
import Dialogue.Proofs.Agent.Results
import Dialogue.Proofs.Tool.Registry

set_option autoImplicit false

namespace Dialogue

namespace ToolRegistry

-- All views of a registry agree on the last tool under each name that was registered.
structure Indexes (registry : ToolRegistry) (tools : List Tool) : Prop where
  ascending : registry.names.Pairwise fun first second => Text.utf8 first < Text.utf8 second
  once : registry.names.Nodup
  registered : ∀ name, name ∈ registry.names ↔ ∃ tool ∈ tools, tool.name = name
  listed : registry.definitions.map (·.name) = registry.names
  described : registry.definitions.map some =
    registry.names.map fun name => (lastNamed tools name).map (·.definition)
  found : ∀ name, registry.lookup name = lastNamed tools name

theorem of_tools_indexes (tools : List Tool) : (ofTools tools).Indexes tools := by
  have ascending := of_tools_ascending tools
  have names : (ofTools tools).names.Pairwise fun first second => first < second :=
    List.pairwise_map.mpr ascending
  refine ⟨?_, ?_, ?_, ?_, ?_, lookup_last tools⟩
  · exact names.imp fun {first second} less => (Text.utf8_lt_iff first second).mpr less
  · exact names.imp fun less => String.ne_of_lt less
  · intro name
    rw [mem_names_iff, lookup_last, last_named_iff]
  · simp only [definitions, ToolRegistry.names, List.map_map, Function.comp_def]
    rfl
  · rw [definitions, ToolRegistry.names, List.map_map, List.map_map]
    apply List.map_congr_left
    intro tool member
    simp only [Function.comp_apply]
    rw [← lookup_last, lookup_of_member tool _ ascending member]
    rfl

end ToolRegistry

variable {setup : LoopSetup}

-- A call of an offered tool runs this very tool, if it may.
structure LoopSetup.Runs (setup : LoopSetup) (definition : ToolDefinition)
    (tool : Tool) : Prop where
  defined : tool.definition = definition
  found : setup.tools.lookup definition.name = some tool
  runs : ∀ call arguments, call.name = definition.name →
    parseArguments call.arguments = .ok arguments →
      setup.answerCall call = setup.runCall tool arguments call

def LoopSetup.Executable (setup : LoopSetup) (definition : ToolDefinition) : Prop :=
  ∃ tool, setup.Runs definition tool

theorem offered_executable (ascending : ToolRegistry.Ascending setup.tools.tools)
    (definition : ToolDefinition) (offered : definition ∈ setup.tools.definitions) :
    setup.Executable definition := by
  obtain ⟨tool, member, rfl⟩ := List.mem_map.mp offered
  have found := ToolRegistry.lookup_of_member tool _ ascending member
  refine ⟨tool, rfl, found, ?_⟩
  intro call arguments named parsed
  have called : setup.tools.lookup call.name = some tool := named ▸ found
  rw [LoopSetup.answerCall, called]
  simp only [parsed]

theorem inquiry_offers {left : Nat} {history : List Message} {usage : Option TokenUsage}
    {trace : List Event} {result : LoopResult}
    (inquiry : Inquiry setup left history usage trace result) :
    ∀ request ∈ requests trace, request.tools = setup.tools.definitions := by
  induction inquiry with
  | exhausted | refused => simp [requests, Event.request?]
  | interrupted | failed => simp [requests, Event.request?, LoopSetup.request, LoopSetup.replied]
  | @answered left history usage stamp response final events quiet =>
      change ∀ request ∈ setup.request history :: requests events, _
      rw [(unasked_of_calls events quiet).2]
      exact List.forall_mem_singleton.mpr rfl
  | @cut left history usage round cut events quiet =>
      change ∀ request ∈ setup.request history :: requests events, _
      rw [(unasked_of_calls events quiet).2]
      exact List.forall_mem_singleton.mpr rfl
  | @called left history usage round complete events later result quiet rest ih =>
      change ∀ request ∈ setup.request history :: requests (events ++ later), _
      rw [(asked_of_calls events later quiet).2]
      exact List.forall_mem_cons.mpr ⟨rfl, ih⟩

variable {σ : Type} (world : World σ)

theorem loop_offers (loop : ConversationLoop) (systemPrompt : String) (history : List Message)
    (state : σ) (configured : loop.setup systemPrompt = .ok setup) :
    ∀ request ∈ requests (world.run (loop.run systemPrompt history) state).trace,
      request.tools = setup.tools.definitions := by
  obtain ⟨trace, result, after, inquiry, run⟩ :=
    run_configured world setup loop systemPrompt history state configured
  rw [run, (asked_before_report trace loop.reportsUsage result).2]
  exact inquiry_offers inquiry

def listing (names : List String) : String :=
  if names.isEmpty then "none" else ", ".intercalate names

theorem unknown_tool_text (name : String) :
    setup.unknownToolText name =
      "Error: unknown tool: " ++ name ++ ". Available tools: " ++ listing setup.tools.names := by
  rw [LoopSetup.unknownToolText, listing, ToolRegistry.names, List.isEmpty_map]
  rfl

variable {world}

theorem walked_unknown {call : ToolCall} {attempts : List (Moment σ)} {answer : Option String}
    (walked : Walked world setup call attempts answer) (unknown : call.name ∉ setup.tools.names) :
    answer = some (setup.unknownToolText call.name) := by
  rw [ToolRegistry.mem_names_iff] at unknown
  cases walked with
  | unknown missing => rfl
  | malformed found | failed found | denied found | executed found =>
      rw [found] at unknown
      exact absurd rfl unknown

def Errand.Lists (names : List String) (errand : Errand σ) (result : Message) : Prop :=
  errand.call.name ∉ names → result.content =
    "Error: unknown tool: " ++ errand.call.name ++ ". Available tools: " ++ listing names

theorem settled_lists {errand : Errand σ} {result : Message}
    (settled : errand.Settled world setup result) : errand.Lists setup.tools.names result := by
  intro unknown
  rw [← unknown_tool_text]
  exact Option.some.inj (walked_unknown settled.walked unknown)

-- After any registrations the views of a registry agree on the tools, and so does all that a model
-- is told of them in a run with this registry.
theorem tool_views_agree (tools : List Tool) :
    (ToolRegistry.ofTools tools).Indexes tools ∧
      (∀ (registry : ToolRegistry) (first second : Tool), first.name ≠ second.name →
        (registry.register first).register second = (registry.register second).register first) ∧
      ∀ {σ : Type} (world : World σ) (loop : ConversationLoop) (systemPrompt : String)
        (history : List Message) (state : σ) (setup : LoopSetup),
        loop.tools = some (.ofTools tools) → loop.setup systemPrompt = .ok setup →
          (∀ request ∈ requests (world.run (loop.run systemPrompt history) state).trace,
            request.tools = (ToolRegistry.ofTools tools).definitions ∧
              ∀ definition ∈ request.tools, setup.Executable definition) ∧
          ∃ appended errands left,
            (world.run (loop.run systemPrompt history) state).value.history =
                history ++ appended ∧
              Accounts world setup
                (requested (world.run (loop.run systemPrompt history) state).trace)
                (world.attempts (loop.run systemPrompt history) state)
                (appended.filter Message.isTool) errands left ∧
              List.Forall₂ (Errand.Lists (ToolRegistry.ofTools tools).names) errands
                (appended.filter Message.isTool) := by
  refine ⟨ToolRegistry.of_tools_indexes tools, ToolRegistry.register_comm, ?_⟩
  intro σ world loop systemPrompt history state setup registered configured
  rw [(configured_setup loop systemPrompt setup configured).tools] at registered
  have same : setup.tools = .ofTools tools := Option.some.inj registered
  constructor
  · intro request asked
    have offered := loop_offers world loop systemPrompt history state configured request asked
    rw [offered, ← same]
    refine ⟨rfl, offered_executable ?_⟩
    rw [same]
    exact ToolRegistry.of_tools_ascending tools
  · obtain ⟨appended, errands, left, kept, accounts, _⟩ :=
      loop_accounts world setup loop systemPrompt history state configured
    refine ⟨appended, errands, left, kept, accounts, ?_⟩
    rw [← same]
    exact accounts.settled.imp fun _ _ => settled_lists

def readTool : Tool := ⟨⟨"read", "Reads.", Json.empty⟩, 0⟩

def oldWriteTool : Tool := ⟨⟨"write", "Writes.", Json.empty⟩, 1⟩

def writeTool : Tool := ⟨⟨"write", "Writes more.", Json.empty⟩, 2⟩

def twoToolLoop : ConversationLoop :=
  { reader.settings.agent with tools := some (.ofTools [oldWriteTool, readTool, writeTool]) }

def guessing : Script where
  replies := [.ok (.ofToolCalls [⟨"a", "guess", ""⟩]), .ok (.ofText "I cannot.")]

theorem guessed_tool_listed :
    (∃ setup, twoToolLoop.setup "" = .ok setup ∧
      ∀ request ∈ requests (scripted.run (twoToolLoop.run "" []) guessing).trace,
        request.tools = [readTool.definition, writeTool.definition] ∧
          setup.Executable writeTool.definition) ∧
      (ToolRegistry.ofTools [oldWriteTool, readTool, writeTool]).lookup "write" = some writeTool ∧
      ToolRegistry.ofTools [oldWriteTool, readTool] = .ofTools [readTool, oldWriteTool] ∧
      ∃ result ∈ (scripted.run (twoToolLoop.run "" []) guessing).value.history,
        result.isTool = true ∧
          result.content = "Error: unknown tool: guess. Available tools: read, write" := by
  obtain ⟨indexes, swaps, runs⟩ := tool_views_agree [oldWriteTool, readTool, writeTool]
  obtain ⟨offers, appended, errands, left, kept, accounts, lists⟩ :=
    runs scripted twoToolLoop "" [] guessing _ rfl rfl
  refine ⟨⟨_, rfl, ?_⟩, indexes.found "write", swaps {} oldWriteTool readTool (by decide), ?_⟩
  · intro request asked
    obtain ⟨offered, executable⟩ := offers request asked
    have told : request.tools = [readTool.definition, writeTool.definition] := offered
    exact ⟨told, executable _ (by simp [told])⟩
  · obtain ⟨called, result, answer, ended, answers, tools⟩ : ∃ called result answer,
        (scripted.run (twoToolLoop.run "" []) guessing).value.history = [called, result, answer] ∧
          result.isTool = true ∧ [called, result, answer].filter Message.isTool = [result] :=
      ⟨_, _, _, rfl, rfl, rfl⟩
    rw [List.nil_append, ended] at kept
    rw [← kept, tools] at accounts lists
    obtain ⟨errand, _, listed, rest, rfl⟩ := List.forall₂_cons_right_iff.mp lists
    cases rest
    obtain ⟨⟨id, same⟩, _⟩ := List.forall₂_cons.mp accounts.called
    have guess : errand.call.name = "guess" := by rw [same]
    rw [Errand.Lists, guess] at listed
    exact ⟨result, by simp [ended], answers, listed (by decide)⟩

end Dialogue
