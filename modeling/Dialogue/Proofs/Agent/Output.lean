import Dialogue.Proofs.Agent.Results
import Dialogue.Proofs.Text.Cut

set_option autoImplicit false

namespace Dialogue

variable {σ : Type} {world : World σ} {setup : LoopSetup}

theorem asking_no_output (call : ToolCall) (arguments : Json) (asked : Moment σ)
    (asks : asked.effect = setup.asking call arguments) (output : String) :
    (world.event asked).output ≠ .ok output := by
  obtain ⟨state, effect⟩ := asked
  rw [LoopSetup.asking] at asks
  cases ruled : setup.approver.ruling with
  | decided decision =>
      rw [ruled] at asks
      cases asks
      simp [World.event, Event.output]
  | ask desk =>
      rw [ruled] at asks
      cases asks
      simp [World.event, Event.output]

-- A tool that gave an output was run for a call that is answered, and what is kept of the output
-- is the answer.
theorem walked_output {call : ToolCall} {attempts : List (Moment σ)} {answer : Option String}
    (walked : Walked world setup call attempts answer) (attempt : Moment σ)
    (member : attempt ∈ attempts) (output : String)
    (succeeded : (world.event attempt).output = .ok output) :
    answer = some (Text.truncate output setup.toolOutputCap) := by
  cases walked with
  | unknown | malformed => cases member
  | failed found parsed asks verdict | denied found parsed asks verdict =>
      rw [List.mem_singleton.mp member] at succeeded
      exact absurd succeeded (asking_no_output call _ _ asks output)
  | executed found parsed asks verdict onward executes =>
      rcases List.mem_cons.mp member with now | later
      · rw [now] at succeeded
        exact absurd succeeded (asking_no_output call _ _ asks output)
      · rw [List.mem_singleton.mp later] at succeeded
        rw [succeeded, LoopSetup.told]

theorem abandoned_no_output {left : List (Moment σ)} (abandoned : Abandoned world setup left)
    (attempt : Moment σ) (member : attempt ∈ left) (output : String) :
    (world.event attempt).output ≠ .ok output := by
  intro succeeded
  rcases abandoned with rfl | ⟨call, walked⟩
  · cases member
  · cases walked_output walked attempt member output succeeded

def Errand.Shows (world : World σ) (cap : Nat) (errand : Errand σ) (result : Message) : Prop :=
  ∀ attempt ∈ errand.attempts, ∀ output, (world.event attempt).output = .ok output →
    Text.CutTo output cap result.content

theorem settled_shows {errand : Errand σ} {result : Message}
    (settled : errand.Settled world setup result) :
    errand.Shows world setup.toolOutputCap result := by
  intro attempt member output succeeded
  rw [Option.some.inj (walked_output settled.walked attempt member output succeeded)]
  exact Text.truncate_cut output setup.toolOutputCap

-- The results show the outputs of the tools, and no output is left without one.
structure ShowsOutputs (world : World σ) (cap : Nat) (results : List Message)
    (errands : List (Errand σ)) (left : List (Moment σ)) : Prop where
  shown : List.Forall₂ (Errand.Shows world cap) errands results
  all : ∀ attempt ∈ left, ∀ output, (world.event attempt).output ≠ .ok output

theorem shows_each_output {cap : Nat} {results : List Message} {errands : List (Errand σ)}
    {left : List (Moment σ)} (shows : ShowsOutputs world cap results errands left)
    (attempt : Moment σ) (member : attempt ∈ errands.flatMap Errand.attempts ++ left)
    (output : String) (succeeded : (world.event attempt).output = .ok output) :
    ∃ result ∈ results, Text.CutTo output cap result.content := by
  rcases List.mem_append.mp member with answered | without
  · obtain ⟨errand, among, inside⟩ := List.mem_flatMap.mp answered
    obtain ⟨place, bound, rfl⟩ := List.getElem_of_mem among
    have within : place < results.length := shows.shown.length_eq ▸ bound
    exact ⟨results[place], List.getElem_mem within,
      shows.shown.get bound within attempt inside output succeeded⟩
  · exact absurd succeeded (shows.all attempt without output)

theorem loop_shows_outputs (loop : ConversationLoop) (systemPrompt : String)
    (history : List Message) (state : σ) (configured : loop.setup systemPrompt = .ok setup) :
    ∃ appended errands left,
      (world.run (loop.run systemPrompt history) state).value.history = history ++ appended ∧
        Accounts world setup (requested (world.run (loop.run systemPrompt history) state).trace)
          (world.attempts (loop.run systemPrompt history) state)
          (appended.filter Message.isTool) errands left ∧
        ShowsOutputs world loop.toolOutputCap (appended.filter Message.isTool) errands left := by
  obtain ⟨appended, errands, left, kept, accounts, abandoned⟩ :=
    loop_accounts world setup loop systemPrompt history state configured
  refine ⟨appended, errands, left, kept, accounts, ?_, abandoned_no_output abandoned⟩
  rw [← (configured_setup loop systemPrompt setup configured).toolOutputCap]
  exact accounts.settled.imp fun _ _ => settled_shows

def NoArguments (call : ToolCall) : Prop :=
  Text.trim call.arguments = "" ∨ Text.trim call.arguments = "\x7b\x7d"

theorem describe_nothing (call : ToolCall) (nothing : NoArguments call) :
    describeToolCall call = "run " ++ call.name := by
  rw [describeToolCall]
  exact if_pos (by simpa [NoArguments] using nothing)

theorem describe_preview (call : ToolCall) (arguments : ¬ NoArguments call) :
    ∃ preview, Text.CutTo (Text.trim call.arguments) descriptionLimit preview ∧
      describeToolCall call = "run " ++ call.name ++ " with " ++ preview ++
        if preview = Text.trim call.arguments then "" else "…" := by
  refine ⟨_, Text.truncate_cut _ _, ?_⟩
  rw [describeToolCall]
  simp only [Text.truncate_shorter_iff]
  rw [if_neg (by simpa [NoArguments] using arguments), ite_not]

-- The walk back from the cap arrives, and what stands before it is the longest beginning that fits.
-- So is what a run appends of an output, and what a description shows of the arguments.
theorem output_cut_between_characters :
    (∀ text cap,
      (∃ place, Text.walkBack text cap = some place ∧ place.offset.byteIdx ≤ cap) ∧
        (∀ part, Text.CutTo text cap part ↔ part = Text.truncate text cap) ∧
        Text.truncate (Text.truncate text cap) cap = Text.truncate text cap) ∧
      (∀ {σ : Type} (world : World σ) (loop : ConversationLoop) (systemPrompt : String)
        (history : List Message) (state : σ) (setup : LoopSetup),
        loop.setup systemPrompt = .ok setup →
          ∃ appended errands left,
            (world.run (loop.run systemPrompt history) state).value.history =
                history ++ appended ∧
              Accounts world setup
                (requested (world.run (loop.run systemPrompt history) state).trace)
                (world.attempts (loop.run systemPrompt history) state)
                (appended.filter Message.isTool) errands left ∧
              ShowsOutputs world loop.toolOutputCap (appended.filter Message.isTool) errands
                left) ∧
      ∀ call, (NoArguments call → describeToolCall call = "run " ++ call.name) ∧
        (¬ NoArguments call →
          ∃ preview, Text.CutTo (Text.trim call.arguments) descriptionLimit preview ∧
            describeToolCall call = "run " ++ call.name ++ " with " ++ preview ++
              if preview = Text.trim call.arguments then "" else "…") := by
  refine ⟨?_, ?_, fun call => ⟨describe_nothing call, describe_preview call⟩⟩
  · intro text cap
    obtain ⟨place, arrived⟩ := Option.isSome_iff_exists.mp (Text.walk_arrives text cap)
    exact ⟨⟨place, arrived, (Text.walk_last text cap place arrived).1⟩,
      fun part => Text.cut_iff text part cap, Text.truncate_twice text cap⟩
  · exact fun world loop systemPrompt history state setup =>
      loop_shows_outputs loop systemPrompt history state

def tightLoop : ConversationLoop := { reader.settings.agent with toolOutputCap := 3 }

def oneCall : Script where
  replies := [.ok (.ofToolCalls [⟨"a", "read", ""⟩]), .ok (.ofText "Read.")]

theorem long_output_cut :
    (∃ setup, tightLoop.setup "" = .ok setup) ∧
      (∃ result ∈ (scripted.run (tightLoop.run "" []) oneCall).value.history,
        result.isTool = true ∧ Text.LongestWithin "done" 3 result.content) ∧
      Text.LongestWithin "héllo" 2 "h" := by
  obtain ⟨cuts, runs, _⟩ := output_cut_between_characters
  have cut : Text.CutTo "héllo" 2 "h" := ((cuts "héllo" 2).2.1 "h").mpr (by decide)
  refine ⟨⟨_, rfl⟩, ?_, (cut.cut (by decide) (by decide)).1⟩
  obtain ⟨appended, errands, left, kept, accounts, shows⟩ :=
    runs scripted tightLoop "" [] oneCall _ rfl
  obtain ⟨asked, executed, attempts, succeeded⟩ : ∃ asked executed,
      scripted.attempts (tightLoop.run "" []) oneCall = [asked, executed] ∧
        (scripted.event executed).output = .ok "done" := ⟨_, _, rfl, rfl⟩
  obtain ⟨result, member, cut⟩ := shows_each_output shows executed
    (accounts.attempted ▸ by simp [attempts]) "done" succeeded
  obtain ⟨among, tool⟩ := List.mem_filter.mp member
  exact ⟨result, kept ▸ among, tool, (cut.cut (by decide) (by decide)).1⟩

end Dialogue
