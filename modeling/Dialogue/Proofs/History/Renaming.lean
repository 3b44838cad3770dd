import Dialogue.Agent.CallIds
import Dialogue.Context.Compact
import Dialogue.Proofs.History.Sanitized
import Dialogue.Proofs.Text.Total
import Mathlib.Logic.Equiv.Basic

set_option autoImplicit false

namespace Dialogue

-- IDs count by whether they are blank and by their length.
structure Renaming where
  rename : String → String
  injective : Function.Injective rename
  blank : ∀ id, Text.isBlank (rename id) = Text.isBlank id
  bytes : ∀ id, Text.bytes (rename id) = Text.bytes id

def Renaming.same : Renaming := ⟨id, Function.injective_id, fun _ => rfl, fun _ => rfl⟩

def Renaming.swap (first second : String) (blank : Text.isBlank first = Text.isBlank second)
    (bytes : Text.bytes first = Text.bytes second) : Renaming :=
  ⟨Equiv.swap first second, (Equiv.swap first second).injective, Equiv.apply_swap_eq_self blank,
    Equiv.apply_swap_eq_self bytes⟩

variable (names : Renaming)

def ToolCall.renamed (call : ToolCall) : ToolCall := { call with id := names.rename call.id }

def Message.bare (message : Message) : Message :=
  { message with
    id := ""
    timestamp := .epoch
    toolCallId := message.toolCallId.map names.rename
    toolCalls := message.toolCalls.map (ToolCall.renamed names) }

def Block.bare (block : Block) : Block :=
  ⟨block.head.bare names, block.results.map (Message.bare names)⟩

def Alike (first second : List Message) : Prop :=
  first.map (Message.bare names) = second.map (Message.bare .same)

theorem renamed_same (calls : List ToolCall) : calls.map (ToolCall.renamed .same) = calls :=
  List.map_id calls

theorem bare_issued (message : Message) :
    (message.bare names).issuedCalls = message.issuedCalls.map (ToolCall.renamed names) := by
  by_cases assistant : message.role = .assistant
  · rw [Message.issuedCalls, Message.issuedCalls, if_pos assistant]
    exact if_pos assistant
  · rw [Message.issuedCalls, Message.issuedCalls, if_neg assistant]
    exact if_neg assistant

theorem bare_answered (message : Message) :
    (message.bare names).answeredCallId = message.answeredCallId.map names.rename := by
  rw [Message.answeredCallId, Message.answeredCallId, Message.bare]
  cases message.toolCallId with
  | none => rfl
  | some id => cases blank : Text.isBlank id <;> simp [Option.filter, names.blank, blank]

theorem renamed_answered_by (call : ToolCall) (message : Message) :
    (call.renamed names).answeredBy (message.bare names) = call.answeredBy message := by
  rw [ToolCall.answeredBy, ToolCall.answeredBy, bare_answered]
  cases message.answeredCallId with
  | none => simp
  | some id => simp [ToolCall.renamed, names.injective.eq_iff]

theorem renamed_seen (seen : List String) (call : ToolCall) :
    (call.renamed names).id ∈ seen.map names.rename ↔ call.id ∈ seen :=
  List.mem_map_of_injective names.injective

theorem first_calls_renamed (seen : List String) (calls : List ToolCall) :
    firstCalls (seen.map names.rename) (calls.map (ToolCall.renamed names)) =
      (firstCalls seen calls).map (ToolCall.renamed names) := by
  induction calls generalizing seen with
  | nil => rfl
  | cons call rest ih =>
      rw [List.map_cons, firstCalls, firstCalls]
      by_cases known : call.id ∈ seen
      · rw [if_pos known, if_pos ((renamed_seen names seen call).mpr known), ih]
      · rw [if_neg known, if_neg fun also => known ((renamed_seen names seen call).mp also),
          List.map_cons, ← ih, List.map_cons]
        rfl

theorem filter_bare (call : ToolCall) (results : List Message) :
    (results.map (Message.bare names)).filter (call.renamed names).answeredBy =
      (results.filter call.answeredBy).map (Message.bare names) := by
  rw [List.filter_map]
  refine congrArg _ (List.filter_congr fun result _ => ?_)
  exact renamed_answered_by names call result

theorem any_bare (call : ToolCall) (results : List Message) :
    (results.map (Message.bare names)).any (call.renamed names).answeredBy =
      results.any call.answeredBy := by
  rw [List.any_map]
  exact congrArg _ (funext fun result => renamed_answered_by names call result)

namespace Block

theorem answered_calls_bare (block : Block) :
    (block.bare names).answeredCalls = block.answeredCalls.map (ToolCall.renamed names) := by
  rw [answeredCalls, answeredCalls, Block.bare, bare_issued]
  have first := first_calls_renamed names [] block.head.issuedCalls
  rw [List.map_nil] at first
  rw [first, List.filter_map]
  exact congrArg _ (List.filter_congr fun call _ => any_bare names call block.results)

theorem grouped_results_bare (block : Block) :
    (block.bare names).groupedResults = block.groupedResults.map (Message.bare names) := by
  rw [groupedResults, groupedResults, answered_calls_bare, List.flatMap_map, List.map_flatMap]
  exact List.flatMap_congr fun call _ => filter_bare names call block.results

theorem stray_bare (block : Block) (result : Message) :
    (block.bare names).isStray (result.bare names) = block.isStray result := by
  rw [isStray, isStray, Block.bare, bare_issued, List.any_map]
  refine congrArg _ (congrArg _ (funext fun call => ?_))
  exact renamed_answered_by names call result

theorem repair_bare (block : Block) :
    (block.bare names).repair = ⟨block.repair.block.bare names, block.repair.changed⟩ := by
  by_cases assistant : block.head.role = .assistant
  · rw [repair_of_assistant block assistant, repair_of_assistant (block.bare names) assistant,
      answered_calls_bare, grouped_results_bare]
    refine congrArg₂ Repair.mk rfl (congrArg₂ _ ?_ ?_)
    · rw [Block.bare, List.any_map]
      exact congrArg _ (funext fun result => stray_bare names block result)
    · simp [Block.bare, Message.bare]
  · rw [repair_of_other block assistant, repair_of_other (block.bare names) assistant]
    simp [Block.bare]

end Block

theorem of_messages_bare (messages : List Message) :
    Blocks.ofMessages (messages.map (Message.bare names)) =
      ⟨(Blocks.ofMessages messages).orphans.map (Message.bare names),
        (Blocks.ofMessages messages).blocks.map (Block.bare names)⟩ := by
  induction messages with
  | nil => rfl
  | cons message rest ih =>
      rw [List.map_cons]
      cases tool : message.isTool with
      | true => rw [Blocks.of_messages_tool message rest tool,
          Blocks.of_messages_tool (message.bare names) _ tool, ih, List.map_cons]
      | false => rw [Blocks.of_messages_head message rest tool,
          Blocks.of_messages_head (message.bare names) _ tool, ih, List.map_cons, List.map_nil,
          Block.bare]

theorem sanitize_bare (messages : List Message) :
    sanitize (messages.map (Message.bare names)) =
      ⟨(sanitize messages).messages.map (Message.bare names), (sanitize messages).changed⟩ := by
  have repairs : ((Blocks.ofMessages messages).blocks.map (Block.bare names)).map Block.repair =
      ((Blocks.ofMessages messages).blocks.map Block.repair).map fun repair =>
        ⟨repair.block.bare names, repair.changed⟩ := by
    rw [List.map_map, List.map_map]
    exact List.map_congr_left fun block _ => block.repair_bare names
  rw [sanitize, sanitize, of_messages_bare]
  simp only [repairs]
  refine congrArg₂ Sanitized.mk ?_ ?_
  · rw [List.flatMap_map, List.map_flatMap]
    rfl
  · rw [List.any_map, List.isEmpty_map]
    rfl

theorem results_before_bare (messages : List Message) (start : Nat) :
    resultsBefore (messages.map (Message.bare names)) start = resultsBefore messages start := by
  rw [resultsBefore, resultsBefore, ← List.map_take, ← List.map_reverse, List.takeWhile_map,
    List.length_map]
  rfl

theorem results_from_bare (messages : List Message) (start : Nat) :
    resultsFrom (messages.map (Message.bare names)) start = resultsFrom messages start := by
  rw [resultsFrom, resultsFrom, ← List.map_drop, List.takeWhile_map, List.length_map]
  rfl

theorem issuer_before_bare (messages : List Message) (start : Nat) :
    issuerBefore? (messages.map (Message.bare names)) start =
      (issuerBefore? messages start).map (Message.bare names) := by
  rw [issuerBefore?, issuerBefore?, ← List.map_take, ← List.map_reverse, List.dropWhile_map,
    List.head?_map]
  rfl

theorem has_tool_calls_bare (message : Message) :
    (message.bare names).hasToolCalls = message.hasToolCalls := by
  rw [Message.hasToolCalls, Message.hasToolCalls, bare_issued, List.isEmpty_map]

theorem window_start_bare (messages : List Message) (count : Nat) :
    recentWindowStart (messages.map (Message.bare names)) count =
      recentWindowStart messages count := by
  have start : countStart (messages.map (Message.bare names)) count = countStart messages count := by
    rw [countStart, countStart, List.length_map]
  rw [recentWindowStart, recentWindowStart, start, results_from_bare, issuer_before_bare,
    results_before_bare]
  cases issuerBefore? messages (countStart messages count) with
  | none => rfl
  | some issuer =>
      rw [Option.map_some]
      dsimp only
      rw [has_tool_calls_bare]

theorem chars_bare (message : Message) : (message.bare names).chars = message.chars := by
  have calls := Text.total_map ToolCall.chars (ToolCall.renamed names)
    (fun call => by rw [ToolCall.chars, ToolCall.chars, ToolCall.renamed, names.bytes])
    message.toolCalls
  rw [Message.chars, Message.chars, Message.bare]
  dsimp only
  rw [calls]
  cases message.toolCallId with
  | none => rfl
  | some id => rw [Option.map_some, Option.map_some, Option.map_some, names.bytes]

theorem cut_bare (compactor : Compactor) (systemPrompt : String) (messages : List Message) :
    compactor.cut? systemPrompt (messages.map (Message.bare names)) =
      compactor.cut? systemPrompt messages := by
  have estimate : estimateTokens systemPrompt (messages.map (Message.bare names)) =
      estimateTokens systemPrompt messages := by
    rw [estimateTokens, estimateTokens, Text.total_map _ _ (chars_bare names)]
  rw [Compactor.cut?, Compactor.cut?, estimate, window_start_bare]

theorem assign_renamed (supply : Nat → String) (used : Nat) (seen : List String)
    (calls : List ToolCall) :
    assignFrom (names.rename ∘ supply) used (seen.map names.rename)
        (calls.map (ToolCall.renamed names)) =
      (assignFrom supply used seen calls).map fun assigned =>
        ⟨assigned.call.renamed names, assigned.replaced⟩ := by
  induction calls generalizing used seen with
  | nil => rfl
  | cons call rest ih =>
      have unusable : (Text.isBlank (call.renamed names).id = true ∨
          (call.renamed names).id ∈ seen.map names.rename) ↔
            (Text.isBlank call.id = true ∨ call.id ∈ seen) := by
        rw [renamed_seen, ToolCall.renamed, names.blank]
      rw [List.map_cons, assignFrom, assignFrom]
      by_cases blank : Text.isBlank call.id = true ∨ call.id ∈ seen
      · rw [if_pos blank, if_pos (unusable.mpr blank), List.map_cons, ← ih, List.map_cons]
        rfl
      · rw [if_neg blank, if_neg fun also => blank (unusable.mp also), List.map_cons, ← ih,
          List.map_cons]
        rfl

section Histories

variable {names}
variable {first second : List Message}

theorem alike_append {more alsoMore : List Message} (alike : Alike names first second)
    (also : Alike names more alsoMore) : Alike names (first ++ more) (second ++ alsoMore) := by
  rw [Alike, List.map_append, List.map_append, alike, also]

theorem alike_take (alike : Alike names first second) (start : Nat) :
    Alike names (first.take start) (second.take start) := by
  rw [Alike, List.map_take, List.map_take, alike]

theorem alike_drop (alike : Alike names first second) (start : Nat) :
    Alike names (first.drop start) (second.drop start) := by
  rw [Alike, List.map_drop, List.map_drop, alike]

theorem alike_sanitized (alike : Alike names first second) :
    Alike names (sanitize first).messages (sanitize second).messages ∧
      (sanitize first).changed = (sanitize second).changed := by
  have same := congrArg sanitize alike
  rw [sanitize_bare, sanitize_bare] at same
  exact Sanitized.mk.inj same

theorem alike_cut (alike : Alike names first second) (compactor : Compactor)
    (systemPrompt : String) :
    compactor.cut? systemPrompt first = compactor.cut? systemPrompt second := by
  rw [← cut_bare names, ← cut_bare .same compactor systemPrompt second, alike]

theorem alike_issuing (stamp also : Stamp) (content : String) (calls : List ToolCall) :
    Alike names [.withToolCalls stamp content calls]
      [.withToolCalls also content (calls.map (ToolCall.renamed names))] := by
  have renamed := renamed_same (calls.map (ToolCall.renamed names))
  simp only [Alike, List.map_cons, List.map_nil, Message.bare, Message.withToolCalls,
    Message.assistant, renamed, Option.map_none]

theorem alike_empty (alike : Alike names first second) : first.isEmpty = second.isEmpty := by
  have same := congrArg List.isEmpty alike
  rwa [List.isEmpty_map, List.isEmpty_map] at same

end Histories

end Dialogue
