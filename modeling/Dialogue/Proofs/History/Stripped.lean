import Dialogue.Proofs.History.Paired

set_option autoImplicit false

namespace Dialogue

def Remains (message kept : Message) : Prop :=
  ∃ calls : List ToolCall, calls.Sublist message.toolCalls ∧
    kept = { message with toolCalls := calls }

theorem remains_self (message : Message) : Remains message message :=
  ⟨message.toolCalls, List.Sublist.refl _, rfl⟩

theorem remains_summary (message kept : Message) (remains : Remains message kept) :
    kept.isSummary = message.isSummary := by
  obtain ⟨calls, _, rfl⟩ := remains
  rfl

theorem first_calls_sublist (seen : List String) (calls : List ToolCall) :
    (firstCalls seen calls).Sublist calls := by
  induction calls generalizing seen with
  | nil => exact List.Sublist.refl _
  | cons call rest ih =>
      rw [firstCalls]
      split
      · exact (ih seen).cons call
      · exact (ih (call.id :: seen)).cons_cons call

theorem Block.answered_calls_sublist (block : Block) (assistant : block.head.role = .assistant) :
    block.answeredCalls.Sublist block.head.toolCalls := by
  rw [answeredCalls, issued_calls_of_assistant _ assistant]
  exact List.filter_sublist.trans (first_calls_sublist [] _)

theorem repaired_head (block : Block) : Remains block.head block.repair.block.head := by
  by_cases assistant : block.head.role = .assistant
  · rw [Block.repair_of_assistant block assistant]
    exact ⟨block.answeredCalls, block.answered_calls_sublist assistant, rfl⟩
  · rw [Block.repair_of_other block assistant]
    exact remains_self block.head

theorem repaired_results (block : Block) :
    ∀ result ∈ block.repair.block.results, result ∈ block.results := by
  by_cases assistant : block.head.role = .assistant
  · rw [Block.repair_of_assistant block assistant]
    intro result member
    obtain ⟨_, _, found, _⟩ := (Block.mem_grouped_results block result).mp member
    exact found
  · rw [Block.repair_of_other block assistant]
    simp

theorem repaired_source (block : Block) :
    ∀ kept ∈ block.repair.block.messages, ∃ message ∈ block.messages, Remains message kept := by
  rw [Block.messages, List.forall_mem_cons]
  refine ⟨⟨block.head, List.mem_cons_self, repaired_head block⟩, ?_⟩
  exact fun kept member => ⟨kept, List.mem_cons_of_mem _ (repaired_results block kept member),
    remains_self kept⟩

theorem sanitized_messages (messages : List Message) :
    (sanitize messages).messages =
      (Blocks.ofMessages messages).blocks.flatMap fun block => block.repair.block.messages := by
  rw [sanitize]
  simp only [List.flatMap_map]

theorem sanitized_source (messages : List Message) :
    ∀ kept ∈ (sanitize messages).messages, ∃ message ∈ messages, Remains message kept := by
  intro kept member
  rw [sanitized_messages] at member
  obtain ⟨block, found, inBlock⟩ := List.mem_flatMap.mp member
  obtain ⟨message, source, remains⟩ := repaired_source block kept inBlock
  refine ⟨message, ?_, remains⟩
  rw [← Blocks.to_messages_of_messages messages, Blocks.toMessages]
  exact List.mem_append_right _ (List.mem_flatMap.mpr ⟨block, found, source⟩)

theorem sanitized_keeps (messages : List Message) :
    ∀ message ∈ messages, message.isTool = false →
      ∃ kept ∈ (sanitize messages).messages, Remains message kept := by
  intro message member untool
  obtain ⟨before, after, rfl⟩ := List.append_of_mem member
  have heads := Blocks.block_at before after message untool
  rw [sanitized_messages]
  exact ⟨_, List.mem_flatMap.mpr ⟨_, heads, List.mem_cons_self⟩, repaired_head ⟨message, _⟩⟩

theorem mem_tail_of_split {before after : List Message} {head : Message} {messages : List Message}
    (split : before ++ head :: after = messages) : ∀ message ∈ after, message ∈ messages.tail := by
  intro message member
  rw [← split]
  cases before with
  | nil => exact member
  | cons first rest => exact List.mem_append_right _ (List.mem_cons_of_mem _ member)

theorem sanitized_tail (messages : List Message) :
    ∀ kept ∈ (sanitize messages).messages.tail, ∃ message ∈ messages.tail, Remains message kept := by
  have whole := Blocks.to_messages_of_messages messages
  rw [Blocks.toMessages] at whole
  rw [sanitized_messages]
  cases split : (Blocks.ofMessages messages).blocks with
  | nil => simp
  | cons block rest =>
      rw [split, List.flatMap_cons, List.cons_append] at whole
      rw [List.flatMap_cons, Block.messages, List.cons_append, List.tail_cons]
      intro kept member
      rcases List.mem_append.mp member with result | later
      · exact ⟨kept, mem_tail_of_split whole kept
          (List.mem_append_left _ (repaired_results block kept result)), remains_self kept⟩
      · obtain ⟨other, found, inBlock⟩ := List.mem_flatMap.mp later
        obtain ⟨message, source, remains⟩ := repaired_source other kept inBlock
        exact ⟨message, mem_tail_of_split whole message
          (List.mem_append_right _ (List.mem_flatMap.mpr ⟨other, found, source⟩)), remains⟩

-- Histories are repaired apart where the second one starts with no result.
theorem sanitize_append (first second : List Message)
    (closed : (Blocks.ofMessages second).orphans = []) :
    sanitize (first ++ second) =
      ⟨(sanitize first).messages ++ (sanitize second).messages,
        (sanitize first).changed || (sanitize second).changed⟩ := by
  simp [sanitize, Blocks.of_messages_append first second closed, closed, Bool.or_assoc]

theorem sanitize_block (block : Block) (formed : block.Formed) :
    sanitize block.messages = ⟨block.repair.block.messages, block.repair.changed⟩ := by
  simp [sanitize, Blocks.of_messages_block block formed]

theorem matched_call (calls : List ToolCall) (results : List Message)
    (answered : List.Forall₂ ResultOf calls results) :
    ∀ result ∈ results, ∃ call ∈ calls, ResultOf call result := by
  induction answered with
  | nil => simp
  | cons first rest ih =>
      refine List.forall_mem_cons.mpr ⟨⟨_, List.mem_cons_self, first⟩, ?_⟩
      intro result member
      obtain ⟨call, found, matched⟩ := ih result member
      exact ⟨call, List.mem_cons_of_mem _ found, matched⟩

theorem answered_of_distinct (block : Block) (assistant : block.head.role = .assistant)
    (distinct : (block.head.toolCalls.map ToolCall.id).Nodup) :
    block.answeredCalls =
      block.head.toolCalls.filter fun call => block.results.any call.answeredBy := by
  rw [Block.answeredCalls, Block.issued_calls_of_assistant _ assistant,
    first_calls_of_distinct _ _ distinct (by simp)]

-- Only calls that come first have a result, so the others are not among those that are answered.
theorem answered_calls_cut (calls : List ToolCall) (results : List Message)
    (distinct : (calls.map ToolCall.id).Nodup)
    (answered : List.Forall₂ ResultOf (calls.take results.length) results) :
    (calls.filter fun call => results.any call.answeredBy) =
      (calls.take results.length).filter fun call => results.any call.answeredBy := by
  have unanswered : ∀ call ∈ calls.drop results.length, ¬ results.any call.answeredBy = true := by
    intro call late some
    obtain ⟨result, member, answers⟩ := List.any_eq_true.mp some
    obtain ⟨other, early, resultOf⟩ := matched_call _ _ answered result member
    have same : other.id = call.id :=
      Option.some.inj (resultOf.answers.symm.trans ((answered_by_iff call result).mp answers).1)
    rw [← List.take_append_drop results.length calls, List.map_append] at distinct
    exact (List.nodup_append.mp distinct).2.2 _ (List.mem_map_of_mem early) _
      (List.mem_map_of_mem late) same
  conv_lhs => rw [← List.take_append_drop results.length calls, List.filter_append,
    List.filter_eq_nil_iff.mpr unanswered, List.append_nil]

theorem sanitize_cut (issuer kept : Message) (results : List Message)
    (only : kept = { issuer with toolCalls := issuer.toolCalls.take results.length })
    (assistant : issuer.role = .assistant)
    (identified : ∀ call ∈ issuer.toolCalls, Text.isBlank call.id = false)
    (distinct : (issuer.toolCalls.map ToolCall.id).Nodup)
    (answered : List.Forall₂ ResultOf (issuer.toolCalls.take results.length) results)
    (short : results.length < issuer.toolCalls.length) :
    sanitize (issuer :: results) = ⟨kept :: results, true⟩ := by
  have tools : ∀ result ∈ results, result.isTool = true := by
    intro result member
    obtain ⟨_, _, matched⟩ := matched_call _ _ answered result member
    exact matched.tool
  have formed : ∀ head : Message, head.role = .assistant → (⟨head, results⟩ : Block).Formed :=
    fun head untool => ⟨by simp [Message.isTool, untool], tools⟩
  have calls : kept.toolCalls = issuer.toolCalls.take results.length := by rw [only]
  have role : kept.role = .assistant := by rw [only, assistant]
  have first : kept.toolCalls.Sublist issuer.toolCalls := calls ▸ List.take_sublist _ _
  have keptDistinct := distinct.sublist (first.map ToolCall.id)
  have valid := valid_round kept results role
    (fun call member => identified call (first.subset member)) keptDistinct (calls ▸ answered)
  have split : Blocks.ofMessages (kept :: results) = ⟨[], [⟨kept, results⟩]⟩ :=
    Blocks.of_messages_block ⟨kept, results⟩ (formed kept role)
  have unchanged := Block.repair_of_valid ⟨kept, results⟩ (valid.blocksValid _ (by simp [split]))
  rw [Block.repair_of_assistant _ role] at unchanged
  have block := congrArg (fun repair => repair.block) unchanged
  have remaining : Block.answeredCalls ⟨kept, results⟩ = kept.toolCalls :=
    congrArg (fun block => block.head.toolCalls) block
  have grouped : Block.groupedResults ⟨kept, results⟩ = results :=
    congrArg (fun block => block.results) block
  have same : Block.answeredCalls ⟨issuer, results⟩ = Block.answeredCalls ⟨kept, results⟩ := by
    rw [answered_of_distinct _ assistant distinct, answered_of_distinct _ role keptDistinct]
    dsimp only
    rw [calls]
    exact answered_calls_cut _ _ distinct answered
  have regrouped : Block.groupedResults ⟨issuer, results⟩ = results := by
    rw [Block.groupedResults, same]
    exact grouped
  have fewer : kept.toolCalls.length ≠ issuer.toolCalls.length := by
    rw [calls, List.length_take]
    omega
  have repaired := sanitize_block ⟨issuer, results⟩ (formed issuer assistant)
  rw [Block.repair_of_assistant _ assistant, regrouped, same, remaining] at repaired
  change sanitize (issuer :: results) = _ at repaired
  have head : ({ issuer with toolCalls := kept.toolCalls } : Message) = kept := by rw [only]
  rw [repaired]
  simp [Block.messages, fewer, head]

end Dialogue
