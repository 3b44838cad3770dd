import Dialogue.Proofs.History.Protocol
import Mathlib.Data.List.Forall2

set_option autoImplicit false

namespace Dialogue

structure Block.Formed (block : Block) : Prop where
  head : block.head.isTool = false
  results : ∀ result ∈ block.results, result.isTool = true

namespace Blocks

theorem of_messages_tool (message : Message) (rest : List Message)
    (tool : message.isTool = true) :
    ofMessages (message :: rest) =
      ⟨message :: (ofMessages rest).orphans, (ofMessages rest).blocks⟩ := by
  rw [ofMessages, if_pos tool]

theorem of_messages_head (message : Message) (rest : List Message)
    (head : message.isTool = false) :
    ofMessages (message :: rest) =
      ⟨[], ⟨message, (ofMessages rest).orphans⟩ :: (ofMessages rest).blocks⟩ := by
  rw [ofMessages, if_neg (by simp [head])]

theorem orphans_are_results (messages : List Message) :
    ∀ result ∈ (ofMessages messages).orphans, result.isTool = true := by
  induction messages with
  | nil => simp [ofMessages]
  | cons message rest ih =>
      cases tool : message.isTool with
      | true =>
          rw [of_messages_tool message rest tool]
          simpa [tool] using ih
      | false => simp [of_messages_head message rest tool]

theorem blocks_formed (messages : List Message) :
    ∀ block ∈ (ofMessages messages).blocks, block.Formed := by
  induction messages with
  | nil => simp [ofMessages]
  | cons message rest ih =>
      cases tool : message.isTool with
      | true =>
          rw [of_messages_tool message rest tool]
          exact ih
      | false =>
          rw [of_messages_head message rest tool]
          intro block member
          rcases List.mem_cons.mp member with first | later
          · subst first
            exact ⟨tool, orphans_are_results rest⟩
          · exact ih block later

theorem of_messages_append (first second : List Message)
    (closed : (ofMessages second).orphans = []) :
    ofMessages (first ++ second) =
      ⟨(ofMessages first).orphans, (ofMessages first).blocks ++ (ofMessages second).blocks⟩ := by
  induction first with
  | nil =>
      rw [List.nil_append, ofMessages, List.nil_append, ← closed]
  | cons message rest ih =>
      rw [List.cons_append]
      cases tool : message.isTool with
      | true => rw [of_messages_tool _ _ tool, of_messages_tool _ _ tool, ih]
      | false => rw [of_messages_head _ _ tool, of_messages_head _ _ tool, ih, List.cons_append]

theorem of_messages_results (results : List Message)
    (tools : ∀ result ∈ results, result.isTool = true) : ofMessages results = ⟨results, []⟩ := by
  induction results with
  | nil => rfl
  | cons result rest ih =>
      rw [of_messages_tool _ _ (tools result List.mem_cons_self),
        ih fun later member => tools later (List.mem_cons_of_mem _ member)]

theorem of_messages_block (block : Block) (formed : block.Formed) :
    ofMessages block.messages = ⟨[], [block]⟩ := by
  rw [Block.messages, of_messages_head _ _ formed.head, of_messages_results _ formed.results]

theorem of_messages_blocks (blocks : List Block) (formed : ∀ block ∈ blocks, block.Formed) :
    ofMessages (blocks.flatMap Block.messages) = ⟨[], blocks⟩ := by
  induction blocks with
  | nil => rfl
  | cons block rest ih =>
      have later := ih fun other member => formed other (List.mem_cons_of_mem _ member)
      rw [List.flatMap_cons, of_messages_append _ _ (by rw [later]), later,
        of_messages_block block (formed block List.mem_cons_self), List.singleton_append]

end Blocks

theorem repaired_formed (block : Block) (formed : block.Formed) : block.repair.block.Formed := by
  by_cases assistant : block.head.role = .assistant
  · rw [Block.repair_of_assistant block assistant]
    refine ⟨formed.head, ?_⟩
    intro result member
    obtain ⟨_, _, found, _⟩ := (Block.mem_grouped_results block result).mp member
    exact formed.results result found
  · rw [Block.repair_of_other block assistant]
    exact ⟨formed.head, by simp⟩

theorem sanitized_blocks (messages : List Message) :
    Blocks.ofMessages (sanitize messages).messages =
      ⟨[], (Blocks.ofMessages messages).blocks.map fun block => block.repair.block⟩ := by
  have formed : ∀ block ∈ (Blocks.ofMessages messages).blocks.map fun block => block.repair.block,
      block.Formed := by
    intro block member
    obtain ⟨original, found, rfl⟩ := List.mem_map.mp member
    exact repaired_formed original (Blocks.blocks_formed messages original found)
  rw [← Blocks.of_messages_blocks _ formed, sanitize]
  simp only [List.flatMap_map]

theorem sanitized_valid (messages : List Message) : ProtocolValid (sanitize messages).messages := by
  constructor
  · rw [sanitized_blocks]
  · rw [sanitized_blocks]
    intro block member
    obtain ⟨original, _, rfl⟩ := List.mem_map.mp member
    exact original.repaired_valid

theorem sanitize_of_valid (messages : List Message) (valid : ProtocolValid messages) :
    sanitize messages = ⟨messages, false⟩ := by
  have untouched : (Blocks.ofMessages messages).blocks.map Block.repair =
      (Blocks.ofMessages messages).blocks.map fun block => ⟨block, false⟩ := by
    apply List.map_congr_left
    intro block member
    exact block.repair_of_valid (valid.blocksValid block member)
  have whole := Blocks.to_messages_of_messages messages
  rw [Blocks.toMessages, valid.noOrphans, List.nil_append] at whole
  simp only [sanitize, untouched, valid.noOrphans, List.flatMap_map]
  refine congrArg₂ Sanitized.mk whole ?_
  simp

theorem protocol_valid_iff (messages : List Message) :
    ProtocolValid messages ↔ sanitize messages = ⟨messages, false⟩ := by
  constructor
  · exact sanitize_of_valid messages
  · intro unchanged
    have valid := sanitized_valid messages
    rwa [unchanged] at valid

instance (messages : List Message) : Decidable (ProtocolValid messages) :=
  decidable_of_iff _ (protocol_valid_iff messages).symm

theorem valid_empty : ProtocolValid [] := ⟨rfl, by simp [Blocks.ofMessages]⟩

theorem valid_append (first second : List Message) (firstValid : ProtocolValid first)
    (secondValid : ProtocolValid second) : ProtocolValid (first ++ second) := by
  have split := Blocks.of_messages_append first second secondValid.noOrphans
  constructor
  · rw [split]
    exact firstValid.noOrphans
  · rw [split]
    intro block member
    rcases List.mem_append.mp member with early | late
    · exact firstValid.blocksValid block early
    · exact secondValid.blocksValid block late

theorem valid_block (block : Block) (formed : block.Formed) (valid : block.Valid) :
    ProtocolValid block.messages := by
  have split := Blocks.of_messages_block block formed
  constructor
  · rw [split]
  · rw [split]
    intro other member
    rwa [List.mem_singleton.mp member]

theorem valid_plain (message : Message) (head : message.isTool = false)
    (noCalls : message.issuedCalls = []) : ProtocolValid [message] := by
  apply valid_block ⟨message, []⟩
  · exact ⟨head, by simp⟩
  · exact ⟨by simp, by simp [noCalls], by simp [noCalls], by simp [noCalls], by simp⟩

structure ResultOf (call : ToolCall) (result : Message) : Prop where
  tool : result.isTool = true
  answers : result.toolCallId = some call.id

theorem valid_round (issuer : Message) (results : List Message)
    (assistant : issuer.role = .assistant)
    (identified : ∀ call ∈ issuer.toolCalls, Text.isBlank call.id = false)
    (distinct : (issuer.toolCalls.map ToolCall.id).Nodup)
    (complete : List.Forall₂ ResultOf issuer.toolCalls results) :
    ProtocolValid (issuer :: results) := by
  have issued := Block.issued_calls_of_assistant issuer assistant
  have sizes := complete.length_eq
  have resultAt : ∀ (place : Nat) (called : place < issuer.toolCalls.length)
      (answered : place < results.length), ResultOf issuer.toolCalls[place] results[place] :=
    fun place called answered => complete.get called answered
  have answering : ∀ result ∈ results, ∃ call ∈ issuer.toolCalls, ResultOf call result := by
    intro result member
    obtain ⟨place, bound, rfl⟩ := List.getElem_of_mem member
    exact ⟨issuer.toolCalls[place], List.getElem_mem _, resultAt place (by omega) bound⟩
  have answered : ∀ call ∈ issuer.toolCalls, ∃ result ∈ results, ResultOf call result := by
    intro call member
    obtain ⟨place, bound, rfl⟩ := List.getElem_of_mem member
    exact ⟨results[place], List.getElem_mem _, resultAt place bound (by omega)⟩
  have position : ∀ (place : Nat) (bound : place < results.length),
      Block.callPosition ⟨issuer, results⟩ results[place] = place := by
    intro place bound
    simp only [Block.callPosition, issued]
    exact call_position_of_answer _ distinct place (by omega) _
      (resultAt place (by omega) bound).answers
  apply valid_block ⟨issuer, results⟩
  · refine ⟨by simp [Message.isTool, assistant], ?_⟩
    intro result member
    obtain ⟨call, _, answers⟩ := answering result member
    exact answers.tool
  · refine ⟨?_, by rwa [issued], by rwa [issued], ?_, ?_⟩
    · rw [issued]
      intro result member
      obtain ⟨call, found, answers⟩ := answering result member
      exact ⟨call, found, answers.answers⟩
    · rw [issued]
      intro call member
      obtain ⟨result, found, answers⟩ := answered call member
      exact ⟨result, found, answers.answers⟩
    · rw [List.pairwise_iff_getElem]
      intro first second firstBound secondBound less
      rw [position first firstBound, position second secondBound]
      exact Nat.le_of_lt less

end Dialogue
