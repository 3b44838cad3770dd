import Dialogue.History.Estimate
import Dialogue.Proofs.History.Changed

set_option autoImplicit false

namespace Dialogue

theorem estimate_mono (systemPrompt : String) (first second : List Message)
    (less : Text.total Message.chars first ≤ Text.total Message.chars second) :
    estimateTokens systemPrompt first ≤ estimateTokens systemPrompt second :=
  Nat.div_le_div_right (Nat.add_le_add_left less _)

theorem remains_chars (message kept : Message) (remains : Remains message kept) :
    kept.chars ≤ message.chars := by
  obtain ⟨calls, fewer, rfl⟩ := remains
  exact Nat.add_le_add_left (Text.total_sublist ToolCall.chars calls message.toolCalls fewer) _

namespace Block

theorem repaired_subperm (block : Block) : block.repair.block.results.Subperm block.results := by
  by_cases assistant : block.head.role = .assistant
  · rw [repair_of_assistant block assistant]
    exact block.grouped_results_perm.subperm.trans List.filter_sublist.subperm
  · rw [repair_of_other block assistant]
    exact List.nil_subperm

variable (size : Message → Nat)
  (lighter : ∀ message kept, Remains message kept → size kept ≤ size message)

include lighter

theorem repair_total (block : Block) :
    Text.total size block.repair.block.messages ≤ Text.total size block.messages :=
  Nat.add_le_add (lighter _ _ (repaired_head block))
    (Text.total_subperm size _ _ block.repaired_subperm)

end Block

theorem sanitize_total (size : Message → Nat)
    (lighter : ∀ message kept, Remains message kept → size kept ≤ size message)
    (messages : List Message) :
    Text.total size (sanitize messages).messages ≤ Text.total size messages := by
  have whole : Text.total size messages = Text.total size (Blocks.ofMessages messages).orphans +
      Text.total size ((Blocks.ofMessages messages).blocks.flatMap Block.messages) := by
    conv_lhs => rw [← Blocks.to_messages_of_messages messages, Blocks.toMessages, Text.total_append]
    rfl
  have repaired := Text.total_flat_map_le size (fun block => block.repair.block.messages)
    Block.messages (Block.repair_total size lighter) (Blocks.ofMessages messages).blocks
  rw [sanitized_messages, whole]
  exact Nat.le_add_left_of_le repaired

theorem sanitize_estimate (systemPrompt : String) (messages : List Message) :
    estimateTokens systemPrompt (sanitize messages).messages ≤
      estimateTokens systemPrompt messages :=
  estimate_mono systemPrompt _ _ (sanitize_total Message.chars remains_chars messages)

end Dialogue
