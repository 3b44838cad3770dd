import Dialogue.Proofs.History.Kept
import Dialogue.Proofs.Text.Total
import Mathlib.Data.List.Perm.Basic

set_option autoImplicit false

namespace Dialogue

def bulk : List Message → Nat
  | [] => 0
  | message :: rest => message.toolCalls.length + 1 + bulk rest

theorem bulk_cons (message : Message) (rest : List Message) :
    bulk (message :: rest) = message.toolCalls.length + 1 + bulk rest := rfl

theorem bulk_total (messages : List Message) :
    bulk messages = Text.total (fun message => message.toolCalls.length + 1) messages := by
  induction messages with
  | nil => rfl
  | cons message rest ih => rw [bulk_cons, Text.total, ih]

theorem bulk_append (first second : List Message) :
    bulk (first ++ second) = bulk first + bulk second := by
  simp only [bulk_total, Text.total_append]

theorem bulk_perm (first second : List Message) (same : first.Perm second) :
    bulk first = bulk second := by
  rw [bulk_total, bulk_total, Text.total_perm _ first second same]

theorem bulk_filter (p : Message → Bool) (messages : List Message) :
    bulk (messages.filter p) + (messages.any fun message => !p message).toNat ≤ bulk messages := by
  induction messages with
  | nil => exact Nat.le_refl 0
  | cons message rest ih =>
      rw [List.any_cons, bulk_cons]
      cases kept : p message with
      | true =>
          rw [List.filter_cons_of_pos kept, bulk_cons, Bool.not_true, Bool.false_or]
          omega
      | false =>
          have one := Bool.toNat_le (!false || rest.any fun message => !p message)
          rw [List.filter_cons_of_neg (by simp [kept])]
          omega

theorem grouped_perm (calls : List ToolCall) (results : List Message)
    (distinct : (calls.map ToolCall.id).Nodup) :
    (calls.flatMap fun call => results.filter call.answeredBy).Perm
      (results.filter fun result => calls.any fun call => call.answeredBy result) := by
  induction calls with
  | nil => simp
  | cons call rest ih =>
      rw [List.map_cons, List.nodup_cons] at distinct
      have apart : ∀ result ∈ results, (rest.any fun call => call.answeredBy result) = true →
          call.answeredBy result = false := by
        intro result _ answered
        obtain ⟨other, member, answersOther⟩ := List.any_eq_true.mp answered
        rw [Bool.eq_false_iff]
        intro answers
        have same := answered_by_same answersOther answers
        exact distinct.1 (same ▸ List.mem_map_of_mem member)
      have split := List.filter_append_perm call.answeredBy
        (results.filter fun result => (call :: rest).any fun call => call.answeredBy result)
      rw [List.filter_filter, List.filter_filter] at split
      have own : results.filter (fun result => call.answeredBy result &&
          (call :: rest).any fun call => call.answeredBy result) =
          results.filter call.answeredBy := by
        refine List.filter_congr fun result _ => ?_
        cases answers : call.answeredBy result <;> simp [answers]
      have others : results.filter (fun result => !call.answeredBy result &&
          (call :: rest).any fun call => call.answeredBy result) =
          results.filter fun result => rest.any fun call => call.answeredBy result := by
        refine List.filter_congr fun result member => ?_
        cases answered : rest.any fun call => call.answeredBy result with
        | true => simp [apart result member answered, answered]
        | false => cases answers : call.answeredBy result <;> simp [answers, answered]
      rw [own, others] at split
      rw [List.flatMap_cons]
      exact ((ih distinct.2).append_left _).trans split

theorem or_to_nat (a b : Bool) : (a || b).toNat ≤ a.toNat + b.toNat := by
  cases a <;> cases b <;> decide

namespace Block

-- Of the calls with one ID the first is left, and a result of any of them answers it.
theorem issued_answered (block : Block) (call : ToolCall) (issued : call ∈ block.head.issuedCalls)
    (result : Message) (member : result ∈ block.results) (answers : call.answeredBy result = true) :
    ∃ kept ∈ block.answeredCalls, kept.answeredBy result = true := by
  obtain ⟨kept, first, same⟩ := first_call_with_id [] _ call issued List.not_mem_nil
  have also : kept.answeredBy result = true := by
    rw [ToolCall.answeredBy, same]
    exact answers
  exact ⟨kept, (mem_answered_calls block kept).mpr ⟨first, result, member, also⟩, also⟩

theorem stray_unanswered (block : Block) (result : Message) (member : result ∈ block.results) :
    (block.answeredCalls.any fun call => call.answeredBy result) = !block.isStray result := by
  rw [isStray, Bool.not_not, Bool.eq_iff_iff, List.any_eq_true, List.any_eq_true]
  constructor
  · intro answered
    obtain ⟨call, kept, answers⟩ := answered
    have first := ((mem_answered_calls block call).mp kept).1
    exact ⟨call, (first_calls_sublist [] _).subset first, answers⟩
  · intro answered
    obtain ⟨call, issued, answers⟩ := answered
    exact block.issued_answered call issued result member answers

theorem grouped_results_perm (block : Block) :
    block.groupedResults.Perm (block.results.filter fun result => !block.isStray result) := by
  rw [← List.filter_congr block.stray_unanswered]
  exact grouped_perm block.answeredCalls block.results block.answered_calls_distinct

theorem grouped_bulk (block : Block) :
    bulk block.groupedResults + (block.results.any block.isStray).toNat ≤ bulk block.results := by
  have kept := bulk_filter (fun result => !block.isStray result) block.results
  rw [← bulk_perm _ _ block.grouped_results_perm] at kept
  simpa only [Bool.not_not] using kept

theorem repair_bulk (block : Block) :
    bulk block.repair.block.messages + block.repair.changed.toNat ≤ bulk block.messages := by
  by_cases assistant : block.head.role = .assistant
  · have results := block.grouped_bulk
    have fewer := (block.answered_calls_sublist assistant).length_le
    have calls : (decide (block.answeredCalls.length ≠ block.head.toolCalls.length)).toNat +
        block.answeredCalls.length ≤ block.head.toolCalls.length := by
      by_cases same : block.answeredCalls.length = block.head.toolCalls.length
      · simp [same]
      · have less := Nat.lt_of_le_of_ne fewer same
        rw [decide_eq_true same, Bool.toNat_true]
        omega
    have reported := or_to_nat (block.results.any block.isStray)
      (decide (block.answeredCalls.length ≠ block.head.toolCalls.length))
    rw [repair_of_assistant block assistant, messages, messages, bulk_cons, bulk_cons]
    dsimp only
    omega
  · rw [repair_of_other block assistant, messages, messages, bulk_cons, bulk_cons]
    dsimp only
    cases results : block.results with
    | nil => exact Nat.le_refl _
    | cons result rest =>
        have empty : bulk [] = 0 := rfl
        rw [bulk_cons, List.isEmpty_cons, Bool.not_false, Bool.toNat_true]
        omega

theorem unchanged_regroups (block : Block) (unchanged : block.repair.changed = false) :
    block.repair.block.head = block.head ∧ block.repair.block.results.Perm block.results := by
  by_cases assistant : block.head.role = .assistant
  · rw [repair_of_assistant block assistant] at unchanged ⊢
    rw [Bool.or_eq_false_iff, decide_eq_false_iff_not, not_not, List.any_eq_false] at unchanged
    have calls : block.answeredCalls = block.head.toolCalls :=
      (block.answered_calls_sublist assistant).eq_of_length unchanged.2
    have all : block.results.filter (fun result => !block.isStray result) = block.results := by
      rw [List.filter_eq_self]
      intro result member
      simpa using unchanged.1 result member
    constructor
    · rw [calls]
    · have perm := block.grouped_results_perm
      rwa [all] at perm
  · rw [repair_of_other block assistant] at unchanged ⊢
    have empty : block.results = [] := by simpa using unchanged
    rw [empty]
    exact ⟨rfl, List.Perm.refl _⟩

end Block

structure Regrouped (messages output : List Message) : Prop where
  orphans : (Blocks.ofMessages output).orphans = (Blocks.ofMessages messages).orphans
  blocks : List.Forall₂ (fun after before : Block =>
    after.head = before.head ∧ after.results.Perm before.results)
    (Blocks.ofMessages output).blocks (Blocks.ofMessages messages).blocks

theorem regrouped_perm (messages output : List Message) (regrouped : Regrouped messages output) :
    output.Perm messages := by
  have blocks : ((Blocks.ofMessages output).blocks.flatMap Block.messages).Perm
      ((Blocks.ofMessages messages).blocks.flatMap Block.messages) := by
    have same := regrouped.blocks
    generalize (Blocks.ofMessages output).blocks = after at same
    generalize (Blocks.ofMessages messages).blocks = before at same
    induction same with
    | nil => exact List.Perm.refl _
    | cons first rest ih =>
        rw [List.flatMap_cons, List.flatMap_cons, Block.messages, Block.messages, first.1]
        exact (first.2.cons _).append ih
  rw [← Blocks.to_messages_of_messages output, ← Blocks.to_messages_of_messages messages,
    Blocks.toMessages, Blocks.toMessages, regrouped.orphans]
  exact blocks.append_left _

theorem sanitized_changed (messages : List Message) :
    (sanitize messages).changed =
      (!(Blocks.ofMessages messages).orphans.isEmpty ||
        (Blocks.ofMessages messages).blocks.any fun block => block.repair.changed) := by
  rw [sanitize, List.any_map]
  rfl

theorem unchanged_regrouped (messages : List Message)
    (unchanged : (sanitize messages).changed = false) :
    Regrouped messages (sanitize messages).messages := by
  rw [sanitized_changed, Bool.or_eq_false_iff, List.any_eq_false] at unchanged
  have orphans : (Blocks.ofMessages messages).orphans = [] := by simpa using unchanged.1
  constructor
  · rw [sanitized_blocks, orphans]
  · rw [sanitized_blocks, List.forall₂_map_left_iff, List.forall₂_same]
    intro block member
    exact block.unchanged_regroups (by simpa using unchanged.2 block member)

theorem orphans_bulk (orphans : List Message) : (!orphans.isEmpty).toNat ≤ bulk orphans := by
  cases orphans with
  | nil => exact Nat.le_refl _
  | cons orphan rest =>
      rw [bulk_cons, List.isEmpty_cons, Bool.not_false, Bool.toNat_true]
      omega

theorem blocks_bulk (blocks : List Block) :
    bulk (blocks.flatMap fun block => block.repair.block.messages) +
        (blocks.any fun block => block.repair.changed).toNat ≤
      bulk (blocks.flatMap Block.messages) := by
  induction blocks with
  | nil => exact Nat.le_refl _
  | cons block rest ih =>
      have first := block.repair_bulk
      have either := or_to_nat block.repair.changed (rest.any fun block => block.repair.changed)
      rw [List.flatMap_cons, List.flatMap_cons, List.any_cons, bulk_append, bulk_append]
      omega

theorem sanitize_bulk (messages : List Message) :
    bulk (sanitize messages).messages + (sanitize messages).changed.toNat ≤ bulk messages := by
  have whole : bulk messages = bulk (Blocks.ofMessages messages).orphans +
      bulk ((Blocks.ofMessages messages).blocks.flatMap Block.messages) := by
    conv_lhs => rw [← Blocks.to_messages_of_messages messages, Blocks.toMessages, bulk_append]
    rfl
  have lost := orphans_bulk (Blocks.ofMessages messages).orphans
  have repaired := blocks_bulk (Blocks.ofMessages messages).blocks
  have either := or_to_nat (!(Blocks.ofMessages messages).orphans.isEmpty)
    ((Blocks.ofMessages messages).blocks.any fun block => block.repair.changed)
  rw [sanitized_messages, sanitized_changed]
  omega

theorem unchanged_iff_perm (messages : List Message) :
    ((sanitize messages).changed = false ↔ (sanitize messages).messages.Perm messages) ∧
      ((sanitize messages).changed = false ↔
        Regrouped messages (sanitize messages).messages) := by
  have counted (perm : (sanitize messages).messages.Perm messages) :
      (sanitize messages).changed = false := by
    -- A permutation has the same bulk, so nothing was taken and there is nothing to report.
    have taken := sanitize_bulk messages
    rw [bulk_perm _ _ perm] at taken
    rw [← Bool.toNat_eq_zero]
    omega
  have regroups := unchanged_regrouped messages
  have permutes := regrouped_perm messages (sanitize messages).messages
  exact ⟨⟨fun unchanged => permutes (regroups unchanged), counted⟩,
    regroups, fun regrouped => counted (permutes regrouped)⟩

end Dialogue
