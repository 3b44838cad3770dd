import Dialogue.Text.Bytes
import Mathlib.Data.List.Perm.Subperm

set_option autoImplicit false

namespace Dialogue.Text

variable {α β : Type} (size : α → Nat)

theorem total_append (first second : List α) :
    total size (first ++ second) = total size first + total size second := by
  induction first with
  | nil => exact (Nat.zero_add _).symm
  | cons item rest ih => rw [List.cons_append, total, total, ih, Nat.add_assoc]

theorem total_perm (first second : List α) (same : first.Perm second) :
    total size first = total size second := by
  induction same with
  | nil => rfl
  | cons item _ ih => rw [total, total, ih]
  | swap item other rest => exact Nat.add_left_comm _ _ _
  | trans _ _ first second => exact first.trans second

theorem total_map (f : α → α) (same : ∀ item, size (f item) = size item) (items : List α) :
    total size (items.map f) = total size items := by
  induction items with
  | nil => rfl
  | cons item rest ih => rw [List.map_cons, total, total, same, ih]

theorem total_sublist (some all : List α) (among : some.Sublist all) :
    total size some ≤ total size all := by
  induction among with
  | slnil => exact Nat.le_refl _
  | cons item _ ih => exact Nat.le_trans ih (Nat.le_add_left _ _)
  | cons_cons item _ ih => exact Nat.add_le_add_left ih _

theorem total_subperm (some all : List α) (among : some.Subperm all) :
    total size some ≤ total size all := by
  obtain ⟨ordered, same, sublist⟩ := among
  rw [← total_perm size ordered some same]
  exact total_sublist size ordered all sublist

theorem total_flat_map_le (first second : β → List α)
    (less : ∀ group, total size (first group) ≤ total size (second group)) (groups : List β) :
    total size (groups.flatMap first) ≤ total size (groups.flatMap second) := by
  induction groups with
  | nil => exact Nat.le_refl _
  | cons group rest ih =>
      rw [List.flatMap_cons, List.flatMap_cons, total_append, total_append]
      exact Nat.add_le_add (less group) ih

end Dialogue.Text
