import Dialogue.Text.Blank
import Mathlib.Data.List.DropRight

set_option autoImplicit false

namespace Dialogue.Text

theorem blank_iff (text : String) :
    isBlank text = true ↔ ∀ c ∈ text.toList, isBlankChar c = true := by
  rw [isBlank, List.all_eq_true]

theorem trim_end_right (chars : List Char) : trimEnd chars = chars.rdropWhile isBlankChar := rfl

theorem trim_start_before (before chars : List Char)
    (blank : ∀ c ∈ before, isBlankChar c = true) : trimStart (before ++ chars) = trimStart chars :=
  List.dropWhile_append_of_pos blank

theorem trim_end_after (chars after : List Char) (blank : ∀ c ∈ after, isBlankChar c = true) :
    trimEnd (chars ++ after) = trimEnd chars := by
  have reversed : ∀ c ∈ after.reverse, isBlankChar c = true :=
    fun c member => blank c (List.mem_reverse.mp member)
  rw [trimEnd, trimEnd, List.reverse_append, List.dropWhile_append_of_pos reversed]

theorem trim_start_after (chars after : List Char) (blank : ∀ c ∈ after, isBlankChar c = true) :
    trimEnd (trimStart (chars ++ after)) = trimEnd (trimStart chars) := by
  rw [trimStart, List.dropWhile_append, trimStart]
  cases left : chars.dropWhile isBlankChar with
  | nil =>
      rw [List.dropWhile_eq_nil_iff.mpr blank]
      rfl
  | cons first rest => exact trim_end_after (first :: rest) after blank

theorem trim_padded (before text after : String) (blankBefore : isBlank before = true)
    (blankAfter : isBlank after = true) : trim (before ++ text ++ after) = trim text := by
  rw [trim, trim, String.toList_append, String.toList_append, List.append_assoc,
    trim_start_before _ _ ((blank_iff before).mp blankBefore),
    trim_start_after _ _ ((blank_iff after).mp blankAfter)]

-- Cutting off the end leaves a first character that is not blank where it is.
theorem trim_start_trimmed (chars : List Char) :
    trimStart (trimEnd (trimStart chars)) = trimEnd (trimStart chars) := by
  rw [trim_end_right]
  obtain ⟨cut, whole⟩ := List.rdropWhile_prefix isBlankChar (l := trimStart chars)
  cases kept : (trimStart chars).rdropWhile isBlankChar with
  | nil => rfl
  | cons first rest =>
      rw [kept, List.cons_append] at whole
      have again : trimStart (trimStart chars) = trimStart chars :=
        List.dropWhile_idempotent isBlankChar chars
      have unblank : isBlankChar first = false := by
        rw [← whole, trimStart] at again
        have stays := List.dropWhile_eq_self_iff.mp again (by simp)
        simpa using stays
      rw [trimStart, List.dropWhile_cons_of_neg (by simp [unblank])]

theorem trim_trim (text : String) : trim (trim text) = trim text := by
  rw [trim, trim, String.toList_ofList, trim_start_trimmed, trim_end_right, trim_end_right,
    List.rdropWhile_idempotent]

theorem trim_empty_iff (text : String) : trim text = "" ↔ isBlank text = true := by
  rw [blank_iff, trim]
  constructor
  · intro empty
    have nothing : trimEnd (trimStart text.toList) = [] := by
      simpa using congrArg String.toList empty
    rw [trim_end_right, List.rdropWhile_eq_nil_iff] at nothing
    intro c member
    rcases List.mem_append.mp
        ((List.takeWhile_append_dropWhile (p := isBlankChar) (l := text.toList)).symm ▸ member) with
      early | late
    · exact List.mem_takeWhile_imp early
    · exact nothing c late
  · intro blank
    rw [trimStart, List.dropWhile_eq_nil_iff.mpr blank]
    rfl

end Dialogue.Text
