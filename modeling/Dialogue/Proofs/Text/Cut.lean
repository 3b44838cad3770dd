import Dialogue.Text.Bytes

set_option autoImplicit false

namespace Dialogue.Text

def Begins (part text : String) : Prop := part.toList <+: text.toList

structure LongestWithin (text : String) (cap : Nat) (part : String) : Prop where
  begins : Begins part text
  fits : part.utf8ByteSize ≤ cap
  longest : ∀ other, Begins other text → other.utf8ByteSize ≤ cap → Begins other part

-- What is left of a text where a cap is set; a cap of zero is none.
structure CutTo (text : String) (cap : Nat) (part : String) : Prop where
  whole : cap = 0 ∨ text.utf8ByteSize ≤ cap → part = text
  cut : cap ≠ 0 → cap < text.utf8ByteSize →
    LongestWithin text cap part ∧ cap ≤ part.utf8ByteSize + 3

theorem byte_length_of_list (chars : List Char) :
    byteLength chars = (String.ofList chars).utf8ByteSize := by
  induction chars with
  | nil => rfl
  | cons c rest ih =>
      rw [String.ofList_cons, String.utf8ByteSize_append, String.utf8ByteSize_singleton, ← ih]
      rfl

theorem bytes_size (text : String) : bytes text = text.utf8ByteSize := by
  rw [bytes, byte_length_of_list, String.ofList_toList]

theorem begins_splits (part text : String) (begins : Begins part text) :
    ∃ rest, text = part ++ rest := by
  obtain ⟨rest, whole⟩ := begins
  refine ⟨String.ofList rest, ?_⟩
  rw [← String.toList_inj, String.toList_append, String.toList_ofList, whole]

theorem begins_append (part rest : String) : Begins part (part ++ rest) := by
  rw [Begins, String.toList_append]
  exact List.prefix_append _ _

theorem begins_of_shorter (first second text : String) (begins : Begins first text)
    (also : Begins second text) (shorter : first.utf8ByteSize ≤ second.utf8ByteSize) :
    Begins first second := by
  rcases List.prefix_or_prefix_of_prefix begins also with within | reversed
  · exact within
  · obtain ⟨rest, rfl⟩ := begins_splits second first reversed
    rw [String.utf8ByteSize_append] at shorter
    have nothing : rest = "" := String.utf8ByteSize_eq_zero_iff.mp (by omega)
    rw [nothing, String.append_empty]
    exact List.prefix_refl _

theorem place_valid_iff (text : String) (byte : Nat) :
    (String.Pos.Raw.mk byte).IsValid text ↔
      ∃ part, Begins part text ∧ part.utf8ByteSize = byte := by
  rw [String.Pos.Raw.isValid_iff_exists_append]
  constructor
  · rintro ⟨part, rest, rfl, same⟩
    exact ⟨part, begins_append part rest, (congrArg String.Pos.Raw.byteIdx same).symm⟩
  · rintro ⟨part, begins, rfl⟩
    obtain ⟨rest, whole⟩ := begins_splits part text begins
    exact ⟨part, rest, whole, rfl⟩

theorem place_at_some (text : String) (byte : Nat) (place : text.Pos)
    (found : placeAt text byte = some place) : place.offset.byteIdx = byte := by
  rw [placeAt] at found
  split at found
  · cases found
    rfl
  · cases found

theorem place_at_none (text : String) (byte : Nat) (missing : placeAt text byte = none) :
    ¬ (String.Pos.Raw.mk byte).IsValid text := by
  rw [placeAt] at missing
  split at missing
  · cases missing
  · assumption

theorem walk_last (text : String) (byte : Nat) (place : text.Pos)
    (arrived : walkBack text byte = some place) :
    place.offset.byteIdx ≤ byte ∧
      ∀ earlier, (String.Pos.Raw.mk earlier).IsValid text → earlier ≤ byte →
        earlier ≤ place.offset.byteIdx := by
  induction byte with
  | zero =>
      rw [place_at_some text 0 place arrived]
      exact ⟨Nat.le_refl 0, fun _ _ within => within⟩
  | succ byte ih =>
      rw [walkBack] at arrived
      cases here : placeAt text (byte + 1) with
      | some found =>
          rw [here] at arrived
          cases arrived
          rw [place_at_some text (byte + 1) place here]
          exact ⟨Nat.le_refl _, fun _ _ within => within⟩
      | none =>
          rw [here] at arrived
          obtain ⟨bound, last⟩ := ih arrived
          refine ⟨Nat.le_succ_of_le bound, ?_⟩
          intro earlier valid within
          rcases Nat.le_succ_iff.mp within with before | rfl
          · exact last earlier valid before
          · exact absurd valid (place_at_none text _ here)

theorem before_place (text : String) (place : text.Pos) :
    Begins (text.sliceTo place).copy text ∧
      (text.sliceTo place).copy.utf8ByteSize = place.offset.byteIdx := by
  have splits := String.Pos.splits place
  refine ⟨?_, (congrArg String.Pos.Raw.byteIdx splits.offset_eq_rawEndPos).symm⟩
  have begins := begins_append (text.sliceTo place).copy (text.sliceFrom place).copy
  rwa [← splits.eq_append] at begins

theorem before_walk_longest (text : String) (cap : Nat) (place : text.Pos)
    (arrived : walkBack text cap = some place) :
    LongestWithin text cap (text.sliceTo place).copy := by
  obtain ⟨begins, size⟩ := before_place text place
  obtain ⟨bound, last⟩ := walk_last text cap place arrived
  refine ⟨begins, size ▸ bound, ?_⟩
  intro other also fits
  apply begins_of_shorter other _ text also begins
  rw [size]
  exact last _ ((place_valid_iff text _).mpr ⟨other, also, rfl⟩) fits

-- The next character would not have fitted, and it has four bytes at most.
theorem longest_near (text part : String) (cap : Nat) (longest : LongestWithin text cap part)
    (longer : cap < text.utf8ByteSize) : cap ≤ part.utf8ByteSize + 3 := by
  obtain ⟨rest, whole⟩ := longest.begins
  cases rest with
  | nil =>
      rw [List.append_nil, String.toList_inj] at whole
      rw [← whole] at longer
      exact absurd longest.fits (Nat.not_le_of_lt longer)
  | cons c rest =>
      by_cases fits : (part ++ String.singleton c).utf8ByteSize ≤ cap
      · have more : Begins (part ++ String.singleton c) text := by
          refine ⟨rest, ?_⟩
          rw [String.toList_append, String.toList_singleton, List.append_assoc]
          exact whole
        have within := (longest.longest _ more fits).length_le
        rw [String.toList_append, List.length_append, String.toList_singleton] at within
        exact absurd within (Nat.not_succ_le_self _)
      · rw [String.utf8ByteSize_append, String.utf8ByteSize_singleton] at fits
        have bound := c.utf8Size_le_four
        omega

theorem longest_unique (text first second : String) (cap : Nat)
    (longest : LongestWithin text cap first) (also : LongestWithin text cap second) :
    first = second := by
  have within := also.longest first longest.begins longest.fits
  have reversed := longest.longest second also.begins also.fits
  exact String.toList_inj.mp (within.eq_of_length_le reversed.length_le)

theorem truncate_cut (text : String) (cap : Nat) : CutTo text cap (truncate text cap) := by
  rw [truncate, bytes_size]
  constructor
  · exact fun whole => if_pos whole
  · intro capped longer
    rw [if_neg (by omega)]
    have longest := before_walk_longest text cap _ (Option.some_get (walk_arrives text cap)).symm
    exact ⟨longest, longest_near text _ cap longest longer⟩

theorem cut_iff (text part : String) (cap : Nat) :
    CutTo text cap part ↔ part = truncate text cap := by
  have other := truncate_cut text cap
  constructor
  · intro cut
    by_cases whole : cap = 0 ∨ text.utf8ByteSize ≤ cap
    · rw [cut.whole whole, other.whole whole]
    · rw [not_or, Nat.not_le] at whole
      have longest := (cut.cut whole.1 whole.2).1
      exact longest_unique text part _ cap longest (other.cut whole.1 whole.2).1
  · intro same
    rwa [same]

theorem truncate_whole_or_longest (text : String) (cap : Nat) :
    truncate text cap = text ∨ LongestWithin text cap (truncate text cap) := by
  obtain ⟨whole, cut⟩ := truncate_cut text cap
  by_cases capped : cap = 0 ∨ text.utf8ByteSize ≤ cap
  · exact .inl (whole capped)
  · rw [not_or, Nat.not_le] at capped
    exact .inr (cut capped.1 capped.2).1

theorem truncate_begins (text : String) (cap : Nat) : Begins (truncate text cap) text := by
  rcases truncate_whole_or_longest text cap with whole | longest
  · rw [whole]
    exact List.prefix_refl _
  · exact longest.begins

theorem truncate_twice (text : String) (cap : Nat) :
    truncate (truncate text cap) cap = truncate text cap := by
  rcases truncate_whole_or_longest text cap with whole | longest
  · rw [whole, whole]
  · exact (truncate_cut _ cap).whole (.inr longest.fits)

theorem truncate_shorter_iff (text : String) (cap : Nat) :
    bytes (truncate text cap) < bytes text ↔ truncate text cap ≠ text := by
  rw [bytes_size, bytes_size]
  constructor
  · intro less same
    rw [same] at less
    exact Nat.lt_irrefl _ less
  · intro different
    rw [← Nat.not_le]
    intro atLeast
    apply different
    have begins := truncate_begins text cap
    have reversed := begins_of_shorter text _ text (List.prefix_refl _) begins atLeast
    exact String.toList_inj.mp (begins.eq_of_length_le reversed.length_le)

end Dialogue.Text
