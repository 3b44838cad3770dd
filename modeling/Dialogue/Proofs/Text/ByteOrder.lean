set_option autoImplicit false

namespace Dialogue.Text

open String (utf8EncodeChar)

def utf8 (text : String) : List UInt8 := text.toUTF8.data.toList

theorem utf8_chars (text : String) : utf8 text = text.toList.flatMap utf8EncodeChar := by
  obtain ⟨chars, rfl⟩ := text.exists_eq_ofList
  rw [utf8, String.toUTF8_eq_toByteArray, String.toByteArray_ofList, String.toList_ofList,
    List.utf8Encode]
  simp

theorem scalar_bounded (c : Char) : c.val.toNat < 0x110000 := by
  have valid : Nat.isValidChar c.val.toNat := c.valid
  rw [Nat.isValidChar] at valid
  omega

theorem encode_cases (c : Char) :
    (c.val.toNat ≤ 0x7f ∧ utf8EncodeChar c = [.ofNat c.val.toNat]) ∨
    (0x7f < c.val.toNat ∧ c.val.toNat ≤ 0x7ff ∧ utf8EncodeChar c =
      [.ofNat (c.val.toNat / 64 % 0x20 + 0xc0), .ofNat (c.val.toNat % 0x40 + 0x80)]) ∨
    (0x7ff < c.val.toNat ∧ c.val.toNat ≤ 0xffff ∧ utf8EncodeChar c =
      [.ofNat (c.val.toNat / 4096 % 0x10 + 0xe0), .ofNat (c.val.toNat / 64 % 0x40 + 0x80),
        .ofNat (c.val.toNat % 0x40 + 0x80)]) ∨
    (0xffff < c.val.toNat ∧ utf8EncodeChar c =
      [.ofNat (c.val.toNat / 262144 % 0x08 + 0xf0), .ofNat (c.val.toNat / 4096 % 0x40 + 0x80),
        .ofNat (c.val.toNat / 64 % 0x40 + 0x80), .ofNat (c.val.toNat % 0x40 + 0x80)]) := by
  fun_cases utf8EncodeChar c with
  | case1 _ one => exact .inl ⟨one, rfl⟩
  | case2 _ more two => exact .inr (.inl ⟨Nat.lt_of_not_le more, two, rfl⟩)
  | case3 _ _ more three => exact .inr (.inr (.inl ⟨Nat.lt_of_not_le more, three, rfl⟩))
  | case4 _ _ _ more => exact .inr (.inr (.inr ⟨Nat.lt_of_not_le more, rfl⟩))

theorem encode_nonempty (c : Char) : utf8EncodeChar c ≠ [] := by
  rcases encode_cases c with ⟨_, bytes⟩ | ⟨_, _, bytes⟩ | ⟨_, _, bytes⟩ | ⟨_, bytes⟩ <;>
    simp [bytes]

-- Whatever follows: the bytes of two characters differ before either of them ends.
theorem encode_precedes (first second : Char) (less : first < second) (after more : List UInt8) :
    utf8EncodeChar first ++ after < utf8EncodeChar second ++ more := by
  have values : first.val.toNat < second.val.toNat := less
  have bound := scalar_bounded second
  -- Of each byte only the difference to the one it is compared with matters, and none overflows.
  rcases encode_cases first with ⟨_, one⟩ | ⟨_, _, one⟩ | ⟨_, _, one⟩ | ⟨_, one⟩ <;>
    rcases encode_cases second with ⟨_, other⟩ | ⟨_, _, other⟩ | ⟨_, _, other⟩ | ⟨_, other⟩ <;>
      rw [one, other] <;>
      simp only [List.cons_append, List.nil_append, List.cons_lt_cons_iff, UInt8.lt_iff_toNat_lt,
        ← UInt8.toNat_inj, UInt8.toNat_ofNat', Nat.reducePow] <;>
      simp (disch := omega) only [Nat.mod_eq_of_lt] <;>
      omega

theorem encode_lt (first second : List Char) (less : first < second) :
    first.flatMap utf8EncodeChar < second.flatMap utf8EncodeChar := by
  induction less with
  | @nil c rest =>
      rw [List.flatMap_nil, List.flatMap_cons]
      cases bytes : utf8EncodeChar c with
      | nil => exact absurd bytes (encode_nonempty c)
      | cons byte later => exact List.nil_lt_cons byte _
  | rel less => exact encode_precedes _ _ less _ _
  | cons _ ih =>
      rw [List.flatMap_cons, List.flatMap_cons]
      exact List.append_left_lt ih

theorem utf8_lt_iff (first second : String) : utf8 first < utf8 second ↔ first < second := by
  rw [utf8_chars, utf8_chars]
  refine ⟨?_, encode_lt first.toList second.toList⟩
  intro less
  by_cases ordered : first < second
  · exact ordered
  · by_cases reversed : second < first
    · exact absurd less (List.lt_asymm (encode_lt second.toList first.toList reversed))
    · rw [String.le_antisymm reversed ordered] at less
      exact absurd less (List.lt_irrefl _)

end Dialogue.Text
