set_option autoImplicit false

namespace Dialogue.Text

def total {α : Type} (size : α → Nat) : List α → Nat
  | [] => 0
  | x :: rest => size x + total size rest

def byteLength (chars : List Char) : Nat := total Char.utf8Size chars

def bytes (text : String) : Nat := byteLength text.toList

def placeAt (text : String) (byte : Nat) : Option text.Pos :=
  if valid : (String.Pos.Raw.mk byte).IsValid text then some ⟨⟨byte⟩, valid⟩ else none

-- Steps back until it comes to a place; none if it would have to go below zero.
def walkBack (text : String) : Nat → Option text.Pos
  | 0 => placeAt text 0
  | byte + 1 =>
    match placeAt text (byte + 1) with
    | some place => some place
    | none => walkBack text byte

theorem walk_arrives (text : String) (byte : Nat) : (walkBack text byte).isSome = true := by
  induction byte with
  | zero =>
      have first : (String.Pos.Raw.mk 0).IsValid text := String.Pos.Raw.isValid_zero
      rw [walkBack, placeAt, dif_pos first]
      rfl
  | succ byte ih =>
      rw [walkBack]
      cases placeAt text (byte + 1) with
      | some place => rfl
      | none => exact ih

-- Cuts `text` to at most `cap` bytes; a cap of zero leaves it whole.
def truncate (text : String) (cap : Nat) : String :=
  if cap = 0 ∨ bytes text ≤ cap then text
  else (text.sliceTo ((walkBack text cap).get (walk_arrives text cap))).copy

end Dialogue.Text
