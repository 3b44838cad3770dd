import Dialogue.Chat.Usage
import Dialogue.Proofs.Text.Total

set_option autoImplicit false

namespace Dialogue.TokenUsage

def counts : List (TokenUsage → UInt64) := [inputTokens, outputTokens, totalTokens]

def runningTotal (total : Option TokenUsage) (parts : List TokenUsage) : Option TokenUsage :=
  parts.foldl (fun total part => addReported total (some part)) total

def tally (count : TokenUsage → UInt64) (parts : List TokenUsage) : Nat :=
  Text.total (fun part => (count part).toNat) parts

def Fit (parts : List TokenUsage) : Prop := ∀ count ∈ counts, tally count parts < UInt64.size

-- The total of the parts; nothing is said about the amount of the cost.
structure TotalOf (total : TokenUsage) (parts : List TokenUsage) : Prop where
  counted : Fit parts → ∀ count ∈ counts, (count total).toNat = tally count parts
  priced : total.costUsd.isSome = parts.any (·.costUsd.isSome)

variable (total part : TokenUsage) (count : TokenUsage → UInt64)

theorem count_add (counted : count ∈ counts) :
    count (total.add part) = count total + count part := by
  simp only [counts, List.mem_cons, List.not_mem_nil, or_false] at counted
  rcases counted with rfl | rfl | rfl <;> rfl

theorem count_nothing (counted : count ∈ counts) : count {} = 0 := by
  simp only [counts, List.mem_cons, List.not_mem_nil, or_false] at counted
  rcases counted with rfl | rfl | rfl <;> rfl

theorem add_priced :
    (total.add part).costUsd.isSome = (total.costUsd.isSome || part.costUsd.isSome) := by
  change (addCost total.costUsd part.costUsd).isSome = _
  cases part.costUsd with
  | none => simp [addCost]
  | some cost => simp [addCost]

theorem running_total_some (usage : TokenUsage) (parts : List TokenUsage) :
    ∃ sum, runningTotal (some usage) parts = some sum := by
  induction parts generalizing usage with
  | nil => exact ⟨usage, rfl⟩
  | cons part rest ih => exact ih (usage.add part)

theorem running_total_reported (parts : List TokenUsage) :
    runningTotal none parts =
      if parts.isEmpty then none else some ((runningTotal none parts).getD {}) := by
  cases parts with
  | nil => rfl
  | cons part rest =>
      obtain ⟨sum, reported⟩ := running_total_some (add {} part) rest
      change runningTotal (some (add {} part)) rest =
        some ((runningTotal (some (add {} part)) rest).getD {})
      rw [reported, Option.getD_some]

theorem count_running_total (counted : count ∈ counts) (parts : List TokenUsage)
    (usage : Option TokenUsage) :
    (count ((runningTotal usage parts).getD {})).toNat =
      ((count (usage.getD {})).toNat + tally count parts) % UInt64.size := by
  induction parts generalizing usage with
  | nil => exact (Nat.mod_eq_of_lt (UInt64.toNat_lt _)).symm
  | cons part rest ih =>
      change (count ((runningTotal (some ((usage.getD {}).add part)) rest).getD {})).toNat = _
      rw [ih, Option.getD_some, count_add _ _ count counted, tally, tally, Text.total,
        ← Nat.add_assoc]
      exact Nat.mod_add_mod _ _ _

theorem running_total_priced (parts : List TokenUsage) (usage : Option TokenUsage) :
    ((runningTotal usage parts).getD {}).costUsd.isSome =
      ((usage.getD {}).costUsd.isSome || parts.any (·.costUsd.isSome)) := by
  induction parts generalizing usage with
  | nil => exact (Bool.or_false _).symm
  | cons part rest ih =>
      change ((runningTotal (some ((usage.getD {}).add part)) rest).getD {}).costUsd.isSome = _
      rw [ih, Option.getD_some, add_priced, List.any_cons, Bool.or_assoc]

theorem count_from_nothing (counted : count ∈ counts) (parts : List TokenUsage) :
    (count ((runningTotal none parts).getD {})).toNat = tally count parts % UInt64.size := by
  rw [count_running_total count counted, Option.getD_none, count_nothing count counted]
  simp

theorem running_total_of (parts : List TokenUsage) :
    TotalOf ((runningTotal none parts).getD {}) parts where
  counted fit count counted := by
    rw [count_from_nothing count counted, Nat.mod_eq_of_lt (fit count counted)]
  priced := by
    rw [running_total_priced]
    rfl

-- The order of the parts has no bearing on the counts, whether or not the sums fit.
theorem count_perm (counted : count ∈ counts) (first second : List TokenUsage)
    (same : first.Perm second) :
    count ((runningTotal none first).getD {}) = count ((runningTotal none second).getD {}) := by
  apply UInt64.toNat_inj.mp
  rw [count_from_nothing count counted, count_from_nothing count counted, tally, tally,
    Text.total_perm _ first second same]

end Dialogue.TokenUsage
