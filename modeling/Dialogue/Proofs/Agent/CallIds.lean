import Dialogue.Agent.CallIds
import Mathlib.Data.List.Nodup

set_option autoImplicit false

namespace Dialogue

-- What is assumed of supplied IDs: where one stands in the output, it is not blank, and it does not
-- stand anywhere before.
def FreshSupply (supply : Nat → String) (calls : List ToolCall) : Prop :=
  ∀ before assigned after index, assignCallIds supply calls = before ++ assigned :: after →
    assigned.call.id = supply index →
      Text.isBlank (supply index) = false ∧
        supply index ∉ before.map fun other => other.call.id

def SameButIds (calls others : List ToolCall) : Prop :=
  List.Forall₂ (fun call other => ∃ id, call = { other with id }) calls others

theorem assigned_same (supply : Nat → String) (used : Nat) (seen : List String)
    (calls : List ToolCall) :
    SameButIds ((assignFrom supply used seen calls).map (·.call)) calls := by
  induction calls generalizing used seen with
  | nil => exact .nil
  | cons call rest ih =>
      rw [assignFrom]
      by_cases unusable : Text.isBlank call.id = true ∨ call.id ∈ seen
      · rw [if_pos unusable]
        exact .cons ⟨supply used, rfl⟩ (ih _ _)
      · rw [if_neg unusable]
        exact .cons ⟨call.id, rfl⟩ (ih _ _)

theorem assign_cons (supply : Nat → String) (used : Nat) (seen : List String) (call : ToolCall)
    (rest : List ToolCall) :
    ∃ first next, assignFrom supply used seen (call :: rest) =
        first :: assignFrom supply next (first.call.id :: seen) rest ∧
      (first.replaced = true → ∃ index, first.call.id = supply index) ∧
      (first.replaced = false → first.call = call) ∧
      (first.replaced = false ↔ Text.isBlank call.id = false ∧ call.id ∉ seen) := by
  rw [assignFrom]
  by_cases unusable : Text.isBlank call.id = true ∨ call.id ∈ seen
  · rw [if_pos unusable]
    exact ⟨_, _, rfl, fun _ => ⟨used, rfl⟩, by simp, by simpa [imp_iff_not_or] using unusable⟩
  · rw [if_neg unusable]
    exact ⟨_, _, rfl, by simp, fun _ => rfl, by simpa using unusable⟩

-- By induction on the calls, for everything that was seen before them.
theorem assigned_place (supply : Nat → String) (used : Nat) (seen : List String)
    (calls : List ToolCall) (place : Nat) (own : ToolCall) (assigned : AssignedCall)
    (given : calls[place]? = some own)
    (output : (assignFrom supply used seen calls)[place]? = some assigned) :
    (assigned.replaced = true → ∃ index, assigned.call.id = supply index) ∧
      (assigned.replaced = false → assigned.call = own) ∧
      (assigned.replaced = false ↔ Text.isBlank own.id = false ∧ own.id ∉ seen ∧
        own.id ∉ ((assignFrom supply used seen calls).take place).map fun other =>
          other.call.id) := by
  induction calls generalizing used seen place with
  | nil => simp at given
  | cons call rest ih =>
      obtain ⟨first, next, begins, supplied, kept, usable⟩ :=
        assign_cons supply used seen call rest
      rw [begins] at output ⊢
      cases place with
      | zero =>
          obtain rfl : call = own := by simpa using given
          obtain rfl : first = assigned := by simpa using output
          exact ⟨supplied, kept, by simpa using usable⟩
      | succ place =>
          obtain ⟨supplied, kept, usable⟩ := ih next (first.call.id :: seen) place given output
          refine ⟨supplied, kept, usable.trans ?_⟩
          rw [List.take_succ_cons, List.map_cons, List.mem_cons, List.mem_cons, not_or, not_or]
          exact and_congr_right fun _ => and_assoc.trans and_left_comm

theorem assigned_length (supply : Nat → String) (calls : List ToolCall) :
    (assignCallIds supply calls).length = calls.length := by
  simpa [assignCallIds] using (assigned_same supply 0 [] calls).length_eq

theorem assigned_usable (supply : Nat → String) (calls : List ToolCall)
    (fresh : FreshSupply supply calls) (place : Nat)
    (bound : place < (assignCallIds supply calls).length) :
    Text.isBlank (assignCallIds supply calls)[place].call.id = false ∧
      (assignCallIds supply calls)[place].call.id ∉
        ((assignCallIds supply calls).take place).map fun other => other.call.id := by
  have output : assignCallIds supply calls = (assignCallIds supply calls).take place ++
      (assignCallIds supply calls)[place] :: (assignCallIds supply calls).drop (place + 1) := by
    rw [← List.drop_eq_getElem_cons, List.take_append_drop]
  have given := List.getElem?_eq_getElem (assigned_length supply calls ▸ bound)
  obtain ⟨supplied, same, usable⟩ := assigned_place supply 0 [] calls place _ _ given
    (List.getElem?_eq_getElem bound)
  cases replaced : (assignCallIds supply calls)[place].replaced with
  | true =>
      obtain ⟨index, drawn⟩ := supplied replaced
      rw [drawn]
      exact fresh _ _ _ index output drawn
  | false =>
      obtain ⟨identified, _, apart⟩ := usable.mp replaced
      rw [same replaced]
      exact ⟨identified, apart⟩

theorem assigned_identified (supply : Nat → String) (calls : List ToolCall)
    (fresh : FreshSupply supply calls) :
    ∀ assigned ∈ assignCallIds supply calls, Text.isBlank assigned.call.id = false := by
  intro assigned member
  obtain ⟨place, bound, rfl⟩ := List.getElem_of_mem member
  exact (assigned_usable supply calls fresh place bound).1

theorem assigned_distinct (supply : Nat → String) (calls : List ToolCall)
    (fresh : FreshSupply supply calls) :
    ((assignCallIds supply calls).map fun assigned => assigned.call.id).Nodup := by
  rw [List.Nodup, List.pairwise_map, List.pairwise_iff_getElem]
  intro first second firstBound secondBound less same
  apply (assigned_usable supply calls fresh second secondBound).2
  rw [← same]
  apply List.mem_map_of_mem
  rw [List.mem_take_iff_getElem]
  exact ⟨first, by omega, rfl⟩

theorem fresh_of_usable (supply : Nat → String) (calls : List ToolCall)
    (identified : ∀ assigned ∈ assignCallIds supply calls, Text.isBlank assigned.call.id = false)
    (distinct : ((assignCallIds supply calls).map fun assigned => assigned.call.id).Nodup) :
    FreshSupply supply calls := by
  intro before assigned after index output drawn
  rw [← drawn]
  refine ⟨identified assigned (by simp [output]), ?_⟩
  rw [output, List.map_append, List.map_cons] at distinct
  intro earlier
  exact (List.nodup_append.mp distinct).2.2 _ earlier _ List.mem_cons_self rfl

instance (supply : Nat → String) (calls : List ToolCall) : Decidable (FreshSupply supply calls) :=
  decidable_of_iff
    ((∀ assigned ∈ assignCallIds supply calls, Text.isBlank assigned.call.id = false) ∧
      ((assignCallIds supply calls).map fun assigned => assigned.call.id).Nodup)
    ⟨fun usable => fresh_of_usable supply calls usable.1 usable.2,
      fun fresh => ⟨assigned_identified supply calls fresh, assigned_distinct supply calls fresh⟩⟩

structure Identifies (calls assigned : List ToolCall) : Prop where
  same : SameButIds assigned calls
  identified : ∀ call ∈ assigned, Text.isBlank call.id = false
  distinct : (assigned.map (·.id)).Nodup
  kept : ∀ place own call, calls[place]? = some own → assigned[place]? = some call →
    (call.id = own.id ↔
      Text.isBlank own.id = false ∧ own.id ∉ (assigned.take place).map (·.id))

theorem call_ids_assigned (supply : Nat → String) (calls : List ToolCall)
    (fresh : FreshSupply supply calls) :
    Identifies calls ((assignCallIds supply calls).map (·.call)) := by
  refine ⟨assigned_same supply 0 [] calls, ?_, ?_, ?_⟩
  · exact List.forall_mem_map.mpr (assigned_identified supply calls fresh)
  · rw [List.map_map]
    exact assigned_distinct supply calls fresh
  · intro place own call given output
    rw [List.getElem?_map, Option.map_eq_some_iff] at output
    obtain ⟨assigned, there, rfl⟩ := output
    obtain ⟨_, kept, usable⟩ := assigned_place supply 0 [] calls place own assigned given there
    rw [← List.map_take, List.map_map]
    constructor
    · intro same
      obtain ⟨bound, rfl⟩ := List.getElem?_eq_some_iff.mp there
      rw [← same]
      exact assigned_usable supply calls fresh place bound
    · intro good
      rw [kept (usable.mpr ⟨good.1, by simp, good.2⟩)]

def colliding : List ToolCall :=
  [⟨"a", "read", "1"⟩, ⟨"", "read", "2"⟩, ⟨"call_0", "read", "3"⟩, ⟨"a", "read", "4"⟩,
    ⟨"\u00a0", "read", "5"⟩, ⟨"b", "read", "6"⟩]

theorem colliding_ids_assigned :
    FreshSupply (fun index => "call_" ++ toString index) colliding ∧
      Identifies colliding
        [⟨"a", "read", "1"⟩, ⟨"call_0", "read", "2"⟩, ⟨"call_1", "read", "3"⟩,
          ⟨"call_2", "read", "4"⟩, ⟨"call_3", "read", "5"⟩, ⟨"b", "read", "6"⟩] := by
  have fresh : FreshSupply (fun index => "call_" ++ toString index) colliding := by decide
  exact ⟨fresh, call_ids_assigned _ colliding fresh⟩

end Dialogue
