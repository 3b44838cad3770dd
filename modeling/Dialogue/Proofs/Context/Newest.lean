import Dialogue.Proofs.Context.Compaction
import Dialogue.Proofs.History.Stripped
import Dialogue.Proofs.History.Window

set_option autoImplicit false

namespace Dialogue

structure Message.Plain (message : Message) : Prop where
  noResult : message.isTool = false
  noCalls : message.issuedCalls = []

theorem user_plain (stamp : Stamp) (content : String) : (Message.user stamp content).Plain :=
  ⟨rfl, rfl⟩

variable (earlier : List Message) (newest : Message)

theorem sanitize_newest (plain : newest.Plain) :
    sanitize (earlier ++ [newest]) =
      ⟨(sanitize earlier).messages ++ [newest], (sanitize earlier).changed⟩ := by
  have valid := valid_plain newest plain.noResult plain.noCalls
  rw [sanitize_append earlier [newest] valid.noOrphans, sanitize_of_valid [newest] valid,
    Bool.or_false]

theorem window_reaches_newest (untool : newest.isTool = false) (count : Nat) :
    recentWindowStart (earlier ++ [newest]) count ≤ earlier.length := by
  have bounded := window_bounded (earlier ++ [newest]) count
  have starts : countStart (earlier ++ [newest]) count ≤ earlier.length := by
    rw [countStart, List.length_append, List.length_singleton]
    split <;> omega
  by_contra behind
  obtain ⟨first, upto, _, run⟩ := bounded.shrunk (by omega)
  have result := run earlier.length (by simp) (by omega) (by omega)
  rw [List.getElem_concat_length rfl, untool] at result
  cases result

theorem compacted_newest (compactor : Compactor) (systemPrompt : String) (trace : List Event)
    (compacted : List Message) (untool : newest.isTool = false)
    (compaction : compactor.Compaction systemPrompt (earlier ++ [newest]) trace (.ok compacted)) :
    ∃ before, compacted = before ++ [newest] := by
  have dropped : ∀ start, compactor.cut? systemPrompt (earlier ++ [newest]) = some start →
      (earlier ++ [newest]).drop start = earlier.drop start ++ [newest] := by
    intro start cut
    rw [(cut_at_window compactor systemPrompt _ start cut).1]
    exact List.drop_append_of_le_length (window_reaches_newest earlier newest untool _)
  cases compaction with
  | untouched within => exact ⟨earlier, rfl⟩
  | summarized asked made response cut told =>
      rw [dropped _ cut]
      exact ⟨_, (List.cons_append).symm⟩
  | dropped asked reply e cut failed other => exact ⟨_, dropped _ cut⟩

end Dialogue
