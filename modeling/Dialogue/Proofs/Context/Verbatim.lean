import Dialogue.Proofs.Context.Fallback
import Dialogue.Proofs.History.Locality
import Dialogue.Proofs.History.Window

set_option autoImplicit false

namespace Dialogue

variable (compactor : Compactor) (systemPrompt : String) (messages : List Message)

theorem count_start_covers (count : Nat) (covers : count = 0 ∨ messages.length ≤ count) :
    countStart messages count = 0 := by
  rw [countStart]
  split <;> omega

theorem boundary_behind_leading :
    WindowBoundary messages 0 (messages.takeWhile Message.isTool).length where
  within := (List.takeWhile_prefix Message.isTool).length_le
  opens := take_while_ends Message.isTool messages
  grown less := absurd less (Nat.not_lt_zero _)
  shrunk _ := ⟨0, Nat.le_refl 0, fun _ _ next => absurd next (Nat.succ_ne_zero _),
    fun place bound _ early => take_while_holds Message.isTool messages place early bound⟩

theorem covering_window (count : Nat) (covers : count = 0 ∨ messages.length ≤ count) :
    recentWindowStart messages count = (messages.takeWhile Message.isTool).length := by
  have bounded := window_bounded messages count
  rw [count_start_covers messages count covers] at bounded
  exact boundary_unique bounded (boundary_behind_leading messages)

variable {σ : Type} (world : World σ)

-- All that can be summarized or dropped when all messages are wanted are results at the beginning.
structure Compactor.SparesAllBut (strays rest : List Message) (trace : List Event)
    (value : Except Error (List Message)) : Prop where
  kept : ∀ out, value = .ok out → out = strays ++ rest ∨ out = rest ∨
    ∃ stamp text, out = .summary stamp text :: rest
  sent : ∀ request ∈ requests trace, ∃ asked,
    request = Summary.request asked strays compactor.summaryMaxTokens

theorem cut_behind_strays (strays rest : List Message) (trace : List Event)
    (value : Except Error (List Message)) (whole : strays ++ rest = messages)
    (start : recentWindowStart messages compactor.recentMessageCount = strays.length)
    (compaction : compactor.Compaction systemPrompt messages trace value) :
    compactor.SparesAllBut strays rest trace value := by
  subst whole
  constructor
  · rintro out rfl
    rcases compaction_keeps compactor systemPrompt _ trace out compaction with
      rfl | ⟨cut, found, kept⟩
    · exact .inl rfl
    · rw [(cut_at_window compactor systemPrompt _ cut found).1, start, List.drop_left] at kept
      exact .inr kept
  · intro request member
    obtain ⟨cut, asked, found, rfl⟩ :=
      compaction_requests compactor systemPrompt _ trace value compaction request member
    refine ⟨asked, ?_⟩
    rw [Compactor.summaryRequest, (cut_at_window compactor systemPrompt _ cut found).1, start,
      List.take_left]

theorem covering_window_keeps_all (state : σ)
    (covers : compactor.recentMessageCount = 0 ∨ messages.length ≤ compactor.recentMessageCount) :
    ((∀ first ∈ messages.head?, first.isTool = false) →
      (world.run (compactor.compact systemPrompt messages) state).trace = [] ∧
        (world.run (compactor.compact systemPrompt messages) state).value = .ok messages) ∧
    compactor.SparesAllBut (messages.takeWhile Message.isTool)
      (messages.dropWhile Message.isTool)
      (world.run (compactor.compact systemPrompt messages) state).trace
      (world.run (compactor.compact systemPrompt messages) state).value := by
  have compaction := run_compact world compactor systemPrompt messages state
  constructor
  · intro head
    have whole := window_covers _ (count_start_covers messages _ covers) head
    exact uncut_compaction compactor systemPrompt messages _ _
      (uncut_whole_window compactor systemPrompt messages whole) compaction
  · exact cut_behind_strays compactor systemPrompt messages _ _ _ _
      List.takeWhile_append_dropWhile (covering_window messages _ covers) compaction

def keeping (count : Nat) : Compactor := { narrow with recentMessageCount := count }

theorem straddled_kept_without_stray :
    straddled.length ≤ (keeping 6).recentMessageCount ∧
      (scripted.run ((keeping 6).compact "" straddled.tail) {}).value = .ok straddled.tail ∧
      (keeping 6).SparesAllBut (straddled.take 1) straddled.tail
        (scripted.run ((keeping 6).compact "" straddled) {}).trace (.ok straddled.tail) := by
  have covers : straddled.length ≤ (keeping 6).recentMessageCount := by decide
  have fewer : straddled.tail.length ≤ (keeping 6).recentMessageCount := by decide
  have head : ∀ first ∈ straddled.tail.head?, first.isTool = false := by decide
  exact ⟨covers,
    ((covering_window_keeps_all (keeping 6) "" _ scripted {} (.inr fewer)).1 head).2,
    (covering_window_keeps_all (keeping 6) "" _ scripted {} (.inr covers)).2⟩

def strayFirst : List Message := straddled.take 2

theorem stray_result_not_kept :
    strayFirst.length = 2 ∧ strayFirst.tail ≠ strayFirst ∧
      (scripted.run ((keeping 2).compact "" strayFirst) {}).value = .ok strayFirst.tail ∧
      (requests (scripted.run ((keeping 2).compact "" strayFirst) {}).trace).length = 1 ∧
      (scripted.run ((keeping 0).compact "" strayFirst) {}).value = .ok strayFirst.tail ∧
      (requests (scripted.run ((keeping 0).compact "" strayFirst) {}).trace).length = 1 :=
  ⟨rfl, by decide, rfl, rfl, rfl, rfl⟩

theorem issued_in_valid (valid : ProtocolValid messages) (first : Nat)
    (bound : first < messages.length) (result : messages[first].isTool = true) :
    ¬ Unissued messages first := by
  intro unissued
  cases first with
  | zero =>
      cases messages with
      | nil => cases bound
      | cons head rest =>
          have orphans := valid.noOrphans
          rw [Blocks.of_messages_tool head rest result] at orphans
          cases orphans
  | succ issuer =>
      obtain ⟨untool, noCalls⟩ := unissued issuer (by omega) rfl
      have split : messages.take issuer ++ messages[issuer] :: messages.drop (issuer + 1) =
          messages := by rw [← List.drop_eq_getElem_cons, List.take_append_drop]
      have heads := Blocks.block_at (messages.take issuer) (messages.drop (issuer + 1))
        messages[issuer] untool
      rw [split] at heads
      have inRun : messages[issuer + 1] ∈
          (messages.drop (issuer + 1)).takeWhile Message.isTool := by
        rw [List.drop_eq_getElem_cons bound, List.takeWhile_cons_of_pos result]
        exact List.mem_cons_self
      obtain ⟨call, issued, _⟩ := (valid.blocksValid _ heads).answers _ inRun
      simp [Message.hasToolCalls, List.ne_nil_of_mem issued] at noCalls

theorem valid_window_grows (valid : ProtocolValid messages) (count : Nat) :
    recentWindowStart messages count ≤ countStart messages count := by
  have bounded := window_bounded messages count
  by_contra later
  obtain ⟨first, upto, unissued, run⟩ := bounded.shrunk (by omega)
  have within := bounded.within
  exact issued_in_valid messages valid first (by omega) (run first _ (Nat.le_refl first) (by omega))
    unissued

theorem valid_drop (valid : ProtocolValid messages) (start : Nat)
    (opens : ∀ bound : start < messages.length, messages[start].isTool = false) :
    ProtocolValid (messages.drop start) := by
  have headed : OpensBlock (messages.drop start) := by
    intro first head
    rw [List.head?_drop] at head
    obtain ⟨bound, rfl⟩ := List.getElem?_eq_some_iff.mp head
    exact opens bound
  rw [← List.take_append_drop start messages] at valid
  exact valid_behind _ _ headed valid

structure Compactor.KeepsRecent (out : List Message) : Prop where
  valid : sanitize out = ⟨out, false⟩
  recent : ∃ recent, recent <:+ messages ∧
    min compactor.recentMessageCount messages.length ≤ recent.length ∧
    (out = messages ∨ out = recent ∨ ∃ stamp text, out = .summary stamp text :: recent)

theorem valid_compaction (valid : ProtocolValid messages) (trace : List Event)
    (out : List Message)
    (compaction : compactor.Compaction systemPrompt messages trace (.ok out)) :
    compactor.KeepsRecent messages out := by
  rcases compaction_keeps compactor systemPrompt messages trace out compaction with
    rfl | ⟨start, cut, kept⟩
  · exact ⟨sanitize_of_valid out valid, out, List.suffix_refl out, by omega, .inl rfl⟩
  · obtain ⟨rfl, _⟩ := cut_at_window compactor systemPrompt messages start cut
    have grows := valid_window_grows messages valid compactor.recentMessageCount
    have still := valid_drop messages valid _
      (window_bounded messages compactor.recentMessageCount).opens
    refine ⟨sanitize_of_valid out ?_, _, List.drop_suffix _ _, ?_, .inr kept⟩
    · rcases kept with rfl | ⟨stamp, text, rfl⟩
      · exact still
      · exact valid_append [_] _ (valid_plain _ rfl rfl) still
    · rw [countStart] at grows
      rw [List.length_drop]
      split at grows <;> omega

end Dialogue
