import Dialogue.Proofs.Context.Fallback
import Dialogue.Proofs.History.Window

set_option autoImplicit false

namespace Dialogue

-- A window that is cut nowhere, alone or behind another message.
structure Settled (window : List Message) (count : Nat) : Prop where
  alone : recentWindowStart window count = 0
  behind : ∀ made : Message, made.isTool = false → recentWindowStart (made :: window) count ≤ 1

theorem count_start_drop (messages : List Message) (count dropped : Nat) :
    countStart (messages.drop dropped) count = countStart messages count - dropped := by
  rw [countStart, countStart, List.length_drop]
  split <;> omega

theorem count_start_behind (made : Message) (window : List Message) (count : Nat) :
    countStart (made :: window) count = 0 ∨
      countStart (made :: window) count = countStart window count + 1 := by
  rw [countStart, countStart, List.length_cons]
  split
  · exact .inl rfl
  · omega

theorem boundary_drop {messages : List Message} {start boundary : Nat}
    (bounded : WindowBoundary messages start boundary) :
    WindowBoundary (messages.drop boundary) (start - boundary) 0 where
  within := Nat.zero_le _
  opens := by
    intro bound
    rw [List.length_drop] at bound
    rw [List.getElem_drop]
    exact bounded.opens (by omega)
  grown := by
    intro less
    obtain ⟨inside, calls, results⟩ := bounded.grown (by omega)
    refine ⟨by rw [List.length_drop]; omega, ?_, ?_⟩
    · intro _
      rw [List.getElem_drop]
      exact calls (by omega)
    · intro place bound after upto
      rw [List.length_drop] at bound
      rw [List.getElem_drop]
      exact results (boundary + place) (by omega) (by omega) (by omega)
  shrunk less := absurd less (Nat.not_lt_zero _)

theorem boundary_behind (made : Message) {window : List Message} {start : Nat}
    (bounded : WindowBoundary window start 0) :
    WindowBoundary (made :: window) (start + 1) 1 where
  within := Nat.succ_le_succ (Nat.zero_le _)
  opens bound := bounded.opens (Nat.lt_of_succ_lt_succ bound)
  grown := by
    intro less
    obtain ⟨inside, calls, results⟩ := bounded.grown (Nat.lt_of_succ_lt_succ less)
    refine ⟨Nat.succ_lt_succ inside, fun bound => calls (Nat.lt_of_succ_lt_succ bound), ?_⟩
    intro place bound after upto
    obtain ⟨earlier, rfl⟩ := Nat.exists_eq_add_of_lt (Nat.lt_of_succ_lt after)
    rw [List.getElem_cons_succ]
    exact results _ _ (by omega) (by omega)
  shrunk less := absurd less (by omega)

theorem window_settled (messages : List Message) (count : Nat) :
    Settled (messages.drop (recentWindowStart messages count)) count := by
  have bounded := boundary_drop (window_bounded messages count)
  rw [← count_start_drop] at bounded
  generalize messages.drop (recentWindowStart messages count) = window at bounded
  refine ⟨boundary_unique (window_bounded window count) bounded, fun made untool => ?_⟩
  rcases count_start_behind made window count with whole | counted
  · have covers := window_covers count whole (by simpa using untool)
    omega
  · have behind := window_bounded (made :: window) count
    rw [counted] at behind
    exact Nat.le_of_eq (boundary_unique behind (boundary_behind made bounded))

def Compactor.window (compactor : Compactor) (messages : List Message) : List Message :=
  messages.drop (recentWindowStart messages compactor.recentMessageCount)

def windowOnly : Event :=
  ⟨.log ⟨.warning, "Summarization failed, keeping only the recent window"⟩, ()⟩

variable (compactor : Compactor) (systemPrompt : String)

theorem settled_alone (window : List Message) (trace : List Event)
    (value : Except Error (List Message)) (settled : Settled window compactor.recentMessageCount)
    (compaction : compactor.Compaction systemPrompt window trace value) :
    trace = [] ∧ value = .ok window :=
  uncut_compaction compactor systemPrompt window trace value
    (uncut_whole_window compactor systemPrompt window settled.alone) compaction

theorem settled_behind (made : Message) (window : List Message) (trace : List Event)
    (value : Except Error (List Message)) (untool : made.isTool = false)
    (settled : Settled window compactor.recentMessageCount)
    (compaction : compactor.Compaction systemPrompt (made :: window) trace value) :
    (∀ request ∈ requests trace, ∃ asked,
      request = Summary.request asked [made] compactor.summaryMaxTokens) ∧
    ∀ again, value = .ok again → again = made :: window ∨ again = window ∨
      ∃ summary, summary.isSummary = true ∧ again = summary :: window := by
  have between : ∀ start, compactor.cut? systemPrompt (made :: window) = some start →
      start = 1 := by
    intro start cut
    obtain ⟨rfl, positive⟩ := cut_at_window compactor systemPrompt _ start cut
    have before := settled.behind made untool
    omega
  constructor
  · intro request member
    obtain ⟨start, asked, cut, rfl⟩ :=
      compaction_requests compactor systemPrompt _ trace value compaction request member
    cases between start cut
    exact ⟨asked, rfl⟩
  · rintro again rfl
    rcases compaction_keeps compactor systemPrompt _ trace again compaction with
      rfl | ⟨start, cut, kept⟩
    · exact .inl rfl
    · cases between start cut
      rcases kept with rfl | ⟨stamp, text, rfl⟩
      · exact .inr (.inl rfl)
      · exact .inr (.inr ⟨_, rfl, rfl⟩)

-- What a compaction of `out` comes to, when `out` was left by a compaction of `messages`. An event
-- of the first one says whether it summarized the older messages or dropped them.
structure Compactor.Recompaction (messages out : List Message) (first second : List Event)
    (value : Except Error (List Message)) : Prop where
  untouched : first = [] → out = messages ∧ second = [] ∧ value = .ok out
  fellBack : windowOnly ∈ first →
    out = compactor.window messages ∧ second = [] ∧ value = .ok out
  summarized : first ≠ [] → windowOnly ∉ first → ∃ summary, summary.isSummary = true ∧
    out = summary :: compactor.window messages ∧
    (∀ request ∈ requests second, ∃ asked,
      request = Summary.request asked [summary] compactor.summaryMaxTokens) ∧
    ∀ again, value = .ok again → again = out ∨ again = compactor.window messages ∨
      ∃ other, other.isSummary = true ∧ again = other :: compactor.window messages

variable {σ τ : Type} (world : World σ) (later : World τ)

theorem recompaction_keeps_window (messages out : List Message) (state : σ) (after : τ)
    (compacted : (world.run (compactor.compact systemPrompt messages) state).value = .ok out) :
    compactor.Recompaction messages out
      (world.run (compactor.compact systemPrompt messages) state).trace
      (later.run (compactor.compact systemPrompt out) after).trace
      (later.run (compactor.compact systemPrompt out) after).value := by
  have first := run_compact world compactor systemPrompt messages state
  have second := run_compact later compactor systemPrompt out after
  have settled := window_settled messages compactor.recentMessageCount
  rw [compacted] at first
  generalize (world.run (compactor.compact systemPrompt messages) state).trace = trace at first
  cases first with
  | untouched within =>
      refine ⟨fun _ => ⟨rfl, ?_⟩, by simp, by simp⟩
      exact uncut_compaction compactor systemPrompt messages _ _ within second
  | @summarized start asked made response cut told =>
      obtain ⟨rfl, _⟩ := cut_at_window compactor systemPrompt messages start cut
      refine ⟨by simp, by simp [windowOnly, Compactor.summaryReply], fun _ _ => ?_⟩
      exact ⟨_, rfl, rfl, settled_behind compactor systemPrompt _ _ _ _ rfl settled second⟩
  | @dropped start asked reply e cut failed other =>
      obtain ⟨rfl, _⟩ := cut_at_window compactor systemPrompt messages start cut
      refine ⟨by simp, fun _ => ⟨rfl, ?_⟩, by simp [windowOnly]⟩
      exact settled_alone compactor systemPrompt _ _ _ settled second

def turnLast : List Message := straddled.take 5

def summarizing (summary : String) : Script where
  replies := [.ok (.ofText summary)]

theorem grown_window_stays :
    (scripted.run (narrow.compact "" turnLast) (summarizing "so far")).value =
        .ok (.summary ⟨"message", .epoch⟩ "so far" :: turnLast.drop 2) ∧
      narrow.Recompaction turnLast (.summary ⟨"message", .epoch⟩ "so far" :: turnLast.drop 2)
        (scripted.run (narrow.compact "" turnLast) (summarizing "so far")).trace
        (scripted.run (narrow.compact "" (.summary ⟨"message", .epoch⟩ "so far" ::
          turnLast.drop 2)) (summarizing "again")).trace
        (.ok (.summary ⟨"message", .epoch⟩ "again" :: turnLast.drop 2)) := by
  have compacted : (scripted.run (narrow.compact "" turnLast) (summarizing "so far")).value =
      .ok (.summary ⟨"message", .epoch⟩ "so far" :: turnLast.drop 2) := rfl
  exact ⟨compacted, recompaction_keeps_window narrow "" scripted scripted turnLast _
    (summarizing "so far") (summarizing "again") compacted⟩

end Dialogue
