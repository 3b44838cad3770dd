import Dialogue.History.Window
import Mathlib.Data.List.TakeWhile

set_option autoImplicit false

namespace Dialogue

def Unissued (messages : List Message) (first : Nat) : Prop :=
  ∀ place (bound : place < messages.length), place + 1 = first →
    messages[place].isTool = false ∧ messages[place].hasToolCalls = false

structure WindowBoundary (messages : List Message) (start boundary : Nat) : Prop where
  within : boundary ≤ messages.length
  opens : ∀ bound : boundary < messages.length, messages[boundary].isTool = false
  -- The window grows back to the message whose calls the results at its start answer.
  grown : boundary < start → start < messages.length ∧
    (∀ bound : boundary < messages.length, messages[boundary].hasToolCalls = true) ∧
    ∀ place (bound : place < messages.length), boundary < place → place ≤ start →
      messages[place].isTool = true
  -- It shrinks past results that no message issued.
  shrunk : start < boundary → ∃ first ≤ start, Unissued messages first ∧
    ∀ place (bound : place < messages.length), first ≤ place → place < boundary →
      messages[place].isTool = true

def SplitsNoTurn (messages : List Message) (boundary : Nat) : Prop :=
  ∀ issuer last, issuer < boundary → issuer < last → last < messages.length →
    (∀ place (bound : place < messages.length), issuer < place → place ≤ last →
      messages[place].isTool = true) →
    last < boundary

section Runs

variable {α : Type} (p : α → Bool) (items : List α)

theorem take_while_length : (items.takeWhile p).length = items.findIdx fun item => !p item := by
  rw [List.takeWhile_eq_take_findIdx_not, List.length_take]
  exact Nat.min_eq_left List.findIdx_le_length

theorem take_while_holds (place : Nat) (early : place < (items.takeWhile p).length)
    (bound : place < items.length) : p items[place] = true := by
  rw [take_while_length] at early
  simpa using List.not_of_lt_findIdx early

theorem take_while_ends (bound : (items.takeWhile p).length < items.length) :
    p items[(items.takeWhile p).length] = false := by
  have found : items.findIdx (fun item => !p item) < items.length :=
    take_while_length p items ▸ bound
  simpa [take_while_length] using List.findIdx_getElem (w := found)

theorem drop_while_head : (items.dropWhile p).head? = items[(items.takeWhile p).length]? := by
  rw [take_while_length, List.dropWhile_eq_drop_findIdx_not, List.head?_drop]

end Runs

variable (messages : List Message) (start : Nat)

theorem results_from_within (within : start ≤ messages.length) :
    start + resultsFrom messages start ≤ messages.length := by
  have bound := (List.takeWhile_prefix Message.isTool (l := messages.drop start)).length_le
  rw [List.length_drop] at bound
  rw [resultsFrom]
  omega

theorem results_from_tool (place : Nat) (bound : place < messages.length) (first : start ≤ place)
    (last : place < start + resultsFrom messages start) : messages[place].isTool = true := by
  obtain ⟨offset, rfl⟩ := Nat.exists_eq_add_of_le first
  rw [resultsFrom] at last
  have tool := take_while_holds Message.isTool (messages.drop start) offset (by omega)
    (by rw [List.length_drop]; omega)
  rwa [List.getElem_drop] at tool

theorem results_from_end (bound : start + resultsFrom messages start < messages.length) :
    messages[start + resultsFrom messages start].isTool = false := by
  have ends := take_while_ends Message.isTool (messages.drop start)
    (by rw [List.length_drop, ← resultsFrom]; omega)
  rwa [List.getElem_drop] at ends

theorem reverse_take_get (within : start ≤ messages.length) (offset : Nat) (early : offset < start) :
    (messages.take start).reverse[offset]? = messages[start - 1 - offset]? := by
  rw [List.getElem?_reverse (by rw [List.length_take]; omega), List.length_take,
    Nat.min_eq_left within, List.getElem?_take_of_lt (by omega)]

theorem results_before_within : resultsBefore messages start ≤ start := by
  have bound := (List.takeWhile_prefix Message.isTool (l := (messages.take start).reverse)).length_le
  rw [List.length_reverse, List.length_take] at bound
  rw [resultsBefore]
  omega

theorem results_before_tool (within : start ≤ messages.length) (place : Nat)
    (bound : place < messages.length) (first : start ≤ place + resultsBefore messages start)
    (last : place < start) : messages[place].isTool = true := by
  have early : start - 1 - place < resultsBefore messages start := by omega
  have length : (messages.take start).reverse.length = start := by
    rw [List.length_reverse, List.length_take]
    omega
  have tool := take_while_holds Message.isTool (messages.take start).reverse (start - 1 - place)
    early (by omega)
  have same := reverse_take_get messages start within (start - 1 - place) (by omega)
  rw [List.getElem?_eq_getElem (by omega), List.getElem?_eq_getElem (by omega)] at same
  rw [Option.some.inj same] at tool
  have placed : start - 1 - (start - 1 - place) = place := by omega
  simpa only [placed] using tool

theorem issuer_before (within : start ≤ messages.length) :
    issuerBefore? messages start =
      if resultsBefore messages start < start then
        messages[start - resultsBefore messages start - 1]?
      else none := by
  rw [issuerBefore?, drop_while_head, ← resultsBefore]
  split
  · rename_i early
    rw [reverse_take_get messages start within _ early, Nat.sub_right_comm]
  · rename_i late
    rw [List.getElem?_eq_none]
    rw [List.length_reverse, List.length_take]
    omega

theorem issuer_no_result (issuer : Message)
    (issued : issuerBefore? messages start = some issuer) : issuer.isTool = false := by
  rw [issuerBefore?] at issued
  have stops := List.head?_dropWhile_not Message.isTool (messages.take start).reverse
  rw [issued] at stops
  simpa using stops

theorem count_start_within (count : Nat) : countStart messages count ≤ messages.length := by
  rw [countStart]
  split <;> omega

theorem count_start_positive (count : Nat) (positive : 0 < count) :
    countStart messages count = messages.length - count := by
  rw [countStart, if_neg (by omega)]

variable {messages start}

theorem boundary_at_start (untouched : resultsFrom messages start = 0)
    (within : start ≤ messages.length) : WindowBoundary messages start start where
  within := within
  opens := by
    intro bound
    have ends := results_from_end messages start (by rw [untouched]; exact bound)
    simpa only [untouched, Nat.add_zero] using ends
  grown less := absurd less (Nat.lt_irrefl start)
  shrunk less := absurd less (Nat.lt_irrefl start)

theorem boundary_at_issuer (issuer : Message) (within : start ≤ messages.length)
    (inside : 0 < resultsFrom messages start)
    (issued : issuerBefore? messages start = some issuer) (calls : issuer.hasToolCalls = true) :
    WindowBoundary messages start (start - resultsBefore messages start - 1) := by
  have room := results_from_within messages start within
  have untool := issuer_no_result messages start issuer issued
  rw [issuer_before messages start within] at issued
  split at issued
  · rename_i early
    obtain ⟨bound, found⟩ := List.getElem?_eq_some_iff.mp issued
    constructor
    · omega
    · intro _
      rw [found, untool]
    · refine fun _ => ⟨by omega, fun _ => by rw [found, calls], ?_⟩
      intro place placed after upto
      by_cases before : place < start
      · exact results_before_tool messages start within place placed (by omega) before
      · exact results_from_tool messages start place placed (by omega) (by omega)
    · omega
  · cases issued

theorem boundary_behind_run (within : start ≤ messages.length)
    (inside : 0 < resultsFrom messages start)
    (unissued : ∀ issuer, issuerBefore? messages start = some issuer →
      issuer.hasToolCalls = false) :
    WindowBoundary messages start (start + resultsFrom messages start) := by
  have room := results_from_within messages start within
  have before := results_before_within messages start
  constructor
  · exact room
  · exact results_from_end messages start
  · omega
  · refine fun _ => ⟨start - resultsBefore messages start, Nat.sub_le _ _, ?_, ?_⟩
    · intro place bound next
      have issued := issuer_before messages start within
      rw [if_pos (by omega), show start - resultsBefore messages start - 1 = place by omega,
        List.getElem?_eq_getElem bound] at issued
      exact ⟨issuer_no_result messages start _ issued, unissued _ issued⟩
    · intro place bound first last
      by_cases earlier : place < start
      · exact results_before_tool messages start within place bound (by omega) earlier
      · exact results_from_tool messages start place bound (by omega) last

theorem window_bounded (messages : List Message) (count : Nat) :
    WindowBoundary messages (countStart messages count) (recentWindowStart messages count) := by
  have within := count_start_within messages count
  rw [recentWindowStart]
  generalize countStart messages count = start at within
  split
  · rename_i untouched
    exact boundary_at_start untouched within
  · rename_i inside
    have inside := Nat.pos_of_ne_zero inside
    split
    · rename_i issuer issued
      split
      · rename_i calls
        exact boundary_at_issuer issuer within inside issued calls
      · rename_i noCalls
        refine boundary_behind_run within inside fun other same => ?_
        rw [issued] at same
        cases same
        simpa using noCalls
    · rename_i none
      refine boundary_behind_run within inside fun other same => ?_
      rw [none] at same
      cases same

-- An earlier start never leads to a later boundary. So the boundary of a start is the only one.
theorem boundaries_ordered {first second earlier later : Nat}
    (one : WindowBoundary messages first earlier) (two : WindowBoundary messages second later)
    (ordered : first ≤ second) : earlier ≤ later := by
  by_contra past
  have crossed : later < earlier := Nat.lt_of_not_le past
  have bound : later < messages.length := Nat.lt_of_lt_of_le crossed one.within
  have untool := two.opens bound
  by_cases ahead : later < first
  · -- The second window grew back over the first start, so that lies in the results of its issuer.
    obtain ⟨inside, calls, results⟩ := two.grown (by omega)
    have shrinks : first < earlier := by
      by_contra kept
      have opens := one.opens (by omega)
      rw [results earlier (by omega) crossed (by omega)] at opens
      cases opens
    obtain ⟨begins, upto, unissued, run⟩ := one.shrunk shrinks
    have apart : later < begins := by
      by_contra covered
      rw [run later bound (by omega) crossed] at untool
      cases untool
    obtain ⟨noResult, noCalls⟩ := unissued (begins - 1) (by omega) (by omega)
    by_cases next : later = begins - 1
    · subst next
      rw [calls (by omega)] at noCalls
      cases noCalls
    · rw [results (begins - 1) (by omega) (by omega) (by omega)] at noResult
      cases noResult
  · -- The first window shrank past the second boundary, which is no result.
    obtain ⟨begins, upto, unissued, run⟩ := one.shrunk (by omega)
    rw [run later bound (by omega) crossed] at untool
    cases untool

theorem boundary_unique {first second : Nat} (one : WindowBoundary messages start first)
    (two : WindowBoundary messages start second) : first = second :=
  Nat.le_antisymm (boundaries_ordered one two (Nat.le_refl start))
    (boundaries_ordered two one (Nat.le_refl start))

theorem boundary_splits_no_turn {boundary : Nat} (bounded : WindowBoundary messages start boundary) :
    SplitsNoTurn messages boundary := by
  intro issuer last before after bound results
  by_contra behind
  have opens := bounded.opens (by omega)
  rw [results boundary (by omega) (by omega) (by omega)] at opens
  cases opens

theorem boundary_at_head (head : ∀ first ∈ messages.head?, first.isTool = false) :
    WindowBoundary messages 0 0 where
  within := Nat.zero_le _
  opens bound := head _ (by rw [List.head?_eq_getElem?, List.getElem?_eq_getElem bound]; rfl)
  grown less := absurd less (Nat.lt_irrefl 0)
  shrunk less := absurd less (Nat.lt_irrefl 0)

theorem window_covers (count : Nat) (covers : countStart messages count = 0)
    (head : ∀ first ∈ messages.head?, first.isTool = false) : recentWindowStart messages count = 0 :=
  boundary_unique (covers ▸ window_bounded messages count) (boundary_at_head head)

-- Where the window begins says which messages a compaction keeps and which it summarizes.
theorem window_start_bounded (messages : List Message) (count : Nat) (positive : 0 < count) :
    WindowBoundary messages (messages.length - count) (recentWindowStart messages count) ∧
      SplitsNoTurn messages (recentWindowStart messages count) ∧
      ∀ more, count ≤ more → recentWindowStart messages more ≤ recentWindowStart messages count := by
  have bounded := window_bounded messages count
  have splits := boundary_splits_no_turn bounded
  rw [count_start_positive messages count positive] at bounded
  refine ⟨bounded, splits, fun more wanted => ?_⟩
  have wider := window_bounded messages more
  rw [count_start_positive messages more (by omega)] at wider
  exact boundaries_ordered wider bounded (by omega)

def straddled : List Message :=
  [.toolResult ⟨"0", .epoch⟩ "z" "stray", .user ⟨"1", .epoch⟩ "Read both.",
    .withToolCalls ⟨"2", .epoch⟩ "" [⟨"a", "read", ""⟩, ⟨"b", "read", ""⟩],
    .toolResult ⟨"3", .epoch⟩ "a" "one", .toolResult ⟨"4", .epoch⟩ "b" "two",
    .assistant ⟨"5", .epoch⟩ "Done."]

theorem straddled_window_grows :
    0 < 2 ∧ (List.range 8).map (recentWindowStart straddled) = [1, 5, 2, 2, 2, 1, 1, 1] ∧
      WindowBoundary straddled 4 2 ∧ SplitsNoTurn straddled 2 ∧
      ∀ more, 2 ≤ more → recentWindowStart straddled more ≤ 2 :=
  ⟨by decide, by decide, window_start_bounded straddled 2 (by decide)⟩

end Dialogue
