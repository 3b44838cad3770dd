import Dialogue.History.Sanitize
import Mathlib.Data.List.Basic

set_option autoImplicit false

namespace Dialogue

namespace Block

def callPosition (block : Block) (result : Message) : Nat :=
  block.head.issuedCalls.findIdx fun call => result.toolCallId = some call.id

structure Valid (block : Block) : Prop where
  answers : ∀ result ∈ block.results, ∃ call ∈ block.head.issuedCalls,
    result.toolCallId = some call.id
  identified : ∀ call ∈ block.head.issuedCalls, Text.isBlank call.id = false
  distinct : (block.head.issuedCalls.map ToolCall.id).Nodup
  answered : ∀ call ∈ block.head.issuedCalls, ∃ result ∈ block.results,
    result.toolCallId = some call.id
  inCallOrder : block.results.Pairwise fun earlier later =>
    block.callPosition earlier ≤ block.callPosition later

end Block

-- Tool results stand only in blocks, and each block is valid.
structure ProtocolValid (messages : List Message) : Prop where
  noOrphans : (Blocks.ofMessages messages).orphans = []
  blocksValid : ∀ block ∈ (Blocks.ofMessages messages).blocks, block.Valid

theorem answered_by_iff (call : ToolCall) (result : Message) :
    call.answeredBy result = true ↔
      result.toolCallId = some call.id ∧ Text.isBlank call.id = false := by
  simp [ToolCall.answeredBy, Message.answeredCallId, Option.filter_eq_some_iff]

theorem answered_by_same {call other : ToolCall} {result : Message}
    (one : call.answeredBy result = true) (two : other.answeredBy result = true) :
    call.id = other.id :=
  Option.some.inj
    (((answered_by_iff call result).mp one).1.symm.trans ((answered_by_iff other result).mp two).1)

theorem first_calls_unseen (seen : List String) (calls : List ToolCall) :
    ∀ call ∈ firstCalls seen calls, call.id ∉ seen := by
  induction calls generalizing seen with
  | nil => simp [firstCalls]
  | cons call rest ih =>
      by_cases known : call.id ∈ seen
      · rw [firstCalls, if_pos known]
        exact ih seen
      · rw [firstCalls, if_neg known]
        intro other member
        rcases List.mem_cons.mp member with same | later
        · exact same ▸ known
        · exact fun old => ih (call.id :: seen) other later (List.mem_cons_of_mem _ old)

theorem first_calls_distinct (seen : List String) (calls : List ToolCall) :
    ((firstCalls seen calls).map ToolCall.id).Nodup := by
  induction calls generalizing seen with
  | nil => exact List.nodup_nil
  | cons call rest ih =>
      by_cases known : call.id ∈ seen
      · rw [firstCalls, if_pos known]
        exact ih seen
      · rw [firstCalls, if_neg known, List.map_cons, List.nodup_cons]
        refine ⟨?_, ih (call.id :: seen)⟩
        intro again
        obtain ⟨other, later, same⟩ := List.mem_map.mp again
        exact first_calls_unseen _ rest other later (same ▸ List.mem_cons_self)

theorem first_calls_of_distinct (seen : List String) (calls : List ToolCall)
    (distinct : (calls.map ToolCall.id).Nodup) (unseen : ∀ call ∈ calls, call.id ∉ seen) :
    firstCalls seen calls = calls := by
  induction calls generalizing seen with
  | nil => rfl
  | cons call rest ih =>
      rw [List.map_cons, List.nodup_cons] at distinct
      rw [firstCalls, if_neg (unseen call List.mem_cons_self), ih _ distinct.2]
      intro other later known
      rcases List.mem_cons.mp known with same | old
      · exact distinct.1 (same ▸ List.mem_map_of_mem later)
      · exact unseen other (List.mem_cons_of_mem _ later) old

theorem filter_append_of_ordered {α : Type} (p : α → Bool) (items : List α)
    (ordered : items.Pairwise fun earlier later => p later = true → p earlier = true) :
    items.filter p ++ items.filter (fun item => !p item) = items := by
  induction items with
  | nil => rfl
  | cons item rest ih =>
      rw [List.pairwise_cons] at ordered
      by_cases holds : p item = true
      · simpa [holds] using ih ordered.2
      · have none : rest.filter p = [] := by
          rw [List.filter_eq_nil_iff]
          exact fun later member yes => holds (ordered.1 later member yes)
        have all : rest.filter (fun item => !p item) = rest := by
          rw [List.filter_eq_self]
          intro later member
          simpa using fun yes => holds (ordered.1 later member yes)
        simp [holds, none, all]

theorem grouped_of_ordered (calls : List ToolCall) (results : List Message)
    (identified : ∀ call ∈ calls, Text.isBlank call.id = false)
    (distinct : (calls.map ToolCall.id).Nodup)
    (answers : ∀ result ∈ results, ∃ call ∈ calls, result.toolCallId = some call.id)
    (ordered : results.Pairwise fun earlier later =>
      calls.findIdx (fun call => earlier.toolCallId = some call.id) ≤
        calls.findIdx (fun call => later.toolCallId = some call.id)) :
    calls.flatMap (fun call => results.filter call.answeredBy) = results := by
  -- The results of the first call come first; what is left answers the calls after it.
  induction calls generalizing results with
  | nil =>
      cases results with
      | nil => rfl
      | cons result rest =>
          obtain ⟨call, member, _⟩ := answers result List.mem_cons_self
          cases member
  | cons call rest ih =>
      have usable := identified call List.mem_cons_self
      rw [List.map_cons, List.nodup_cons] at distinct
      have first : results.Pairwise fun earlier later =>
          call.answeredBy later = true → call.answeredBy earlier = true := by
        refine ordered.imp ?_
        intro earlier later le answersFirst
        have same := ((answered_by_iff call later).mp answersFirst).1
        by_cases also : earlier.toolCallId = some call.id
        · exact (answered_by_iff call earlier).mpr ⟨also, usable⟩
        · simp [List.findIdx_cons, same, also] at le
      have others : ∀ other ∈ rest,
          results.filter other.answeredBy =
            (results.filter fun result => !call.answeredBy result).filter other.answeredBy := by
        intro other member
        rw [List.filter_filter]
        apply List.filter_congr
        intro result _
        by_cases answersOther : other.answeredBy result = true
        · have different : call.answeredBy result = false := by
            rw [Bool.eq_false_iff]
            intro answersFirst
            have same := answered_by_same answersOther answersFirst
            exact distinct.1 (same ▸ List.mem_map_of_mem member)
          simp [answersOther, different]
        · simp [answersOther]
      have left : rest.flatMap (fun other => results.filter other.answeredBy) =
          results.filter fun result => !call.answeredBy result := by
        rw [List.flatMap_congr others]
        apply ih _ (fun other member => identified other (List.mem_cons_of_mem _ member)) distinct.2
        · intro result member
          rw [List.mem_filter] at member
          obtain ⟨other, found, same⟩ := answers result member.1
          rcases List.mem_cons.mp found with atHead | later
          · simp [(answered_by_iff call result).mpr ⟨atHead ▸ same, usable⟩] at member
          · exact ⟨other, later, same⟩
        · refine (ordered.filter _).imp_of_mem ?_
          intro earlier later earlierLeft laterLeft le
          have skips : ∀ result ∈ results.filter fun result => !call.answeredBy result,
              result.toolCallId ≠ some call.id := by
            intro result member same
            simp [(answered_by_iff call result).mpr ⟨same, usable⟩] at member
          simpa [List.findIdx_cons, skips earlier earlierLeft, skips later laterLeft] using le
      rw [List.flatMap_cons, left]
      exact filter_append_of_ordered _ results first

theorem call_position_of_answer (calls : List ToolCall) (distinct : (calls.map ToolCall.id).Nodup)
    (place : Nat) (bound : place < calls.length) (result : Message)
    (same : result.toolCallId = some calls[place].id) :
    calls.findIdx (fun call => result.toolCallId = some call.id) = place := by
  rw [List.findIdx_eq bound]
  refine ⟨by simpa using same, ?_⟩
  intro before less
  have apart := List.pairwise_iff_getElem.mp distinct before place
    (by rw [List.length_map]; omega) (by rw [List.length_map]; omega) less
  simp only [List.getElem_map] at apart
  simpa [same] using fun equal => apart equal.symm

namespace Block

theorem issued_calls_of_assistant (message : Message) (assistant : message.role = .assistant) :
    message.issuedCalls = message.toolCalls := by
  rw [Message.issuedCalls, if_pos assistant]

theorem issued_calls_of_other (message : Message) (other : message.role ≠ .assistant) :
    message.issuedCalls = [] := by
  rw [Message.issuedCalls, if_neg other]

theorem repair_of_assistant (block : Block) (assistant : block.head.role = .assistant) :
    block.repair =
      { block := ⟨{ block.head with toolCalls := block.answeredCalls }, block.groupedResults⟩
        changed := block.results.any block.isStray ||
          block.answeredCalls.length ≠ block.head.toolCalls.length } := by
  rw [repair, if_pos assistant]

theorem repair_of_other (block : Block) (other : block.head.role ≠ .assistant) :
    block.repair = { block := ⟨block.head, []⟩, changed := !block.results.isEmpty } := by
  rw [repair, if_neg other]

theorem mem_answered_calls (block : Block) (call : ToolCall) :
    call ∈ block.answeredCalls ↔
      call ∈ firstCalls [] block.head.issuedCalls ∧
        ∃ result ∈ block.results, call.answeredBy result = true := by
  simp [answeredCalls]

theorem mem_grouped_results (block : Block) (result : Message) :
    result ∈ block.groupedResults ↔
      ∃ call ∈ block.answeredCalls, result ∈ block.results ∧ call.answeredBy result = true := by
  simp [groupedResults]

theorem answered_calls_distinct (block : Block) :
    (block.answeredCalls.map ToolCall.id).Nodup :=
  (first_calls_distinct [] block.head.issuedCalls).sublist (List.filter_sublist.map _)

theorem grouped_results_ordered (block : Block) :
    block.groupedResults.Pairwise fun earlier later =>
      block.answeredCalls.findIdx (fun call => earlier.toolCallId = some call.id) ≤
        block.answeredCalls.findIdx (fun call => later.toolCallId = some call.id) := by
  have position : ∀ (place : Nat) (bound : place < block.answeredCalls.length) (result : Message),
      result ∈ block.results.filter block.answeredCalls[place].answeredBy →
        block.answeredCalls.findIdx (fun call => result.toolCallId = some call.id) = place := by
    intro place bound result member
    have same := ((answered_by_iff _ _).mp (List.mem_filter.mp member).2).1
    exact call_position_of_answer _ block.answered_calls_distinct place bound result same
  rw [groupedResults, List.pairwise_flatMap]
  constructor
  · intro call member
    obtain ⟨place, bound, rfl⟩ := List.getElem_of_mem member
    apply List.pairwise_of_forall_mem_list
    intro earlier earlierIn later laterIn
    exact Nat.le_of_eq ((position place bound earlier earlierIn).trans
      (position place bound later laterIn).symm)
  · rw [List.pairwise_iff_getElem]
    intro first second firstBound secondBound less earlier earlierIn later laterIn
    rw [position first firstBound earlier earlierIn, position second secondBound later laterIn]
    exact Nat.le_of_lt less

theorem repaired_valid (block : Block) : block.repair.block.Valid := by
  by_cases assistant : block.head.role = .assistant
  · have issued : block.repair.block.head.issuedCalls = block.answeredCalls := by
      rw [repair_of_assistant block assistant]
      exact issued_calls_of_assistant _ assistant
    have results : block.repair.block.results = block.groupedResults := by
      rw [repair_of_assistant block assistant]
    refine ⟨?_, ?_, ?_, ?_, ?_⟩
    · intro result member
      rw [results, mem_grouped_results] at member
      obtain ⟨call, kept, _, answers⟩ := member
      exact ⟨call, issued ▸ kept, ((answered_by_iff call result).mp answers).1⟩
    · intro call kept
      rw [issued, mem_answered_calls] at kept
      obtain ⟨_, result, _, answers⟩ := kept
      exact ((answered_by_iff call result).mp answers).2
    · rw [issued]
      exact block.answered_calls_distinct
    · intro call kept
      rw [issued] at kept
      obtain ⟨_, result, member, answers⟩ := (mem_answered_calls block call).mp kept
      refine ⟨result, ?_, ((answered_by_iff call result).mp answers).1⟩
      rw [results, mem_grouped_results]
      exact ⟨call, kept, member, answers⟩
    · simp only [callPosition, issued, results]
      exact block.grouped_results_ordered
  · have issued : block.repair.block.head.issuedCalls = [] := by
      rw [repair_of_other block assistant]
      exact issued_calls_of_other _ assistant
    have results : block.repair.block.results = [] := by
      rw [repair_of_other block assistant]
    exact ⟨by simp [results], by simp [issued], by simp [issued], by simp [issued],
      by simp [results]⟩

theorem repair_of_valid (block : Block) (valid : block.Valid) : block.repair = ⟨block, false⟩ := by
  by_cases assistant : block.head.role = .assistant
  · have issued := issued_calls_of_assistant block.head assistant
    have allFirst := first_calls_of_distinct [] block.head.issuedCalls valid.distinct (by simp)
    have kept : block.answeredCalls = block.head.issuedCalls := by
      rw [answeredCalls, allFirst, List.filter_eq_self]
      intro call member
      obtain ⟨result, found, same⟩ := valid.answered call member
      rw [List.any_eq_true]
      exact ⟨result, found, (answered_by_iff call result).mpr ⟨same, valid.identified call member⟩⟩
    have grouped : block.groupedResults = block.results := by
      rw [groupedResults, kept]
      exact grouped_of_ordered _ _ valid.identified valid.distinct valid.answers valid.inCallOrder
    have noStray : block.results.any block.isStray = false := by
      rw [List.any_eq_false]
      intro result member
      obtain ⟨call, found, same⟩ := valid.answers result member
      have answers := (answered_by_iff call result).mpr ⟨same, valid.identified call found⟩
      simpa [isStray] using ⟨call, found, answers⟩
    rw [repair_of_assistant block assistant, noStray, grouped, kept, issued]
    simp
  · have empty : block.results = [] := by
      cases found : block.results with
      | nil => rfl
      | cons result rest =>
          obtain ⟨call, member, _⟩ := valid.answers result (found ▸ List.mem_cons_self)
          rw [issued_calls_of_other _ assistant] at member
          cases member
    obtain ⟨head, results⟩ := block
    cases empty
    exact repair_of_other _ assistant

end Block

end Dialogue
