import Dialogue.Proofs.History.Stripped
import Mathlib.Data.List.Basic

set_option autoImplicit false

namespace Dialogue

def RunsTo (messages : List Message) (head place : Nat) : Prop :=
  head < place ∧ ∀ between, head < between → between ≤ place →
    ∃ result, messages[between]? = some result ∧ result.isTool = true

-- The result at `place` answers the call at `position` of the assistant message at `head`, the
-- nearest message before it that is no result. Of calls with one ID the first is answered.
structure AnswersAt (messages : List Message) (head place position : Nat) : Prop where
  nearest : RunsTo messages head place
  answers : ∃ issuer result id, messages[head]? = some issuer ∧ issuer.role = .assistant ∧
    messages[place]? = some result ∧ result.toolCallId = some id ∧ Text.isBlank id = false ∧
    issuer.toolCalls.findIdx? (fun call => call.id = id) = some position

-- The message at a place as repair leaves it. An assistant message has the calls left that are
-- answered, in their order, and all else stays.
inductive Left (messages : List Message) (place : Nat) : Message → Prop
  | whole (message : Message) (found : messages[place]? = some message)
      (other : message.role ≠ .assistant) : Left messages place message
  | answered (message : Message) (calls : List ToolCall) (positions : List Nat)
      (found : messages[place]? = some message) (assistant : message.role = .assistant)
      (ascending : positions.Pairwise (· < ·))
      (exactly : ∀ position, position ∈ positions ↔
        ∃ result, AnswersAt messages place result position)
      (kept : List.Forall₂ (fun position call => message.toolCalls[position]? = some call)
        positions calls) :
      Left messages place { message with toolCalls := calls }

def Earlier (messages : List Message) (head earlier later : Nat) : Prop :=
  ∃ first second, AnswersAt messages head earlier first ∧ AnswersAt messages head later second ∧
    (first < second ∨ first = second ∧ earlier < later)

-- The places that repair keeps: those of the messages that are no results, and behind each of
-- them the places of the results that answer it.
structure Keeps (messages : List Message) (heads : List Nat) (results : Nat → List Nat) :
    Prop where
  ascending : heads.Pairwise (· < ·)
  headed : ∀ place, place ∈ heads ↔ ∃ head, messages[place]? = some head ∧ head.isTool = false
  answering : ∀ head place,
    place ∈ results head ↔ ∃ position, AnswersAt messages head place position
  grouped : ∀ head, (results head).Pairwise (Earlier messages head)

section FirstCalls

theorem first_call_found (seen : List String) (calls : List ToolCall) :
    ∀ call ∈ firstCalls seen calls, calls.find? (fun other => other.id = call.id) = some call := by
  induction calls generalizing seen with
  | nil => simp [firstCalls]
  | cons first rest ih =>
      intro call member
      -- A call that is left has not been seen, so the search for its ID goes past the first call.
      have passes (seen : List String) (known : first.id ∈ seen)
          (later : call ∈ firstCalls seen rest) :
          (first :: rest).find? (fun other => other.id = call.id) = some call := by
        have different : first.id ≠ call.id :=
          fun same => first_calls_unseen seen rest call later (same ▸ known)
        rw [List.find?_cons_of_neg (by simpa using different)]
        exact ih seen call later
      by_cases known : first.id ∈ seen
      · rw [firstCalls, if_pos known] at member
        exact passes seen known member
      · rw [firstCalls, if_neg known] at member
        rcases List.mem_cons.mp member with same | later
        · rw [same, List.find?_cons_of_pos (by simp)]
        · exact passes (first.id :: seen) List.mem_cons_self later

theorem first_call_with_id (seen : List String) (calls : List ToolCall) (call : ToolCall)
    (member : call ∈ calls) (unseen : call.id ∉ seen) :
    ∃ kept ∈ firstCalls seen calls, kept.id = call.id := by
  induction calls generalizing seen with
  | nil => cases member
  | cons first rest ih =>
      by_cases same : first.id = call.id
      · rw [firstCalls, if_neg (same ▸ unseen)]
        exact ⟨first, List.mem_cons_self, same⟩
      · have later : call ∈ rest :=
          (List.mem_cons.mp member).resolve_left fun equal => same (equal ▸ rfl)
        by_cases known : first.id ∈ seen
        · rw [firstCalls, if_pos known]
          exact ih seen later unseen
        · have other : call.id ∉ first.id :: seen := by
            rw [List.mem_cons, not_or]
            exact ⟨fun equal => same equal.symm, unseen⟩
          obtain ⟨kept, found, keptSame⟩ := ih (first.id :: seen) later other
          rw [firstCalls, if_neg known]
          exact ⟨kept, List.mem_cons_of_mem _ found, keptSame⟩

theorem first_calls_ascend (seen : List String) (calls : List ToolCall) :
    (firstCalls seen calls).Pairwise fun earlier later =>
      calls.findIdx (fun call => call.id = earlier.id) <
        calls.findIdx (fun call => call.id = later.id) := by
  induction calls generalizing seen with
  | nil => exact List.Pairwise.nil
  | cons first rest ih =>
      have behind (seen : List String) (known : first.id ∈ seen) (call : ToolCall)
          (member : call ∈ firstCalls seen rest) :
          (first :: rest).findIdx (fun other => other.id = call.id) =
            rest.findIdx (fun other => other.id = call.id) + 1 := by
        have different : first.id ≠ call.id :=
          fun same => first_calls_unseen seen rest call member (same ▸ known)
        simp [List.findIdx_cons, different]
      have shifted (seen : List String) (known : first.id ∈ seen) :
          (firstCalls seen rest).Pairwise fun earlier later =>
            (first :: rest).findIdx (fun call => call.id = earlier.id) <
              (first :: rest).findIdx (fun call => call.id = later.id) := by
        refine (ih seen).imp_of_mem ?_
        intro earlier later earlierIn laterIn less
        rw [behind seen known earlier earlierIn, behind seen known later laterIn]
        exact Nat.succ_lt_succ less
      by_cases known : first.id ∈ seen
      · rw [firstCalls, if_pos known]
        exact shifted seen known
      · rw [firstCalls, if_neg known, List.pairwise_cons]
        refine ⟨?_, shifted (first.id :: seen) List.mem_cons_self⟩
        intro later laterIn
        have start : (first :: rest).findIdx (fun call => call.id = first.id) = 0 := by
          simp [List.findIdx_cons]
        rw [start, behind (first.id :: seen) List.mem_cons_self later laterIn]
        exact Nat.succ_pos _

theorem found_at_position (calls : List ToolCall) (call : ToolCall) (id : String)
    (found : calls.find? (fun other => other.id = id) = some call) :
    calls.findIdx? (fun other => other.id = id) = some (calls.findIdx fun other => other.id = id) ∧
      calls[calls.findIdx fun other => other.id = id]? = some call := by
  rw [List.find?_eq_bind_findIdx?_getElem?] at found
  cases position : calls.findIdx? (fun other => other.id = id) with
  | none => simp [position] at found
  | some place =>
      have same := (List.findIdx?_eq_some_iff_findIdx_eq.mp position).2
      rw [same]
      exact ⟨rfl, by simpa [position] using found⟩

end FirstCalls

section Places

theorem take_while_at {α : Type} (p : α → Bool) (items : List α) (place : Nat) (item : α) :
    (items.takeWhile p)[place]? = some item ↔
      items[place]? = some item ∧
        ∀ before ≤ place, ∃ other, items[before]? = some other ∧ p other = true := by
  induction items generalizing place with
  | nil => simp
  | cons first rest ih =>
      cases holds : p first with
      | false =>
          rw [List.takeWhile_cons_of_neg (by simp [holds])]
          constructor
          · simp
          · intro both
            obtain ⟨other, found, yes⟩ := both.2 0 (Nat.zero_le _)
            cases found
            simp [holds] at yes
      | true =>
          rw [List.takeWhile_cons_of_pos holds]
          cases place with
          | zero => simp [holds]
          | succ place =>
              rw [List.getElem?_cons_succ, List.getElem?_cons_succ, ih place]
              refine and_congr_right fun _ => ⟨fun all before le => ?_, fun all before le => ?_⟩
              · cases before with
                | zero => exact ⟨first, rfl, holds⟩
                | succ before => exact all before (Nat.le_of_succ_le_succ le)
              · exact all (before + 1) (Nat.succ_le_succ le)

structure BlockAt (messages : List Message) (head : Nat) (block : Block) : Prop where
  stands : messages[head]? = some block.head
  followed : block.results = (messages.drop (head + 1)).takeWhile Message.isTool

theorem result_place (messages : List Message) (head : Nat) (block : Block)
    (placed : BlockAt messages head block) (result : Message) (place : Nat) :
    (result, place) ∈ block.results.zipIdx (head + 1) ↔
      messages[place]? = some result ∧ RunsTo messages head place := by
  rw [List.mk_mem_zipIdx_iff_le_and_getElem?_sub, placed.followed, take_while_at]
  simp only [List.getElem?_drop]
  constructor
  · intro inside
    obtain ⟨bound, found, all⟩ := inside
    rw [Nat.add_sub_cancel' bound] at found
    refine ⟨found, bound, fun between above below => ?_⟩
    have tool := all (between - (head + 1)) (by omega)
    rwa [Nat.add_sub_cancel' above] at tool
  · intro follows
    obtain ⟨found, bound, all⟩ := follows
    refine ⟨bound, by rwa [Nat.add_sub_cancel' bound], fun before le => ?_⟩
    exact all (head + 1 + before) (by omega) (by omega)

theorem blocks_placed (messages : List Message) :
    List.Forall₂ (BlockAt messages) (messages.findIdxs fun message => !message.isTool)
      (Blocks.ofMessages messages).blocks := by
  induction messages with
  | nil => exact .nil
  | cons message rest ih =>
      have shifted : List.Forall₂ (BlockAt (message :: rest))
          (rest.findIdxs (fun message => !message.isTool) 1) (Blocks.ofMessages rest).blocks := by
        rw [List.findIdxs_start, List.forall₂_map_left_iff]
        exact ih.imp fun head block placed => ⟨placed.stands, placed.followed⟩
      rw [List.findIdxs_cons]
      cases tool : message.isTool with
      | true =>
          rw [Blocks.of_messages_tool message rest tool]
          exact shifted
      | false =>
          rw [Blocks.of_messages_head message rest tool]
          exact .cons ⟨rfl, Blocks.orphans_lead rest⟩ shifted

end Places

namespace Block

def entries (block : Block) (start : Nat) : List (Message × Nat) :=
  block.answeredCalls.flatMap fun call =>
    (block.results.zipIdx start).filter fun entry => call.answeredBy entry.1

theorem entries_results (block : Block) (start : Nat) :
    (block.entries start).map Prod.fst = block.groupedResults := by
  rw [entries, groupedResults, List.map_flatMap]
  refine List.flatMap_congr fun call _ => ?_
  have whole : (block.results.zipIdx start).map Prod.fst = block.results := List.zipIdx_map_fst ..
  conv_rhs => rw [← whole, List.filter_map]
  rfl

theorem assistant_of_answered (block : Block) (call : ToolCall)
    (member : call ∈ block.answeredCalls) : block.head.role = .assistant := by
  by_contra other
  rw [mem_answered_calls, issued_calls_of_other _ other] at member
  cases member.1

theorem answered_call_found (block : Block) (call : ToolCall)
    (member : call ∈ block.answeredCalls) :
    block.head.toolCalls.find? (fun other => other.id = call.id) = some call := by
  have first := ((mem_answered_calls block call).mp member).1
  rw [issued_calls_of_assistant _ (block.assistant_of_answered call member)] at first
  exact first_call_found [] _ call first

def position (block : Block) (call : ToolCall) : Nat :=
  block.head.toolCalls.findIdx fun other => other.id = call.id

theorem answered_calls_ascend (block : Block) :
    block.answeredCalls.Pairwise fun earlier later =>
      block.position earlier < block.position later := by
  by_cases assistant : block.head.role = .assistant
  · rw [answeredCalls, issued_calls_of_assistant _ assistant]
    exact (first_calls_ascend [] _).filter _
  · rw [answeredCalls, issued_calls_of_other _ assistant]
    exact List.Pairwise.nil

theorem answers_iff (messages : List Message) (head : Nat) (block : Block)
    (placed : BlockAt messages head block) (place position : Nat) :
    AnswersAt messages head place position ↔
      ∃ result call, (result, place) ∈ block.results.zipIdx (head + 1) ∧
        call ∈ block.answeredCalls ∧ call.answeredBy result = true ∧
        block.position call = position := by
  constructor
  · intro answers
    obtain ⟨nearest, issuer, result, id, issued, assistant, found, named, usable, first⟩ := answers
    rw [placed.stands] at issued
    cases issued
    have entry := (result_place messages head block placed result place).mpr ⟨found, nearest⟩
    obtain ⟨bound, withId, _⟩ := List.findIdx?_eq_some_iff_getElem.mp first
    obtain ⟨call, kept, same⟩ :=
      first_call_with_id [] _ _ (List.getElem_mem bound) List.not_mem_nil
    rw [of_decide_eq_true withId] at same
    subst same
    have matched := (answered_by_iff call result).mpr ⟨named, usable⟩
    refine ⟨result, call, entry, ?_, matched, (List.findIdx?_eq_some_iff_findIdx_eq.mp first).2⟩
    rw [mem_answered_calls, issued_calls_of_assistant _ assistant]
    exact ⟨kept, result, List.fst_mem_of_mem_zipIdx entry, matched⟩
  · intro matched
    obtain ⟨result, call, entry, kept, answers, rfl⟩ := matched
    obtain ⟨found, nearest⟩ := (result_place messages head block placed result place).mp entry
    obtain ⟨named, usable⟩ := (answered_by_iff call result).mp answers
    have first := (found_at_position _ call call.id (block.answered_call_found call kept)).1
    exact ⟨nearest, block.head, result, call.id, placed.stands,
      block.assistant_of_answered call kept, found, named, usable, first⟩

end Block

def resultPlaces (messages : List Message) (head : Nat) : List Nat :=
  match messages[head]? with
  | some issuer =>
    ((⟨issuer, (messages.drop (head + 1)).takeWhile Message.isTool⟩ : Block).entries
      (head + 1)).map Prod.snd
  | none => []

theorem result_places_of_block (messages : List Message) (head : Nat) (block : Block)
    (placed : BlockAt messages head block) :
    resultPlaces messages head = (block.entries (head + 1)).map Prod.snd := by
  rw [resultPlaces, placed.stands, ← placed.followed]

theorem block_from (messages : List Message) (head : Nat) (issuer : Message)
    (found : messages[head]? = some issuer) : ∃ block, BlockAt messages head block :=
  ⟨⟨issuer, (messages.drop (head + 1)).takeWhile Message.isTool⟩, found, rfl⟩

theorem mem_result_places (messages : List Message) (head place : Nat) :
    place ∈ resultPlaces messages head ↔ ∃ position, AnswersAt messages head place position := by
  cases found : messages[head]? with
  | none =>
      rw [resultPlaces, found]
      refine iff_of_false List.not_mem_nil fun answered => ?_
      obtain ⟨_, _, issuer, _, _, issued, _⟩ := answered
      simp [found] at issued
  | some issuer =>
      obtain ⟨block, placed⟩ := block_from messages head issuer found
      rw [result_places_of_block messages head block placed]
      simp only [Block.answers_iff messages head block placed, Block.entries, List.mem_map,
        List.mem_flatMap, List.mem_filter]
      constructor
      · intro kept
        obtain ⟨⟨result, place⟩, ⟨call, kept, entry, answers⟩, rfl⟩ := kept
        exact ⟨block.position call, result, call, entry, kept, answers, rfl⟩
      · intro answered
        obtain ⟨_, result, call, entry, kept, answers, _⟩ := answered
        exact ⟨(result, place), ⟨call, kept, entry, answers⟩, rfl⟩

theorem result_places_grouped (messages : List Message) (head : Nat) :
    (resultPlaces messages head).Pairwise (Earlier messages head) := by
  cases found : messages[head]? with
  | none =>
      rw [resultPlaces, found]
      exact List.Pairwise.nil
  | some issuer =>
      obtain ⟨block, placed⟩ := block_from messages head issuer found
      have answers (call : ToolCall) (kept : call ∈ block.answeredCalls) (entry : Message × Nat)
          (member : entry ∈ (block.results.zipIdx (head + 1)).filter
            fun entry => call.answeredBy entry.1) :
          AnswersAt messages head entry.2 (block.position call) := by
        rw [List.mem_filter] at member
        rw [Block.answers_iff messages head block placed]
        exact ⟨entry.1, call, member.1, kept, member.2, rfl⟩
      -- The results of one call are in the order of their places, those of a later call come later.
      rw [result_places_of_block messages head block placed, List.pairwise_map, Block.entries,
        List.pairwise_flatMap]
      constructor
      · intro call kept
        have places : (block.results.zipIdx (head + 1)).Pairwise fun earlier later =>
            earlier.2 < later.2 := by
          rw [← List.pairwise_map, List.zipIdx_map_snd]
          exact List.pairwise_lt_range' ..
        refine (places.filter _).imp_of_mem ?_
        intro earlier later earlierIn laterIn less
        exact ⟨_, _, answers call kept earlier earlierIn, answers call kept later laterIn,
          .inr ⟨rfl, less⟩⟩
      · refine block.answered_calls_ascend.imp_of_mem ?_
        intro first second firstKept secondKept less earlier earlierIn later laterIn
        exact ⟨_, _, answers first firstKept earlier earlierIn,
          answers second secondKept later laterIn, .inl less⟩

theorem head_left (messages : List Message) (head : Nat) (block : Block)
    (placed : BlockAt messages head block) : Left messages head block.repair.block.head := by
  by_cases assistant : block.head.role = .assistant
  · rw [Block.repair_of_assistant block assistant]
    refine .answered block.head block.answeredCalls (block.answeredCalls.map block.position)
      placed.stands assistant ?_ ?_ ?_
    · rw [List.pairwise_map]
      exact block.answered_calls_ascend
    · intro position
      simp only [List.mem_map, Block.answers_iff messages head block placed]
      constructor
      · intro answered
        obtain ⟨call, kept, rfl⟩ := answered
        obtain ⟨_, result, member, answers⟩ := (Block.mem_answered_calls block call).mp kept
        obtain ⟨index, bound, rfl⟩ := List.getElem_of_mem member
        refine ⟨head + 1 + index, block.results[index], call, ?_, kept, answers, rfl⟩
        rw [List.mk_mem_zipIdx_iff_le_and_getElem?_sub, Nat.add_sub_cancel_left]
        exact ⟨Nat.le_add_right _ _, List.getElem?_eq_getElem bound⟩
      · intro answers
        obtain ⟨_, _, call, _, kept, _, same⟩ := answers
        exact ⟨call, kept, same⟩
    · rw [List.forall₂_map_left_iff, List.forall₂_same]
      intro call kept
      exact (found_at_position _ call call.id (block.answered_call_found call kept)).2
  · rw [Block.repair_of_other block assistant]
    exact .whole block.head placed.stands assistant

theorem results_left (messages : List Message) (head : Nat) (block : Block)
    (placed : BlockAt messages head block) (formed : block.Formed) :
    List.Forall₂ (Left messages) (resultPlaces messages head) block.repair.block.results := by
  have kept : block.repair.block.results = (block.entries (head + 1)).map Prod.fst := by
    rw [Block.entries_results]
    by_cases assistant : block.head.role = .assistant
    · rw [Block.repair_of_assistant block assistant]
    · rw [Block.repair_of_other block assistant, Block.groupedResults, Block.answeredCalls,
        Block.issued_calls_of_other _ assistant]
      rfl
  rw [result_places_of_block messages head block placed, kept, List.forall₂_map_left_iff,
    List.forall₂_map_right_iff, List.forall₂_same]
  intro entry member
  obtain ⟨call, _, filtered⟩ := List.mem_flatMap.mp member
  have within := (List.mem_filter.mp filtered).1
  have found := ((result_place messages head block placed entry.1 entry.2).mp within).1
  refine .whole entry.1 found ?_
  have tool := formed.results entry.1 (List.fst_mem_of_mem_zipIdx within)
  intro assistant
  simp [Message.isTool, assistant] at tool

theorem blocks_left (messages : List Message) (heads : List Nat) (blocks : List Block)
    (placed : List.Forall₂ (BlockAt messages) heads blocks)
    (formed : ∀ block ∈ blocks, block.Formed) :
    List.Forall₂ (Left messages) (heads.flatMap fun head => head :: resultPlaces messages head)
      (blocks.flatMap fun block => block.repair.block.messages) := by
  induction placed with
  | nil => exact .nil
  | cons first rest ih =>
      rw [List.forall_mem_cons] at formed
      rw [List.flatMap_cons, List.flatMap_cons]
      refine List.rel_append (.cons (head_left messages _ _ first) ?_) (ih formed.2)
      exact results_left messages _ _ first formed.1

-- The repaired history, message by message, is what is at the places that are kept.
theorem sanitize_keeps_exactly (messages : List Message) :
    ∃ (heads : List Nat) (results : Nat → List Nat), Keeps messages heads results ∧
      (∀ place, place ∈ heads.flatMap (fun head => head :: results head) ↔
        (∃ message, messages[place]? = some message ∧ message.isTool = false) ∨
          ∃ head position, AnswersAt messages head place position) ∧
      List.Forall₂ (Left messages) (heads.flatMap fun head => head :: results head)
        (sanitize messages).messages := by
  have headed (place : Nat) : place ∈ messages.findIdxs (fun message => !message.isTool) ↔
      ∃ head, messages[place]? = some head ∧ head.isTool = false := by
    rw [List.mem_findIdxs_iff_exists_getElem_pos]
    constructor
    · intro untool
      obtain ⟨bound, untool⟩ := untool
      exact ⟨messages[place], List.getElem?_eq_getElem bound, by simpa using untool⟩
    · intro headed
      obtain ⟨head, found, untool⟩ := headed
      obtain ⟨bound, rfl⟩ := List.getElem?_eq_some_iff.mp found
      exact ⟨bound, by simpa using untool⟩
  refine ⟨messages.findIdxs fun message => !message.isTool, resultPlaces messages, ?_, ?_, ?_⟩
  · exact ⟨List.pairwise_findIdxs, headed, mem_result_places messages,
      result_places_grouped messages⟩
  · intro place
    simp only [List.mem_flatMap, List.mem_cons, mem_result_places]
    constructor
    · intro kept
      obtain ⟨head, member, rfl | answered⟩ := kept
      · exact .inl ((headed place).mp member)
      · exact .inr ⟨head, answered⟩
    · intro stays
      rcases stays with untool | ⟨head, position, answers⟩
      · exact ⟨place, (headed place).mpr untool, .inl rfl⟩
      · obtain ⟨issuer, _, _, issued, assistant, _⟩ := answers.answers
        refine ⟨head, (headed head).mpr ⟨issuer, issued, ?_⟩, .inr ⟨position, answers⟩⟩
        simp [Message.isTool, assistant]
  · rw [sanitized_messages]
    exact blocks_left messages _ _ (blocks_placed messages) (Blocks.blocks_formed messages)

end Dialogue
