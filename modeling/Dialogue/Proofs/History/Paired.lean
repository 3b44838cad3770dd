import Dialogue.Proofs.History.Sanitized

set_option autoImplicit false

namespace Dialogue

-- A result answers the assistant message that heads its block: only results stand between the two,
-- and the message issued a call with the ID of the result, which is not blank.
def AnswersHead (before : List Message) (result : Message) : Prop :=
  ∃ earlier issuer block, before = earlier ++ issuer :: block ∧
    (∀ between ∈ block, between.isTool = true) ∧ issuer.role = .assistant ∧
    ∃ call ∈ issuer.toolCalls, result.answeredCallId = some call.id

structure CallsAnswered (calls : List ToolCall) (results : List Message) : Prop where
  identified : ∀ call ∈ calls, Text.isBlank call.id = false
  distinct : (calls.map ToolCall.id).Nodup
  answered : ∀ call ∈ calls, ∃ result ∈ results, result.toolCallId = some call.id
  inCallOrder : results.Pairwise fun earlier later =>
    calls.findIdx (fun call => earlier.toolCallId = some call.id) ≤
      calls.findIdx (fun call => later.toolCallId = some call.id)

structure Paired (messages : List Message) : Prop where
  results : ∀ before result after, messages = before ++ result :: after → result.role = .tool →
    AnswersHead before result
  calls : ∀ before issuer after, messages = before ++ issuer :: after → issuer.role = .assistant →
    CallsAnswered issuer.toolCalls (after.takeWhile Message.isTool)

namespace Blocks

theorem orphans_lead (messages : List Message) :
    (ofMessages messages).orphans = messages.takeWhile Message.isTool := by
  induction messages with
  | nil => rfl
  | cons message rest ih =>
      cases tool : message.isTool with
      | true => rw [of_messages_tool _ _ tool, List.takeWhile_cons_of_pos tool, ih]
      | false =>
          rw [of_messages_head _ _ tool, List.takeWhile_cons_of_neg (by simp [tool])]

theorem block_at (before after : List Message) (head : Message) (untool : head.isTool = false) :
    ⟨head, after.takeWhile Message.isTool⟩ ∈ (ofMessages (before ++ head :: after)).blocks := by
  induction before with
  | nil =>
      rw [List.nil_append, of_messages_head _ _ untool, orphans_lead]
      exact List.mem_cons_self
  | cons message rest ih =>
      rw [List.cons_append]
      cases tool : message.isTool with
      | true =>
          rw [of_messages_tool _ _ tool]
          exact ih
      | false =>
          rw [of_messages_head _ _ tool]
          exact List.mem_cons_of_mem _ ih

theorem block_place (messages : List Message) (block : Block)
    (member : block ∈ (ofMessages messages).blocks) :
    ∃ before after, messages = before ++ block.head :: after ∧
      block.results = after.takeWhile Message.isTool := by
  induction messages with
  | nil => cases member
  | cons message rest ih =>
      have later : block ∈ (ofMessages rest).blocks → ∃ before after,
          message :: rest = before ++ block.head :: after ∧
            block.results = after.takeWhile Message.isTool := by
        intro found
        obtain ⟨before, after, whole, results⟩ := ih found
        exact ⟨message :: before, after, by rw [whole, List.cons_append], results⟩
      cases tool : message.isTool with
      | true =>
          rw [of_messages_tool _ _ tool] at member
          exact later member
      | false =>
          rw [of_messages_head _ _ tool] at member
          rcases List.mem_cons.mp member with first | found
          · exact ⟨[], rest, by rw [first, List.nil_append], by rw [first, orphans_lead]⟩
          · exact later found

theorem headed_or_orphaned (before : List Message) :
    (∀ message ∈ before, message.isTool = true) ∨
      ∃ earlier head block, before = earlier ++ head :: block ∧ head.isTool = false ∧
        ∀ between ∈ block, between.isTool = true := by
  induction before with
  | nil => exact .inl (by simp)
  | cons message rest ih =>
      rcases ih with tools | ⟨earlier, head, block, whole, untool, tools⟩
      · cases tool : message.isTool with
        | true => exact .inl (List.forall_mem_cons.mpr ⟨tool, tools⟩)
        | false => exact .inr ⟨[], message, rest, rfl, tool, tools⟩
      · exact .inr ⟨message :: earlier, head, block, by rw [whole, List.cons_append], untool, tools⟩

end Blocks

theorem valid_results_headed (messages : List Message) (valid : ProtocolValid messages)
    (before after : List Message) (result : Message) (split : messages = before ++ result :: after)
    (tool : result.isTool = true) : AnswersHead before result := by
  subst split
  rcases Blocks.headed_or_orphaned before with all | ⟨earlier, head, block, rfl, untool, tools⟩
  · have orphaned : result ∈ (Blocks.ofMessages (before ++ result :: after)).orphans := by
      rw [Blocks.orphans_lead, List.takeWhile_append_of_pos all, List.takeWhile_cons_of_pos tool]
      simp
    rw [valid.noOrphans] at orphaned
    cases orphaned
  · have heads := Blocks.block_at earlier (block ++ result :: after) head untool
    rw [List.takeWhile_append_of_pos tools, List.takeWhile_cons_of_pos tool] at heads
    have blockValid := valid.blocksValid _ (by simpa using heads)
    obtain ⟨call, issued, answers⟩ := blockValid.answers result (by simp)
    have identified := blockValid.identified call issued
    by_cases assistant : head.role = .assistant
    · rw [Block.issued_calls_of_assistant head assistant] at issued
      refine ⟨earlier, head, block, rfl, tools, assistant, call, issued, ?_⟩
      simp [Message.answeredCallId, answers, identified]
    · rw [Block.issued_calls_of_other head assistant] at issued
      cases issued

theorem valid_calls_answered (messages : List Message) (valid : ProtocolValid messages)
    (before : List Message) (issuer : Message) (after : List Message)
    (split : messages = before ++ issuer :: after) (assistant : issuer.role = .assistant) :
    CallsAnswered issuer.toolCalls (after.takeWhile Message.isTool) := by
  have heads := Blocks.block_at before after issuer (by simp [Message.isTool, assistant])
  have blockValid := valid.blocksValid _ (split ▸ heads)
  rw [← Block.issued_calls_of_assistant issuer assistant]
  exact ⟨blockValid.identified, blockValid.distinct, blockValid.answered, blockValid.inCallOrder⟩

theorem paired_of_valid (messages : List Message) (valid : ProtocolValid messages) :
    Paired messages :=
  ⟨fun before result after split tool => valid_results_headed messages valid before after result
      split (by simp [Message.isTool, tool]),
    valid_calls_answered messages valid⟩

theorem head_of_answers (before : List Message) (head result : Message) (block : List Message)
    (untool : head.isTool = false) (tools : ∀ between ∈ block, between.isTool = true)
    (answers : AnswersHead (before ++ head :: block) result) :
    head.role = .assistant ∧ ∃ call ∈ head.toolCalls, result.toolCallId = some call.id := by
  obtain ⟨earlier, issuer, between, whole, others, assistant, call, issued, same⟩ := answers
  have unissued : issuer.isTool = false := by simp [Message.isTool, assistant]
  have heads : ∀ (first : List Message) (head : Message) (block : List Message),
      head.isTool = false → (∀ between ∈ block, between.isTool = true) →
        (first ++ head :: block).reverse.find? (fun message => !message.isTool) = some head := by
    intro first head block untool tools
    have none : block.reverse.find? (fun message => !message.isTool) = none := by
      rw [List.find?_eq_none]
      intro between member
      simp [tools between (List.mem_reverse.mp member)]
    simp [List.find?_append, untool, none]
  have one := heads before head block untool tools
  rw [whole, heads earlier issuer between unissued others] at one
  cases one
  refine ⟨assistant, call, issued, ?_⟩
  exact (Option.filter_eq_some_iff.mp same).1

theorem block_answers_head (messages : List Message) (paired : Paired messages) (before : List Message)
    (head : Message) (after : List Message) (split : messages = before ++ head :: after)
    (untool : head.isTool = false) (result : Message)
    (member : result ∈ after.takeWhile Message.isTool) :
    head.role = .assistant ∧ ∃ call ∈ head.toolCalls, result.toolCallId = some call.id := by
  obtain ⟨between, rest, block⟩ := List.append_of_mem member
  have tools : ∀ other ∈ between ++ result :: rest, other.isTool = true := by
    rw [← block, ← Blocks.orphans_lead]
    exact Blocks.orphans_are_results after
  have cut : after = between ++ result :: rest ++ after.dropWhile Message.isTool := by
    rw [← block, List.takeWhile_append_dropWhile]
  generalize after.dropWhile Message.isTool = later at cut
  have tool := tools result (by simp)
  have answers : AnswersHead (before ++ head :: between) result :=
    paired.results _ result (rest ++ later) (by simp [split, cut])
      (by simpa [Message.isTool] using tool)
  exact head_of_answers before head result between untool
    (fun other found => tools other (List.mem_append_left _ found)) answers

theorem valid_of_paired (messages : List Message) (paired : Paired messages) :
    ProtocolValid messages := by
  constructor
  · rw [Blocks.orphans_lead]
    cases messages with
    | nil => rfl
    | cons first rest =>
        cases tool : first.isTool with
        | false => rw [List.takeWhile_cons_of_neg (by simp [tool])]
        | true =>
            obtain ⟨earlier, issuer, block, none, _⟩ :=
              paired.results [] first rest rfl (by simpa [Message.isTool] using tool)
            simp at none
  · intro block member
    obtain ⟨before, after, split, results⟩ := Blocks.block_place messages block member
    have untool := (Blocks.blocks_formed messages block member).head
    have answers := block_answers_head messages paired before block.head after split untool
    rw [← results] at answers
    by_cases assistant : block.head.role = .assistant
    · have answered := paired.calls before block.head after split assistant
      rw [← results, ← Block.issued_calls_of_assistant block.head assistant] at answered
      refine ⟨?_, answered.identified, answered.distinct, answered.answered, answered.inCallOrder⟩
      rw [Block.issued_calls_of_assistant block.head assistant]
      exact fun result found => (answers result found).2
    · have empty : block.results = [] :=
        List.eq_nil_iff_forall_not_mem.mpr fun result found => assistant (answers result found).1
      have issued := Block.issued_calls_of_other block.head assistant
      exact ⟨by simp [empty], by simp [issued], by simp [issued], by simp [issued], by simp [empty]⟩

theorem unchanged_iff_paired (messages : List Message) :
    sanitize messages = ⟨messages, false⟩ ↔ Paired messages :=
  (protocol_valid_iff messages).symm.trans ⟨paired_of_valid messages, valid_of_paired messages⟩

theorem sanitize_idempotent (messages : List Message) :
    sanitize (sanitize messages).messages = ⟨(sanitize messages).messages, false⟩ ∧
      Paired (sanitize messages).messages ∧
      (sanitize messages = ⟨messages, false⟩ ↔ Paired messages) :=
  ⟨sanitize_of_valid _ (sanitized_valid messages), paired_of_valid _ (sanitized_valid messages),
    unchanged_iff_paired messages⟩

end Dialogue
