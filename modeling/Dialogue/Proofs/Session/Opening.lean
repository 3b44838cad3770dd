import Dialogue.Proofs.Context.Newest
import Dialogue.Proofs.Context.Recompaction
import Dialogue.Proofs.Context.Verbatim
import Dialogue.Proofs.Session.Summaries

set_option autoImplicit false

namespace Dialogue

variable {σ : Type} (world : World σ)

theorem rounds_first_request (setup : LoopSetup) (left : Nat) (history : List Message)
    (usage : Option TokenUsage) (state : σ) :
    (requests (world.run (setup.runRounds (left + 1) history usage) state).trace).head? =
      if world.cancelled state then none else some (setup.request history) := by
  have raced := World.run_racing world (.chat setup.provider (setup.request history)) state
    .interrupted rfl
  rw [run_rounds_succ, World.run_bind, Proc.chat, raced]
  cases world.cancelled state <;> rfl

theorem rounds_positive (loop : ConversationLoop) : ∃ left, loop.rounds = left + 1 := by
  apply Nat.exists_eq_succ_of_ne_zero
  rw [ConversationLoop.rounds, ConversationLoop.defaultMaxIterations]
  split <;> omega

theorem loop_opening_request (loop : ConversationLoop) (systemPrompt : String)
    (history : List Message) (state : σ) (setup : LoopSetup)
    (configured : loop.setup systemPrompt = .ok setup) :
    (requests (world.run (loop.run systemPrompt history) state).trace).head? =
      if world.cancelled state then none else some (setup.request history) := by
  obtain ⟨left, rounds⟩ := rounds_positive loop
  have first := rounds_first_request world setup left history none state
  rw [ConversationLoop.run, configured]
  dsimp only
  rw [(configured_setup loop systemPrompt setup configured).rounds, rounds, World.run_bind]
  simp only [Run.andThen]
  rw [requests_append, Proc.ensures_no_requests world _ _ (total_heedless loop _), List.append_nil,
    first]

theorem loop_first_request (loop : ConversationLoop) (systemPrompt : String)
    (history : List Message) (state : σ) :
    ∀ request ∈ (requests (world.run (loop.run systemPrompt history) state).trace).head?,
      request.messages = history := by
  cases configured : loop.setup systemPrompt with
  | error e =>
      rw [ConversationLoop.run, configured]
      simp [World.run_pure, requests]
  | ok setup =>
      rw [loop_opening_request world loop systemPrompt history state setup configured]
      intro request member
      split at member
      · cases member
      · cases member
        rfl

namespace Conversation

variable (conversation : Conversation)

-- What the preparation of a turn leaves to its loop. The message is the one made for the turn, with
-- the stamp that was drawn first.
structure Looped.Opens (looped : Looped σ) (content : String)
    (preparation : Run σ (Except Error (List Message))) : Prop where
  prepared : preparation.value = .ok looped.prepared
  valid : sanitize looped.prepared = ⟨looped.prepared, false⟩
  newest : ∃ stamp, preparation.trace.head? = some ⟨.stamp, stamp⟩ ∧
    looped.prepared.getLast? = some (.user stamp content)
  first : ∀ request ∈ (requests looped.run.trace).head?, request.messages = looped.prepared

theorem preparation_opens (content : String) (state : σ) (compacted : List Message)
    (prepared : (conversation.preparation world content state).value = .ok compacted) :
    sanitize compacted = ⟨compacted, false⟩ ∧ ∃ before stamp,
      (conversation.preparation world content state).trace.head? = some ⟨.stamp, stamp⟩ ∧
        compacted = before ++ [.user stamp content] := by
  obtain ⟨stamp, _, trace, events, _, compacts⟩ := run_preparation conversation world content state
  rw [prepared] at compacts
  have valid := sanitized_valid (conversation.history ++ [.user stamp content])
  have kept := valid_compaction _ _ _ valid trace compacted compacts
  have plain := user_plain stamp content
  rw [working, sanitize_newest _ _ plain] at compacts
  obtain ⟨before, ends⟩ := compacted_newest _ _ _ _ trace compacted plain.noResult compacts
  exact ⟨kept.valid, before, stamp, by rw [events]; rfl, ends⟩

theorem turn_opens (content : String) (state : σ) (looped : Looped σ)
    (ran : conversation.looped? world content state = some looped) :
    looped.Opens content (conversation.preparation world content state) := by
  have opens := conversation.preparation_opens world content state
  rw [looped?] at ran
  generalize conversation.preparation world content state = preparation at *
  obtain ⟨trace, prepared, after⟩ := preparation
  cases prepared with
  | error e => cases ran
  | ok compacted =>
      cases ran
      obtain ⟨valid, before, stamp, drawn, ends⟩ := opens compacted rfl
      rw [valid]
      refine ⟨rfl, valid, ⟨stamp, drawn, ?_⟩, loop_first_request world _ _ _ _⟩
      dsimp only [looped]
      rw [ends, List.getLast?_concat]

end Conversation

-- Compaction keeps a valid history valid and its recent part as it is. So the first request of a
-- loop is what compaction left, with the new message at the end.
theorem valid_history_stays_valid :
    (∀ (compactor : Compactor) (systemPrompt : String) (messages out : List Message) (state : σ),
      sanitize messages = ⟨messages, false⟩ →
      (world.run (compactor.compact systemPrompt messages) state).value = .ok out →
        compactor.KeepsRecent messages out) ∧
    ∀ (conversation : Conversation) (content : String) (state : σ)
      (looped : Conversation.Looped σ), conversation.isReset content = false →
      conversation.looped? world content state = some looped →
        (∃ late, (world.run (conversation.handle content) state).trace =
          (conversation.preparation world content state).trace ++ looped.run.trace ++ late) ∧
        looped.Opens content (conversation.preparation world content state) := by
  constructor
  · intro compactor systemPrompt messages out state unchanged kept
    have compaction := run_compact world compactor systemPrompt messages state
    rw [kept] at compaction
    exact valid_compaction compactor systemPrompt messages
      ((protocol_valid_iff messages).mpr unchanged) _ out compaction
  · intro conversation content state looped ordinary ran
    have same : conversation.handle content = conversation.turn content := by
      rw [Conversation.handle, ordinary, if_neg Bool.false_ne_true]
    rw [same]
    exact ⟨(Conversation.turn_adopts content state looped ran).1,
      conversation.turn_opens world content state looped ran⟩

theorem cut_turn_stays_valid :
    sanitize turnLast.tail = ⟨turnLast.tail, false⟩ ∧
      narrow.KeepsRecent turnLast.tail
        (.summary ⟨"message", .epoch⟩ "so far" :: turnLast.tail.drop 1) ∧
      brokenConversation.isReset "go on" = false ∧
      ∃ looped, brokenConversation.looped? scripted "go on" carelessModel = some looped ∧
        (requests looped.run.trace).length = 2 ∧
        looped.Opens "go on" (brokenConversation.preparation scripted "go on" carelessModel) := by
  have unchanged : sanitize turnLast.tail = ⟨turnLast.tail, false⟩ := by decide
  have ordinary : brokenConversation.isReset "go on" = false := by decide
  have opens := (valid_history_stays_valid scripted).2 brokenConversation "go on" carelessModel
  exact ⟨unchanged, (valid_history_stays_valid scripted).1 narrow "" turnLast.tail _
    (summarizing "so far") unchanged rfl, ordinary, _, rfl, rfl, (opens _ ordinary rfl).2⟩

end Dialogue
