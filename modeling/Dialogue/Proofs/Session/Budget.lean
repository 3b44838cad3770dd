import Dialogue.Proofs.History.Estimate
import Dialogue.Proofs.Session.Opening

set_option autoImplicit false

namespace Dialogue

variable (compactor : Compactor) (systemPrompt : String) (messages : List Message)

theorem within_budget_uncut
    (within : estimateTokens systemPrompt messages ≤ compactor.maxContextTokens) :
    compactor.cut? systemPrompt messages = none := by
  rw [Compactor.cut?, if_pos within]
  split <;> rfl

def Compactor.older : List Message :=
  messages.take (recentWindowStart messages compactor.recentMessageCount)

theorem window_chars :
    Text.total Message.chars messages = Text.total Message.chars (compactor.older messages) +
      Text.total Message.chars (compactor.window messages) := by
  conv_lhs => rw [← List.take_append_drop (recentWindowStart messages compactor.recentMessageCount)
    messages, Text.total_append]
  rfl

theorem summary_chars (made : Stamp) (text : String) :
    (Message.summary made text).chars = 7 + Text.bytes text := by
  have kind : Text.bytes MessageKind.summary.name = 7 := by decide
  rw [Message.chars]
  simp [Message.summary, Message.assistant, kind, Text.total]

-- What a compaction may come to, and when it has no larger estimate than before. A summary may take
-- as many bytes as the older messages did, and the name of its kind takes seven.
structure Compactor.NoLarger (out : List Message) : Prop where
  kinds : out = messages ∨ out = compactor.window messages ∨
    ∃ made text, out = .summary made text :: compactor.window messages
  unsummarized : out = messages ∨ out = compactor.window messages →
    estimateTokens systemPrompt out ≤ estimateTokens systemPrompt messages
  summarized : ∀ made text, out = .summary made text :: compactor.window messages →
    7 + Text.bytes text ≤ Text.total Message.chars (compactor.older messages) →
    estimateTokens systemPrompt out ≤ estimateTokens systemPrompt messages

theorem compaction_no_larger (trace : List Event) (out : List Message)
    (compaction : compactor.Compaction systemPrompt messages trace (.ok out)) :
    compactor.NoLarger systemPrompt messages out := by
  have split := window_chars compactor messages
  constructor
  · rcases compaction_keeps compactor systemPrompt messages trace out compaction with
      rfl | ⟨start, cut, kept⟩
    · exact .inl rfl
    · obtain ⟨rfl, _⟩ := cut_at_window compactor systemPrompt messages start cut
      exact .inr kept
  · rintro (rfl | rfl)
    · exact Nat.le_refl _
    · apply estimate_mono
      omega
  · rintro made text rfl covered
    apply estimate_mono
    rw [Text.total, summary_chars]
    omega

variable {σ : Type} (world : World σ)

namespace Conversation

variable (conversation : Conversation)

def unrepaired (stamp : Stamp) (content : String) : List Message :=
  conversation.history ++ [.user stamp content]

def Fits (messages : List Message) : Prop :=
  estimateTokens conversation.settings.systemPrompt messages ≤
    conversation.settings.compactor.maxContextTokens

instance (messages : List Message) : Decidable (conversation.Fits messages) :=
  inferInstanceAs (Decidable (_ ≤ _))

theorem working_fits (stamp : Stamp) (content : String)
    (fits : conversation.Fits (conversation.unrepaired stamp content)) :
    conversation.Fits (conversation.working stamp content).messages :=
  Nat.le_trans (sanitize_estimate _ _) fits

structure Looped.StartsWithin (looped : Looped σ) (working : List Message)
    (preparation : Run σ (Except Error (List Message))) : Prop where
  prepared : looped.prepared = working
  fits : conversation.Fits looped.prepared
  unasked : requests preparation.trace = []
  first : ∀ setup,
    conversation.settings.agent.setup conversation.settings.systemPrompt = .ok setup →
      (requests looped.run.trace).head? =
        if world.cancelled preparation.state then none else some (setup.request looped.prepared)

theorem preparation_within (content : String) (state : σ) (stamp : Stamp)
    (drawn : (conversation.preparation world content state).trace.head? = some ⟨.stamp, stamp⟩)
    (fits : conversation.Fits (conversation.working stamp content).messages) :
    (conversation.preparation world content state).value =
        .ok (conversation.working stamp content).messages ∧
      requests (conversation.preparation world content state).trace = [] := by
  obtain ⟨asked, warnings, compaction, trace, minor, compacts⟩ :=
    run_preparation conversation world content state
  rw [trace] at drawn ⊢
  cases drawn
  obtain ⟨rfl, value⟩ := uncut_compaction _ _ _ _ _ (within_budget_uncut _ _ _ fits) compacts
  refine ⟨value, ?_⟩
  rw [requests, List.filterMap_eq_nil_iff]
  intro event member
  rw [List.append_nil, List.mem_cons] at member
  rcases member with rfl | warning
  · rfl
  · obtain ⟨effect, answer⟩ := event
    cases (minor _ warning).1 <;> rfl

theorem turn_starts_within (content : String) (state : σ) (stamp : Stamp)
    (drawn : (conversation.preparation world content state).trace.head? = some ⟨.stamp, stamp⟩)
    (fits : conversation.Fits (conversation.working stamp content).messages) :
    ∃ looped, conversation.looped? world content state = some looped ∧
      looped.StartsWithin world conversation (conversation.working stamp content).messages
        (conversation.preparation world content state) := by
  obtain ⟨value, unasked⟩ := conversation.preparation_within world content state stamp drawn fits
  have valid := sanitized_valid (conversation.unrepaired stamp content)
  have again : sanitize (conversation.working stamp content).messages =
      ⟨(conversation.working stamp content).messages, false⟩ := sanitize_of_valid _ valid
  refine ⟨conversation.looped world (conversation.working stamp content).messages
    (conversation.preparation world content state).state, ?_, rfl, fits, unasked, ?_⟩
  · rw [looped?, value]
    dsimp only
    rw [again]
  · exact fun setup configured => loop_opening_request world _ _ _ _ setup configured

end Conversation

theorem repair_and_compaction_no_larger :
    (∀ systemPrompt messages, estimateTokens systemPrompt (sanitize messages).messages ≤
      estimateTokens systemPrompt messages) ∧
    (∀ (compactor : Compactor) systemPrompt messages out state,
      (world.run (compactor.compact systemPrompt messages) state).value = .ok out →
        compactor.NoLarger systemPrompt messages out) ∧
    ∀ (conversation : Conversation) (content : String) (state : σ) (stamp : Stamp),
      conversation.isReset content = false →
      (conversation.preparation world content state).trace.head? = some ⟨.stamp, stamp⟩ →
      conversation.Fits (conversation.unrepaired stamp content) ∨
        conversation.Fits (conversation.working stamp content).messages →
      ∃ looped, conversation.looped? world content state = some looped ∧
        looped.StartsWithin world conversation (conversation.working stamp content).messages
          (conversation.preparation world content state) ∧
        ∃ late, (world.run (conversation.handle content) state).trace =
          (conversation.preparation world content state).trace ++ looped.run.trace ++ late := by
  refine ⟨sanitize_estimate, ?_, ?_⟩
  · intro compactor systemPrompt messages out state kept
    have compaction := run_compact world compactor systemPrompt messages state
    rw [kept] at compaction
    exact compaction_no_larger compactor systemPrompt messages _ out compaction
  · intro conversation content state stamp ordinary drawn fits
    have repaired := fits.elim (conversation.working_fits stamp content) id
    obtain ⟨looped, ran, starts⟩ :=
      conversation.turn_starts_within world content state stamp drawn repaired
    refine ⟨looped, ran, starts, ?_⟩
    rw [Conversation.handle, ordinary, if_neg Bool.false_ne_true]
    exact (Conversation.turn_adopts content state looped ran).1

def thrifty : Conversation where
  settings := { brokenConversation.settings with
    compactor := { brokenConversation.settings.compactor with maxContextTokens := 11 } }
  history := brokenConversation.history

-- The summary in the second case takes the place of two messages of 28 bytes.
theorem repaired_copy_starts_within :
    ¬ thrifty.Fits (thrifty.unrepaired ⟨"message", .epoch⟩ "go on") ∧
      thrifty.isReset "go on" = false ∧
      thrifty.Fits (thrifty.working ⟨"message", .epoch⟩ "go on").messages ∧
      (∃ looped, thrifty.looped? scripted "go on" carelessModel = some looped ∧
        looped.StartsWithin scripted thrifty (thrifty.working ⟨"message", .epoch⟩ "go on").messages
          (thrifty.preparation scripted "go on" carelessModel)) ∧
      7 + Text.bytes "so far" ≤ Text.total Message.chars (narrow.older turnLast) ∧
      estimateTokens "" (.summary ⟨"message", .epoch⟩ "so far" :: narrow.window turnLast) ≤
        estimateTokens "" turnLast := by
  have ordinary : thrifty.isReset "go on" = false := by decide
  have fits : thrifty.Fits (thrifty.working ⟨"message", .epoch⟩ "go on").messages := by decide
  have covered : 7 + Text.bytes "so far" ≤ Text.total Message.chars (narrow.older turnLast) := by
    decide
  obtain ⟨looped, ran, starts, _⟩ := (repair_and_compaction_no_larger scripted).2.2 thrifty
    "go on" carelessModel ⟨"message", .epoch⟩ ordinary rfl (.inr fits)
  have lighter := (repair_and_compaction_no_larger scripted).2.1 narrow "" turnLast _
    (summarizing "so far") rfl
  exact ⟨by decide, ordinary, fits, ⟨looped, ran, starts⟩, covered,
    lighter.summarized _ _ rfl covered⟩

end Dialogue
