import Dialogue.Proofs.Process.Script
import Dialogue.Session.Conversation

set_option autoImplicit false

namespace Dialogue

variable {σ : Type}

inductive Effect.OfCompaction : Effect → Prop where
  | stamp : OfCompaction .stamp
  | look : OfCompaction .cancelled
  | ask (provider : Provider) (request : ChatRequest)
      (valid : ProtocolValid request.messages) : OfCompaction (.chat provider request)
  | warn (text : String) : OfCompaction (.log ⟨.warning, text⟩)

open Effect

theorem summarize_ensures (provider : Provider) (messages : List Message) (maxTokens : Nat) :
    (summarize provider messages maxTokens).Ensures OfCompaction fun _ => True := by
  apply Proc.ensures_after _ _ .stamp
  intro stamp
  exact Proc.ensures_after _ _ (.ask _ _ (valid_plain _ rfl rfl)) fun _ => trivial

theorem compact_ensures (compactor : Compactor) (systemPrompt : String) (messages : List Message) :
    (compactor.compact systemPrompt messages).Ensures OfCompaction OnlyCancelled := by
  rw [Compactor.compact]
  cases compactor.cut? systemPrompt messages with
  | none => exact only_cancelled_ok messages
  | some start =>
      apply Proc.ensures_bind _ _ (summarize_ensures _ _ _)
      intro outcome _
      cases outcome with
      | ok summary =>
          exact Proc.ensures_after _ _ .stamp fun _ => only_cancelled_ok _
      | error e =>
          dsimp only
          cases e.isCancelled with
          | true => exact only_cancelled_error
          | false =>
              apply Proc.ensures_after _ _ .look
              intro cancelled
              cases cancelled with
              | true => exact only_cancelled_error
              | false => exact Proc.ensures_after _ _ (.warn _) fun _ => only_cancelled_ok _

theorem of_compaction_sends_valid (effect : Effect) (may : effect.OfCompaction) :
    effect.SendsValid := by
  cases may with
  | ask provider request valid => exact valid
  | stamp | look | warn => trivial

theorem with_total_valid (result : LoopResult) (valid : result.ValidIfAnswered) :
    (ConversationLoop.withTotal result).ValidIfAnswered := by
  intro response answered
  obtain ⟨history, usage, outcome⟩ := result
  cases outcome with
  | error e => cases answered
  | ok original => exact valid original rfl

theorem loop_valid (world : World σ) (loop : ConversationLoop) (systemPrompt : String)
    (history : List Message) (state : σ) (valid : ProtocolValid history)
    (fresh : FreshIds (world.run (loop.run systemPrompt history) state).trace) :
    (world.run (loop.run systemPrompt history) state).Meets SendsValid
      LoopResult.ValidIfAnswered := by
  rw [ConversationLoop.run] at fresh ⊢
  cases configured : loop.setup systemPrompt with
  | error e => exact failed_rounds_valid world _ state e rfl
  | ok setup =>
      simp only [configured] at fresh ⊢
      have early := fresh
      rw [World.run_bind] at early
      have rounds := rounds_valid setup world setup.rounds history none state valid
        (fresh_left _ _ early)
      apply meets_bind_fresh world _ _ state fresh rounds.events
      intro _
      obtain ⟨silent, total⟩ := Proc.ensures_run world _
        (world.run (setup.runRounds setup.rounds history none) state).state
        (total_heedless loop (world.run (setup.runRounds setup.rounds history none) state).value)
      refine ⟨fun event member => heedless_sends_valid _ (silent event member), ?_⟩
      rw [total]
      exact with_total_valid _ rounds.value

variable (conversation : Conversation)

theorem persist_heedless : conversation.persist.Ensures Heedless fun _ => True := by
  rw [Conversation.persist]
  cases conversation.settings.stored with
  | false => trivial
  | true =>
      refine Proc.ensures_after _ _ (by rfl) fun saved => ?_
      cases saved with
      | ok _ => trivial
      | error e => exact Proc.ensures_after _ _ (by rfl) fun _ => trivial

theorem reply_heedless (text : String) :
    (conversation.reply text).Ensures Heedless fun handled =>
      handled.conversation = conversation := by
  refine Proc.ensures_after _ _ (by rfl) fun written => ?_
  cases written <;> rfl

theorem reset_heedless :
    conversation.reset.Ensures Heedless fun handled => handled.conversation.history = [] := by
  apply Proc.ensures_bind _ _ (persist_heedless _)
  intro _ _
  have acknowledged := Proc.ensures_mono _
    (reply_heedless { conversation with history := [] } resetAcknowledgement)
    (fun _ may => may) fun handled (kept : handled.conversation = _) =>
      show handled.conversation.history = [] by rw [kept]
  cases conversation.archives conversation.history with
  | true => exact Proc.ensures_after _ _ (by rfl) fun _ => acknowledged
  | false => exact acknowledged

def Handled.ValidUnlessFailed (conversation : Conversation) (handled : Handled) : Prop :=
  (∃ e, handled = ⟨conversation, .error e⟩) ∨ ProtocolValid handled.conversation.history

theorem answer_valid (world : World σ) (prepared : List Message) (state : σ)
    (valid : ProtocolValid prepared)
    (fresh : FreshIds (world.run (conversation.answer prepared) state).trace) :
    (world.run (conversation.answer prepared) state).Meets SendsValid
      (Handled.ValidUnlessFailed conversation) := by
  have early := fresh
  rw [Conversation.answer, World.run_bind] at early
  obtain ⟨sent, answered⟩ := loop_valid world conversation.settings.agent
    conversation.settings.systemPrompt prepared state valid (fresh_left _ _ early)
  apply meets_bind_fresh world _ _ state fresh sent
  intro _
  revert answered
  generalize world.run (conversation.settings.agent.run _ prepared) state = loop
  obtain ⟨_, ⟨history, usage, outcome⟩, after⟩ := loop
  intro answered
  apply Proc.ensures_run
  refine Proc.ensures_mono _ ?_ heedless_sends_valid fun _ remains => remains
  cases outcome with
  | error e => exact .inl ⟨e, rfl⟩
  | ok response =>
      apply Proc.ensures_bind _ _ (persist_heedless _)
      intro _ _
      have adopted : ProtocolValid history := answered response rfl
      cases response.content.isEmpty with
      | true => exact .inr adopted
      | false =>
          apply Proc.ensures_mono _ (reply_heedless _ response.content) (fun _ may => may)
          intro handled kept
          exact .inr (kept ▸ adopted)

def Conversation.prepare (content : String) (stamp : Stamp) :
    Proc (Except Error (List Message)) := do
  let working := conversation.working stamp content
  if working.changed then Proc.warn "Repaired tool-call pairing in stored history"
  conversation.settings.compactor.compact conversation.settings.systemPrompt working.messages

def Conversation.proceed : Except Error (List Message) → Proc Handled
  | .error e => return ⟨conversation, .error e⟩
  | .ok compacted => conversation.answer (sanitize compacted).messages

theorem turn_prepared (content : String) :
    conversation.turn content = (do
      let stamp ← Proc.stamp
      let prepared ← conversation.prepare content stamp
      conversation.proceed prepared) := by
  rw [Conversation.turn]
  congr 1
  funext stamp
  rw [Conversation.prepare]
  cases changed : (conversation.working stamp content).changed with
  | true =>
      simp only [changed, if_true, bind_assoc]
      rfl
  | false =>
      simp only [changed, Bool.false_eq_true, if_false]
      rfl

theorem prepare_ensures (content : String) (stamp : Stamp) :
    (conversation.prepare content stamp).Ensures OfCompaction OnlyCancelled := by
  have compacted := compact_ensures conversation.settings.compactor
    conversation.settings.systemPrompt (conversation.working stamp content).messages
  rw [Conversation.prepare]
  cases (conversation.working stamp content).changed with
  | true => exact Proc.ensures_after _ _ (.warn _) fun _ => compacted
  | false => exact compacted

theorem turn_valid (world : World σ) (content : String) (state : σ)
    (fresh : FreshIds (world.run (conversation.turn content) state).trace) :
    (world.run (conversation.turn content) state).Meets SendsValid
      (Handled.ValidUnlessFailed conversation) := by
  rw [turn_prepared] at fresh ⊢
  have stamped := World.run_heedless world .stamp state rfl (by simp)
  apply meets_bind_fresh world _ _ state fresh
  · simp [Proc.stamp, stamped, SendsValid]
  generalize (world.run Proc.stamp state).value = stamp
  generalize (world.run Proc.stamp state).state = after
  intro fresh
  apply meets_bind_fresh world _ _ after fresh
  · exact (Proc.ensures_run world _ after (Proc.ensures_mono _
      (prepare_ensures conversation content stamp) of_compaction_sends_valid
        fun _ holds => holds)).events
  generalize (world.run (conversation.prepare content stamp) after).state = prepared
  generalize (world.run (conversation.prepare content stamp) after).value = outcome
  intro fresh
  cases outcome with
  | error e => exact ⟨by simp [Conversation.proceed, World.run_pure], .inl ⟨e, rfl⟩⟩
  | ok compacted =>
      exact answer_valid conversation world _ prepared (sanitized_valid compacted) fresh

theorem handle_valid (world : World σ) (content : String) (state : σ)
    (fresh : FreshIds (world.run (conversation.handle content) state).trace) :
    (world.run (conversation.handle content) state).Meets SendsValid
      (Handled.ValidUnlessFailed conversation) := by
  rw [Conversation.handle] at fresh ⊢
  cases command : conversation.isReset content with
  | true =>
      obtain ⟨silent, emptied⟩ := Proc.ensures_run world _ state (reset_heedless conversation)
      refine ⟨fun event member => heedless_sends_valid _ (silent event member), .inr ?_⟩
      simpa [command, emptied] using valid_empty
  | false =>
      simp only [command, Bool.false_eq_true, if_false] at fresh ⊢
      exact turn_valid conversation world content state fresh

theorem handled_requests_valid (world : World σ) (conversation : Conversation) (content : String)
    (state : σ) (fresh : FreshIds (world.run (conversation.handle content) state).trace) :
    (∀ provider request answer,
      (⟨.chat provider request, answer⟩ : Event) ∈
          (world.run (conversation.handle content) state).trace →
        ProtocolValid request.messages ∧ sanitize request.messages = ⟨request.messages, false⟩) ∧
    ((world.run (conversation.handle content) state).value.outcome = .ok () ∨
        (world.run (conversation.handle content) state).value.conversation.history ≠
          conversation.history →
      ProtocolValid (world.run (conversation.handle content) state).value.conversation.history ∧
        sanitize (world.run (conversation.handle content) state).value.conversation.history =
          ⟨(world.run (conversation.handle content) state).value.conversation.history, false⟩) := by
  obtain ⟨sent, kept⟩ := handle_valid conversation world content state fresh
  constructor
  · intro provider request answer member
    have valid : ProtocolValid request.messages := sent _ member
    exact ⟨valid, sanitize_of_valid _ valid⟩
  · intro adopted
    rcases kept with ⟨e, failed⟩ | valid
    · rw [failed] at adopted
      rcases adopted with succeeded | changed
      · cases succeeded
      · exact absurd rfl changed
    · exact ⟨valid, sanitize_of_valid _ valid⟩

def brokenConversation : Conversation where
  settings :=
    { sessionId := "s"
      systemPrompt := ""
      agent := { provider := some ⟨"model"⟩, tools := some {} }
      compactor := { provider := ⟨"model"⟩, maxContextTokens := 1, recentMessageCount := 2 } }
  history :=
    [.toolResult ⟨"1", .epoch⟩ "a" "stray", .user ⟨"2", .epoch⟩ "hello",
      .withToolCalls ⟨"3", .epoch⟩ "" [⟨"a", "read", ""⟩, ⟨" ", "read", ""⟩],
      .toolResult ⟨"4", .epoch⟩ "a" "late", .toolResult ⟨"5", .epoch⟩ "b" "stray"]

def carelessModel : Script where
  replies :=
    [.ok (.ofText "so far"),
      .ok (.ofToolCalls [⟨"", "read", ""⟩, ⟨"call_0", "read", ""⟩, ⟨"a", "read", ""⟩,
        ⟨"a", "write", ""⟩]),
      .ok (.ofText "done")]

theorem careless_requests_valid :
    FreshIds (scripted.run (brokenConversation.handle "go on") carelessModel).trace ∧
      (scripted.run (brokenConversation.handle "go on") carelessModel).value.outcome = .ok () ∧
      ProtocolValid (scripted.run (brokenConversation.handle "go on")
        carelessModel).value.conversation.history := by
  have fresh : FreshIds (scripted.run (brokenConversation.handle "go on") carelessModel).trace := by
    apply scripted_fresh
    intro response member
    simp only [carelessModel, List.mem_cons, List.not_mem_nil, or_false, Except.ok.injEq] at member
    rcases member with rfl | rfl | rfl <;> decide
  have succeeded :
      (scripted.run (brokenConversation.handle "go on") carelessModel).value.outcome = .ok () := by
    rfl
  exact ⟨fresh, succeeded, ((handled_requests_valid scripted brokenConversation "go on"
    carelessModel fresh).2 (.inl succeeded)).1⟩

end Dialogue
