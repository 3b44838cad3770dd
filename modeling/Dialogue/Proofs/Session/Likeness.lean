import Dialogue.Proofs.Agent.Likeness
import Dialogue.Proofs.Context.Compaction
import Dialogue.Proofs.Session.Exchanges
import Dialogue.Proofs.Session.Requests

set_option autoImplicit false

namespace Dialogue

variable {names : Renaming} {first second : List Message}

inductive OutcomesAlike (names : Renaming) :
    Except Error (List Message) → Except Error (List Message) → Prop where
  | failed (e : Error) : OutcomesAlike names (.error e) (.error e)
  | done {first second : List Message} (alike : Alike names first second) :
      OutcomesAlike names (.ok first) (.ok second)

theorem of_reply_renamed (reply : Raced Effect.Reply) :
    Summary.ofReply (reply.renamed names) = Summary.ofReply reply := by
  match reply with
  | .interrupted => rfl
  | .finished (.error e) => rfl
  | .finished (.ok response) => rfl

theorem settle_alike (outcome : Except Error String) (alike : Alike names first second) :
    Proc.Alike names (OutcomesAlike names) (Compactor.settle first outcome)
      (Compactor.settle second outcome) := by
  cases outcome with
  | ok summary =>
      refine alike_stamp fun stamp also => alike_pure (.done ?_)
      have headed : Alike names [.summary stamp summary] [.summary also summary] := rfl
      exact alike_append headed alike
  | error e =>
      rw [Compactor.settle, Compactor.settle]
      cases e.isCancelled with
      | true => exact alike_pure (.failed _)
      | false =>
          refine alike_plain rfl fun late => ?_
          cases late with
          | true => exact alike_pure (.failed _)
          | false => exact alike_plain rfl fun _ => alike_pure (.done alike)

theorem compact_alike (compactor : Compactor) (systemPrompt : String)
    (alike : Alike names first second) :
    Proc.Alike names (OutcomesAlike names) (compactor.compact systemPrompt first)
      (compactor.compact systemPrompt second) := by
  have same := alike_cut alike compactor systemPrompt
  cases cut : compactor.cut? systemPrompt first with
  | none =>
      rw [Compactor.compact, Compactor.compact, ← same, cut]
      exact alike_pure (.done alike)
  | some start =>
      rw [compact_settles compactor systemPrompt first start cut,
        compact_settles compactor systemPrompt second start (same ▸ cut)]
      refine alike_stamp fun asked also => ?_
      refine alike_chat _ (.summary asked also _ (alike_take alike start)) fun reply => ?_
      rw [of_reply_renamed]
      exact settle_alike _ (alike_drop alike start)

structure Conversation.Alike (names : Renaming) (conversation other : Conversation) : Prop where
  settings : other.settings = conversation.settings
  history : Dialogue.Alike names conversation.history other.history

structure Handled.Alike (names : Renaming) (handled other : Handled) : Prop where
  conversation : handled.conversation.Alike names other.conversation
  outcome : handled.outcome = other.outcome

section Handling

variable {settings : ConversationSettings}

theorem persist_alike (alike : Alike names first second) :
    Proc.Alike names Eq (Conversation.persist ⟨settings, first⟩)
      (Conversation.persist ⟨settings, second⟩) := by
  rw [Conversation.persist, Conversation.persist]
  cases settings.stored with
  | false => exact alike_pure rfl
  | true =>
      refine alike_save _ alike fun saved => ?_
      cases saved with
      | ok _ => exact alike_pure rfl
      | error e => exact alike_self _ (Proc.ensures_after _ _ (by rfl) fun _ => trivial)

theorem reply_alike (text : String) (alike : Alike names first second) :
    Proc.Alike names (Handled.Alike names) (Conversation.reply ⟨settings, first⟩ text)
      (Conversation.reply ⟨settings, second⟩ text) := by
  refine alike_plain rfl fun written => ?_
  cases written <;> exact alike_pure ⟨⟨rfl, alike⟩, rfl⟩

theorem reset_alike (alike : Alike names first second) :
    Proc.Alike names (Handled.Alike names) (Conversation.reset ⟨settings, first⟩)
      (Conversation.reset ⟨settings, second⟩) := by
  have archives : Conversation.archives ⟨settings, first⟩ first =
      Conversation.archives ⟨settings, second⟩ second := by
    rw [Conversation.archives, Conversation.archives, alike_empty alike]
  rw [Conversation.reset, Conversation.reset]
  have cleared : Alike names [] [] := rfl
  apply alike_bind (persist_alike cleared)
  rintro _ _ -
  dsimp only
  rw [archives]
  cases Conversation.archives ⟨settings, second⟩ second with
  | false => exact reply_alike _ cleared
  | true =>
      exact alike_archive (Conversation.archiveJob ⟨settings, first⟩ []) alike
        (reply_alike _ cleared)

theorem answer_alike {prepared other : List Message} (alike : Alike names first second)
    (prepares : Alike names prepared other) :
    Proc.Alike names (Handled.Alike names) (Conversation.answer ⟨settings, first⟩ prepared)
      (Conversation.answer ⟨settings, second⟩ other) := by
  apply alike_bind (loop_alike settings.agent settings.systemPrompt prepares)
  rintro ⟨history, usage, outcome⟩ ⟨history', _, _⟩ ⟨histories, rfl, rfl⟩
  cases outcome with
  | error e => exact alike_pure ⟨⟨rfl, alike⟩, rfl⟩
  | ok response =>
      apply alike_bind (persist_alike histories)
      rintro _ _ -
      change Proc.Alike names _ _ (if response.content.isEmpty then _ else _)
      cases response.content.isEmpty with
      | true => exact alike_pure ⟨⟨rfl, histories⟩, rfl⟩
      | false => exact reply_alike response.content histories

theorem prepare_alike (content : String) (stamp also : Stamp) (alike : Alike names first second) :
    Proc.Alike names (OutcomesAlike names) (Conversation.prepare ⟨settings, first⟩ content stamp)
      (Conversation.prepare ⟨settings, second⟩ content also) := by
  have said : Alike names [.user stamp content] [.user also content] := rfl
  obtain ⟨working, changed⟩ := alike_sanitized (alike_append alike said)
  have compacts := compact_alike settings.compactor settings.systemPrompt working
  rw [Conversation.prepare, Conversation.prepare, Conversation.working, Conversation.working,
    ← changed]
  cases (sanitize (first ++ [.user stamp content])).changed with
  | true => exact alike_plain rfl fun _ => compacts
  | false => exact compacts

theorem turn_alike (content : String) (alike : Alike names first second) :
    Proc.Alike names (Handled.Alike names) (Conversation.turn ⟨settings, first⟩ content)
      (Conversation.turn ⟨settings, second⟩ content) := by
  rw [turn_prepared, turn_prepared]
  refine alike_stamp fun stamp also => ?_
  apply alike_bind (prepare_alike content stamp also alike)
  intro outcome other outcomes
  cases outcomes with
  | failed e => exact alike_pure ⟨⟨rfl, alike⟩, rfl⟩
  | done prepared => exact answer_alike alike (alike_sanitized prepared).1

end Handling

theorem handle_alike (content : String) (conversation other : Conversation)
    (alike : conversation.Alike names other) :
    Proc.Alike names (Handled.Alike names) (conversation.handle content)
      (other.handle content) := by
  obtain ⟨_, first⟩ := conversation
  obtain ⟨settings, second⟩ := other
  obtain ⟨rfl, histories⟩ := alike
  have resets : Conversation.isReset ⟨settings, first⟩ content =
      Conversation.isReset ⟨settings, second⟩ content := rfl
  rw [Conversation.handle, Conversation.handle, resets]
  cases Conversation.isReset ⟨settings, second⟩ content with
  | true => exact reset_alike histories
  | false => exact turn_alike content histories

variable {σ τ : Type}

structure Exchange.Alike (names : Renaming) (states : σ → τ → Prop) (exchange : Exchange σ)
    (other : Exchange τ) : Prop where
  content : exchange.content = other.content
  worlds : World.Alike names states exchange.world other.world
  meanwhile : ∀ state also, states state also →
    states (exchange.meanwhile state) (other.meanwhile also)

structure Exchanged.Alike (names : Renaming) (done : Exchanged σ) (other : Exchanged τ) : Prop where
  trace : List.Forall₂ (Event.Alike names) done.run.trace other.run.trace
  outcome : done.run.value.outcome = other.run.value.outcome
  conversation : done.next.Alike names other.next

theorem exchanged_alike {states : σ → τ → Prop} (done : Exchanged σ) (other : Exchanged τ)
    (exchange : done.exchange.Alike names states other.exchange)
    (alike : done.conversation.Alike names other.conversation)
    (like : states done.state other.state) :
    done.Alike names other ∧ states done.run.state other.run.state := by
  have handled : Proc.Alike names (Handled.Alike names)
      (done.conversation.handle done.exchange.content)
      (other.conversation.handle other.exchange.content) := by
    rw [← exchange.content]
    exact handle_alike _ _ _ alike
  obtain ⟨events, values, onward⟩ := run_alike exchange.worlds handled _ _ like
  rw [← Exchanged.run, ← Exchanged.run] at events values onward
  exact ⟨⟨events, values.outcome, values.conversation⟩, onward⟩

-- By induction on the messages: conversations that are alike handle each of them alike.
theorem converse_alike {states : σ → τ → Prop} (exchanges : List (Exchange σ))
    (others : List (Exchange τ))
    (exchanged : List.Forall₂ (Exchange.Alike names states) exchanges others)
    (conversation other : Conversation) (alike : conversation.Alike names other)
    (state : σ) (also : τ) (like : states state also) :
    List.Forall₂ (Exchanged.Alike names) (conversation.converse exchanges state)
      (other.converse others also) := by
  induction exchanged generalizing conversation other state also with
  | nil => exact .nil
  | @cons exchange another rest more first _ ih =>
      obtain ⟨done, onward⟩ := exchanged_alike
        ⟨exchange, conversation, exchange.meanwhile state⟩ ⟨another, other, another.meanwhile also⟩
        first alike (first.meanwhile state also like)
      rw [Conversation.converse, Conversation.converse]
      exact .cons done (ih _ _ done.conversation _ _ onward)

end Dialogue
