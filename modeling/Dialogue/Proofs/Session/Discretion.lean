import Dialogue.Dispatch.Handling
import Dialogue.Proofs.Agent.Rounds
import Dialogue.Proofs.Context.Compaction
import Dialogue.Proofs.Process.Discretion
import Dialogue.Proofs.Session.Requests

set_option autoImplicit false

namespace Dialogue

inductive Concur {α : Type} : Except Error α → Except Error α → Prop where
  | answered (value : α) : Concur (.ok value) (.ok value)
  | failed (e other : Error) (looks : e.isCancelled = other.isCancelled) :
      Concur (.error e) (.error other)

theorem concur_same {α : Type} (outcome : Except Error α) : Concur outcome outcome := by
  cases outcome with
  | ok value => exact .answered value
  | error e => exact .failed e e rfl

theorem provider_concurs {α : Type} (e other : ProviderError)
    (looks : e = .cancelled ↔ other = .cancelled) :
    Concur (.error (.provider e) : Except Error α) (.error (.provider other)) := by
  have same : (Error.provider e).isCancelled = (Error.provider other).isCancelled := by
    cases e <;> cases other <;> simp_all [Error.isCancelled]
  exact .failed _ _ same

theorem of_calls_no_chat (effect : Effect) (may : effect.OfCalls) : effect.isChat = false := by
  cases may <;> rfl

theorem discreet_calls {α : Type} {post : α → Prop} (process : Proc α)
    (holds : process.Ensures Effect.OfCalls post) : Proc.Discreet Eq process process :=
  discreet_self process
    (Proc.ensures_mono process holds of_calls_no_chat fun _ _ => trivial)

structure LoopResult.Concurs (result other : LoopResult) : Prop where
  history : result.history = other.history
  usage : result.usage = other.usage
  outcome : Concur result.outcome other.outcome

theorem assigned_calls_discreet (calls : List ToolCall) :
    Proc.Discreet Eq (LoopSetup.assignedCalls calls) (LoopSetup.assignedCalls calls) := by
  refine discreet_after rfl fun supply => ?_
  apply discreet_bind (discreet_calls _
    (minor_of_calls _ (report_replaced_ensures (assignCallIds supply calls))))
  exact fun _ _ _ => discreet_pure rfl

theorem rounds_discreet (setup : LoopSetup) (left : Nat) (history : List Message)
    (usage : Option TokenUsage) :
    Proc.Discreet LoopResult.Concurs (setup.runRounds left history usage)
      (setup.runRounds left history usage) := by
  induction left generalizing history usage with
  | zero => exact discreet_after rfl fun _ => discreet_pure ⟨rfl, rfl, concur_same _⟩
  | succ left ih =>
      rw [run_rounds_succ]
      refine discreet_chat _ _ (fun reply => ?_) fun e other looks =>
        discreet_pure ⟨rfl, rfl, provider_concurs e other looks⟩
      match reply with
      | .interrupted => exact discreet_pure ⟨rfl, rfl, concur_same _⟩
      | .finished (.error e) => exact discreet_pure ⟨rfl, rfl, concur_same _⟩
      | .finished (.ok response) =>
          dsimp only
          cases response.toolCalls.isEmpty with
          | true =>
              apply discreet_bind (discreet_calls _
                (minor_of_calls _ (append_answer_ensures response history)))
              rintro after _ rfl
              exact discreet_pure ⟨rfl, rfl, concur_same _⟩
          | false =>
              apply discreet_bind (assigned_calls_discreet response.toolCalls)
              rintro calls _ rfl
              refine discreet_after rfl fun stamp => ?_
              apply discreet_bind (discreet_calls _ (answer_calls_ensures setup calls _))
              rintro ⟨after, failure⟩ _ rfl
              cases failure with
              | some e => exact discreet_pure ⟨rfl, rfl, concur_same _⟩
              | none => exact ih after _

theorem with_total_concurs (result other : LoopResult) (concurs : result.Concurs other) :
    (ConversationLoop.withTotal result).Concurs (ConversationLoop.withTotal other) := by
  obtain ⟨history, usage, outcome⟩ := result
  obtain ⟨_, _, ended⟩ := other
  obtain ⟨rfl, rfl, outcomes⟩ := concurs
  cases outcomes with
  | answered response => exact ⟨rfl, rfl, .answered _⟩
  | failed e other looks => exact ⟨rfl, rfl, .failed e other looks⟩

theorem loop_discreet (loop : ConversationLoop) (systemPrompt : String) (history : List Message) :
    Proc.Discreet LoopResult.Concurs (loop.run systemPrompt history)
      (loop.run systemPrompt history) := by
  rw [ConversationLoop.run]
  cases loop.setup systemPrompt with
  | error e => exact discreet_pure ⟨rfl, rfl, concur_same _⟩
  | ok setup =>
      apply discreet_bind (rounds_discreet setup _ history none)
      intro result other concurs
      have totals := with_total_concurs result other concurs
      dsimp only
      rw [concurs.usage]
      cases loop.reportsUsage with
      | true => exact discreet_after rfl fun _ => discreet_pure totals
      | false => exact discreet_pure totals

theorem settle_discreet (recent : List Message) (outcome other : Except Error String)
    (concur : Concur outcome other) :
    Proc.Discreet Eq (Compactor.settle recent outcome) (Compactor.settle recent other) := by
  cases concur with
  | answered summary => exact discreet_after rfl fun _ => discreet_pure rfl
  | failed e other looks =>
      rw [Compactor.settle, Compactor.settle, looks]
      cases other.isCancelled with
      | true => exact discreet_pure rfl
      | false =>
          refine discreet_after rfl fun late => ?_
          cases late with
          | true => exact discreet_pure rfl
          | false => exact discreet_after rfl fun _ => discreet_pure rfl

theorem compact_discreet (compactor : Compactor) (systemPrompt : String)
    (messages : List Message) :
    Proc.Discreet Eq (compactor.compact systemPrompt messages)
      (compactor.compact systemPrompt messages) := by
  cases cut : compactor.cut? systemPrompt messages with
  | none =>
      rw [Compactor.compact, cut]
      exact discreet_pure rfl
  | some start =>
      rw [compact_settles compactor systemPrompt messages start cut]
      refine discreet_after rfl fun asked => ?_
      exact discreet_chat _ _ (fun reply => settle_discreet _ _ _ (concur_same _))
        fun e other looks => settle_discreet _ _ _ (provider_concurs e other looks)

structure Handled.Concurs (handled other : Handled) : Prop where
  conversation : handled.conversation = other.conversation
  outcome : Concur handled.outcome other.outcome

variable (conversation : Conversation)

theorem persist_discreet : Proc.Discreet Eq conversation.persist conversation.persist := by
  rw [Conversation.persist]
  cases conversation.settings.stored with
  | false => exact discreet_pure rfl
  | true =>
      refine discreet_after rfl fun saved => ?_
      cases saved with
      | ok _ => exact discreet_pure rfl
      | error e => exact discreet_self _ (Proc.ensures_after _ _ (by rfl) fun _ => trivial)

theorem reply_discreet (text : String) :
    Proc.Discreet Handled.Concurs (conversation.reply text) (conversation.reply text) := by
  refine discreet_after rfl fun written => ?_
  cases written <;> exact discreet_pure ⟨rfl, concur_same _⟩

theorem reset_discreet :
    Proc.Discreet Handled.Concurs conversation.reset conversation.reset := by
  rw [Conversation.reset]
  apply discreet_bind (persist_discreet _)
  rintro _ _ -
  dsimp only
  cases conversation.archives conversation.history with
  | true => exact discreet_after rfl fun _ => reply_discreet _ _
  | false => exact reply_discreet _ _

theorem answer_discreet (prepared : List Message) :
    Proc.Discreet Handled.Concurs (conversation.answer prepared)
      (conversation.answer prepared) := by
  apply discreet_bind (loop_discreet _ _ _)
  rintro ⟨history, usage, outcome⟩ ⟨_, _, other⟩ ⟨rfl, rfl, outcomes⟩
  cases outcomes with
  | failed e other looks => exact discreet_pure ⟨rfl, .failed e other looks⟩
  | answered response =>
      apply discreet_bind (persist_discreet _)
      rintro _ _ -
      dsimp only
      cases response.content.isEmpty with
      | true => exact discreet_pure ⟨rfl, concur_same _⟩
      | false => exact reply_discreet _ _

theorem prepare_discreet (content : String) (stamp : Stamp) :
    Proc.Discreet Eq (conversation.prepare content stamp) (conversation.prepare content stamp) := by
  rw [Conversation.prepare]
  cases (conversation.working stamp content).changed with
  | true => exact discreet_after rfl fun _ => compact_discreet _ _ _
  | false => exact compact_discreet _ _ _

theorem turn_discreet (content : String) :
    Proc.Discreet Handled.Concurs (conversation.turn content) (conversation.turn content) := by
  rw [turn_prepared]
  refine discreet_after rfl fun stamp => ?_
  apply discreet_bind (prepare_discreet conversation content stamp)
  rintro prepared _ rfl
  cases prepared with
  | error e => exact discreet_pure ⟨rfl, concur_same _⟩
  | ok compacted => exact answer_discreet conversation _

theorem handle_discreet (content : String) :
    Proc.Discreet Handled.Concurs (conversation.handle content) (conversation.handle content) := by
  rw [Conversation.handle]
  cases conversation.isReset content with
  | true => exact reset_discreet conversation
  | false => exact turn_discreet conversation content

namespace Dispatch

-- The worker looks at the kind of an error only.
theorem conclude_discreet (outcome other : Except Error Unit) (concur : Concur outcome other) :
    Proc.Discreet Eq (conclude outcome) (conclude other) := by
  cases concur with
  | answered value => exact discreet_pure rfl
  | failed e other looks =>
      rw [conclude, conclude, looks]
      cases other.isCancelled with
      | true => exact discreet_pure rfl
      | false =>
          refine discreet_after rfl fun late => ?_
          cases late with
          | true => exact discreet_pure rfl
          | false =>
              refine discreet_after rfl fun _ => discreet_after rfl fun written => ?_
              cases written with
              | ok _ => exact discreet_pure rfl
              | error e => exact discreet_self _ (Proc.ensures_after _ _ (by rfl) fun _ => trivial)

theorem worker_discreet (message : Inbound) :
    Proc.Discreet Eq (handle conversation message) (handle conversation message) := by
  apply discreet_bind (handle_discreet conversation message.content)
  rintro handled other ⟨conversations, outcomes⟩
  apply discreet_bind (conclude_discreet _ _ outcomes)
  rintro _ _ -
  exact discreet_pure conversations

end Dispatch

end Dialogue
