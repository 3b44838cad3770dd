import Dialogue.Proofs.History.Stripped

set_option autoImplicit false

namespace Dialogue

-- The messages do not begin with a result, whose block would begin before them.
def OpensBlock (messages : List Message) : Prop :=
  ∀ first ∈ messages.head?, first.isTool = false

instance (messages : List Message) : Decidable (OpensBlock messages) :=
  inferInstanceAs (Decidable (∀ first ∈ messages.head?, first.isTool = false))

theorem opens_no_orphans (messages : List Message) (opens : OpensBlock messages) :
    (Blocks.ofMessages messages).orphans = [] := by
  cases messages with
  | nil => rfl
  | cons first rest => rw [Blocks.of_messages_head first rest (opens first rfl)]

structure CompleteRound (issuer : Message) (results : List Message) : Prop where
  assistant : issuer.role = .assistant
  identified : ∀ call ∈ issuer.toolCalls, Text.isBlank call.id = false
  distinct : (issuer.toolCalls.map ToolCall.id).Nodup
  answered : List.Forall₂ ResultOf issuer.toolCalls results

theorem complete_round_unchanged (issuer : Message) (results : List Message)
    (complete : CompleteRound issuer results) :
    sanitize (issuer :: results) = ⟨issuer :: results, false⟩ :=
  sanitize_of_valid _ (valid_round issuer results complete.assistant complete.identified
    complete.distinct complete.answered)

theorem sanitize_opened (first second : List Message) (opens : OpensBlock second) :
    sanitize (first ++ second) =
      ⟨(sanitize first).messages ++ (sanitize second).messages,
        (sanitize first).changed || (sanitize second).changed⟩ :=
  sanitize_append first second (opens_no_orphans second opens)

theorem sanitize_around_round (before after : List Message) (issuer : Message)
    (results : List Message) (complete : CompleteRound issuer results)
    (opens : OpensBlock after) :
    sanitize (before ++ (issuer :: results) ++ after) =
      ⟨(sanitize before).messages ++ (issuer :: results) ++ (sanitize after).messages,
        (sanitize before).changed || (sanitize after).changed⟩ := by
  have untool : OpensBlock (issuer :: results) := by
    rintro _ ⟨⟩
    simp [Message.isTool, complete.assistant]
  rw [sanitize_opened _ after opens, sanitize_opened before _ untool,
    complete_round_unchanged issuer results complete, Bool.or_false]

theorem valid_behind (first second : List Message) (opens : OpensBlock second)
    (valid : ProtocolValid (first ++ second)) : ProtocolValid second := by
  have closed := opens_no_orphans second opens
  have split := Blocks.of_messages_append first second closed
  refine ⟨closed, fun block member => valid.blocksValid block ?_⟩
  rw [split]
  exact List.mem_append_right _ member

theorem repair_is_local (first second : List Message) (opens : OpensBlock second) :
    sanitize (first ++ second) =
        ⟨(sanitize first).messages ++ (sanitize second).messages,
          (sanitize first).changed || (sanitize second).changed⟩ ∧
      (∀ issuer results, CompleteRound issuer results →
        sanitize (first ++ (issuer :: results) ++ second) =
          ⟨(sanitize first).messages ++ (issuer :: results) ++ (sanitize second).messages,
            (sanitize first).changed || (sanitize second).changed⟩) ∧
      ∀ messages start, messages.drop start = second →
        sanitize messages =
            ⟨(sanitize (messages.take start)).messages ++ (sanitize second).messages,
              (sanitize (messages.take start)).changed || (sanitize second).changed⟩ ∧
          (sanitize messages = ⟨messages, false⟩ → sanitize second = ⟨second, false⟩) := by
  refine ⟨sanitize_opened first second opens, fun issuer results complete =>
    sanitize_around_round first second issuer results complete opens, ?_⟩
  rintro messages start rfl
  have apart := sanitize_opened (messages.take start) _ opens
  rw [List.take_append_drop] at apart
  refine ⟨apart, fun unchanged => ?_⟩
  have valid := (protocol_valid_iff messages).mpr unchanged
  rw [← List.take_append_drop start messages] at valid
  exact sanitize_of_valid _ (valid_behind _ _ opens valid)

def interrupted : List Message :=
  [.user ⟨"0", .epoch⟩ "Read both.",
    .withToolCalls ⟨"1", .epoch⟩ "" [⟨"a", "read", ""⟩, ⟨"b", "read", ""⟩]]

def resumed : List Message :=
  [.user ⟨"2", .epoch⟩ "Go on.", .toolResult ⟨"3", .epoch⟩ "a" "late"]

def repeatedCall : Message := .withToolCalls ⟨"4", .epoch⟩ "" [⟨"a", "read", ""⟩]

def repeatedResult : Message := .toolResult ⟨"5", .epoch⟩ "a" "text"

theorem interrupted_repaired_apart :
    OpensBlock resumed ∧ CompleteRound repeatedCall [repeatedResult] ∧
      sanitize (interrupted ++ [repeatedCall, repeatedResult] ++ resumed) =
        ⟨[.user ⟨"0", .epoch⟩ "Read both.", .withToolCalls ⟨"1", .epoch⟩ "" [], repeatedCall,
          repeatedResult, .user ⟨"2", .epoch⟩ "Go on."], true⟩ := by
  have opens : OpensBlock resumed := by decide
  have complete : CompleteRound repeatedCall [repeatedResult] :=
    ⟨rfl, by decide, by decide, .cons ⟨rfl, rfl⟩ .nil⟩
  refine ⟨opens, complete, ?_⟩
  rw [(repair_is_local interrupted resumed opens).2.1 repeatedCall [repeatedResult] complete]
  decide

end Dialogue
