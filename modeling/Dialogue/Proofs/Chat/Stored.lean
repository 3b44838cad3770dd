import Dialogue.Chat.Codec
import Dialogue.Proofs.Json.Printed
import Dialogue.Proofs.Time.Rfc3339

set_option autoImplicit false

namespace Dialogue

open Json (Decoder Reads Opens Fills render)

theorem timestamp_reads (levels : Nat) (time : Timestamp) :
    Reads Decoder.timestamp levels (render (.string time.text)) time := by
  intro depth rest _
  rw [render, Timestamp.text, String.toList_ofList, Json.quote_append, Decoder.timestamp,
    Json.skip_space_quote]
  simp only [Json.string_tail_text, bind, Except.bind, Timestamp.read_write]

theorem kind_known (kind : MessageKind) :
    MessageKind.variants.lookup kind.name = some kind := by
  cases kind <;> rfl

theorem role_known (role : Role) : Role.variants.lookup role.name = some role := by
  cases role <;> rfl

theorem call_reads (call : ToolCall) :
    Reads ToolCall.record.decoder 1 (render call.toJson) call := by
  have filled : Fills ToolCall.record.fields 0
      [("id", .string call.id), ("name", .string call.name), ("arguments", .string call.arguments)]
      {} ⟨some call.id, some call.name, some call.arguments⟩ :=
    .cons _ rfl rfl (Json.field_reads _ _ _ _ _ (Json.string_reads 0 call.id)) <|
    .cons _ rfl rfl (Json.field_reads _ _ _ _ _ (Json.string_reads 0 call.name)) <|
    .cons _ rfl rfl (Json.field_reads _ _ _ _ _ (Json.string_reads 0 call.arguments)) <|
    .nil _
  refine Json.object_reads ToolCall.record filled ?_ rfl
  simp [ToolCall.record, Json.field]

theorem calls_read (calls : List ToolCall) :
    Reads (Decoder.list ToolCall.record.decoder) 2 (render (.array (calls.map ToolCall.toJson)))
      calls :=
  Json.list_reads (fun call _ => call_reads call) (fun _ _ => Json.opens_object _)

namespace Message

def drafted (message : Message) : Draft where
  id := some message.id
  kind := some message.kind
  role := some message.role
  content := some message.content
  toolCallId := message.toolCallId.map some
  toolCalls := if message.toolCalls.isEmpty then none else some message.toolCalls
  timestamp := some message.timestamp

theorem drafted_builds (message : Message) : record.build message.drafted = some message := by
  obtain ⟨id, kind, role, content, answered, calls, timestamp⟩ := message
  cases answered <;> cases calls <;> rfl

theorem answered_fills (message : Message) (draft : Draft) (absent : draft.toolCallId = none) :
    Fills record.fields 2 (Json.optional "tool_call_id" .string message.toolCallId) draft
      { draft with toolCallId := message.toolCallId.map some } := by
  cases answered : message.toolCallId with
  | none =>
      have same : draft = { draft with toolCallId := none } := by rw [← absent]
      rw [Json.optional, Option.map_none, ← same]
      exact .nil draft
  | some id =>
      have reads := Json.option_reads 2 _ id (Json.string_reads 2 id) (Json.opens_quote id.toList)
      exact .cons _ rfl (congrArg Option.isSome absent) (Json.field_reads _ _ _ _ _ reads) (.nil _)

theorem calls_fill (message : Message) (draft : Draft) (absent : draft.toolCalls = none) :
    Fills record.fields 2 (Json.nonEmpty "tool_calls" ToolCall.toJson message.toolCalls) draft
      { draft with
        toolCalls := if message.toolCalls.isEmpty then none else some message.toolCalls } := by
  cases calls : message.toolCalls with
  | nil =>
      have same : draft = { draft with toolCalls := none } := by rw [← absent]
      rw [Json.nonEmpty, List.isEmpty_nil, if_pos rfl, if_pos rfl, ← same]
      exact .nil draft
  | cons call rest =>
      have reads := calls_read (call :: rest)
      exact .cons _ rfl (congrArg Option.isSome absent) (Json.field_reads _ _ _ _ _ reads) (.nil _)

theorem members_fill (message : Message) :
    Fills record.fields 2
      (("id", .string message.id) :: message.bodyMembers ++
        [("timestamp", .string message.timestamp.text)])
      {} message.drafted := by
  have body : Fills record.fields 2 (("id", .string message.id) :: message.bodyMembers) {}
      { message.drafted with timestamp := none } :=
    .cons _ rfl rfl (Json.field_reads _ _ _ _ _ (Json.string_reads 2 message.id)) <|
    .cons _ rfl rfl (Json.field_reads _ _ _ _ _
      (Json.variant_reads 2 _ _ _ (kind_known message.kind))) <|
    .cons _ rfl rfl (Json.field_reads _ _ _ _ _
      (Json.variant_reads 2 _ _ _ (role_known message.role))) <|
    .cons _ rfl rfl (Json.field_reads _ _ _ _ _ (Json.string_reads 2 message.content)) <|
    (answered_fills message _ rfl).append (calls_fill message _ rfl)
  have time := timestamp_reads 2 message.timestamp
  exact body.append (.cons _ rfl rfl (Json.field_reads _ _ _ _ _ time) (.nil _))

theorem message_reads (message : Message) :
    Reads record.decoder 3 (render message.toJson) message := by
  refine Json.object_reads record message.members_fill ?_ message.drafted_builds
  simp [record, Json.field, drafted]

theorem stored_read_back :
    (∀ message : Message, read message.write = .ok message) ∧
      ∀ messages : List Message, readAll (writeAll messages) = .ok messages := by
  constructor
  · intro message
    exact Json.decode_reads _ 3 _ _ message.message_reads (by decide)
  · intro messages
    have list := Json.list_reads (fun message (_ : message ∈ messages) => message.message_reads)
      (fun _ _ => Json.opens_object _)
    exact Json.decode_reads _ 4 _ _ list (by decide)

end Message

end Dialogue
