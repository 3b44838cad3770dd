import Dialogue.Chat.Request
import Dialogue.Json.Decoder
import Dialogue.Time.Rfc3339

set_option autoImplicit false

namespace Dialogue

namespace Json

def optional {α : Type} (key : String) (encode : α → Json) (value : Option α) :
    List (String × Json) :=
  match value with
  | some value => [(key, encode value)]
  | none => []

def nonEmpty {α : Type} (key : String) (encode : α → Json) (values : List α) :
    List (String × Json) :=
  if values.isEmpty then [] else [(key, .array (values.map encode))]

def Decoder.timestamp : Decoder Timestamp := fun _ chars =>
  match skipSpace chars with
  | '"' :: rest => do
    let (text, rest) ← stringTail (rest.length + 1) rest
    match Timestamp.read? text with
    | some time => .ok (time, rest)
    | none => .error ⟨.badTimestamp, rest, 0⟩
  | rest => unexpected "an RFC 3339 formatted date and time string" rest

end Json

open Json (Decoder)

namespace Role

def variants : List (String × Role) := [("user", user), ("assistant", assistant), ("tool", tool)]

end Role

namespace MessageKind

def variants : List (String × MessageKind) := [("normal", normal), ("summary", summary)]

end MessageKind

namespace ToolCall

def toJson (call : ToolCall) : Json :=
  .object [("id", .string call.id), ("name", .string call.name),
    ("arguments", .string call.arguments)]

structure Draft where
  id : Option String := none
  name : Option String := none
  arguments : Option String := none

def record : Json.Record Draft ToolCall where
  name := "ToolCall"
  draft := {}
  fields :=
    [Json.field "id" true Decoder.string (·.id) fun d x => { d with id := some x },
     Json.field "name" true Decoder.string (·.name) fun d x => { d with name := some x },
     Json.field "arguments" false Decoder.string (·.arguments)
       fun d x => { d with arguments := some x }]
  build d := do some ⟨← d.id, ← d.name, d.arguments.getD ""⟩

end ToolCall

namespace Message

def bodyMembers (message : Message) : List (String × Json) :=
  [("kind", .string message.kind.name), ("role", .string message.role.name),
    ("content", .string message.content)] ++
    Json.optional "tool_call_id" .string message.toolCallId ++
    Json.nonEmpty "tool_calls" ToolCall.toJson message.toolCalls

def toJson (message : Message) : Json :=
  .object (("id", .string message.id) :: message.bodyMembers ++
    [("timestamp", .string message.timestamp.text)])

structure Draft where
  id : Option String := none
  kind : Option MessageKind := none
  role : Option Role := none
  content : Option String := none
  toolCallId : Option (Option String) := none
  toolCalls : Option (List ToolCall) := none
  timestamp : Option Timestamp := none

def record : Json.Record Draft Message where
  name := "ChatMessage"
  draft := {}
  fields :=
    [Json.field "id" true Decoder.string (·.id) fun d x => { d with id := some x },
     Json.field "kind" false (Decoder.variant MessageKind.variants) (·.kind)
       fun d x => { d with kind := some x },
     Json.field "role" true (Decoder.variant Role.variants) (·.role)
       fun d x => { d with role := some x },
     Json.field "content" false Decoder.string (·.content) fun d x => { d with content := some x },
     Json.field "tool_call_id" false (Decoder.option Decoder.string) (·.toolCallId)
       fun d x => { d with toolCallId := some x },
     Json.field "tool_calls" false (Decoder.list ToolCall.record.decoder) (·.toolCalls)
       fun d x => { d with toolCalls := some x },
     Json.field "timestamp" true Decoder.timestamp (·.timestamp)
       fun d x => { d with timestamp := some x }]
  build d := do
    some { id := ← d.id, kind := d.kind.getD .normal, role := ← d.role,
           content := d.content.getD "", toolCallId := d.toolCallId.getD none,
           toolCalls := d.toolCalls.getD [], timestamp := ← d.timestamp }

def write (message : Message) : List Char := message.toJson.render

def writeAll (messages : List Message) : List Char := (Json.array (messages.map toJson)).render

def read (chars : List Char) : Except Json.Fault Message := Json.decode record.decoder chars

def readAll (chars : List Char) : Except Json.Fault (List Message) :=
  Json.decode (Decoder.list record.decoder) chars

end Message

namespace TokenUsage

def toJson (usage : TokenUsage) : Json :=
  .object ([("input_tokens", .nat usage.inputTokens.toNat),
    ("output_tokens", .nat usage.outputTokens.toNat),
    ("total_tokens", .nat usage.totalTokens.toNat)] ++
    Json.optional "cost_usd" (fun cost => .number (.float cost)) usage.costUsd)

structure Draft where
  inputTokens : Option Nat := none
  outputTokens : Option Nat := none
  totalTokens : Option Nat := none
  costUsd : Option (Option Float) := none

def record : Json.Record Draft TokenUsage where
  name := "TokenUsage"
  draft := {}
  fields :=
    [Json.field "input_tokens" true Decoder.u64 (·.inputTokens)
       fun d x => { d with inputTokens := some x },
     Json.field "output_tokens" true Decoder.u64 (·.outputTokens)
       fun d x => { d with outputTokens := some x },
     Json.field "total_tokens" true Decoder.u64 (·.totalTokens)
       fun d x => { d with totalTokens := some x },
     Json.field "cost_usd" false (Decoder.option Decoder.float) (·.costUsd)
       fun d x => { d with costUsd := some x }]
  build d := do
    some ⟨.ofNat (← d.inputTokens), .ofNat (← d.outputTokens), .ofNat (← d.totalTokens),
      d.costUsd.getD none⟩

end TokenUsage

namespace ToolDefinition

def toJson (definition : ToolDefinition) : Json :=
  .object [("name", .string definition.name), ("description", .string definition.description),
    ("parameters", definition.parameters)]

structure Draft where
  name : Option String := none
  description : Option String := none
  parameters : Option Json := none

def record : Json.Record Draft ToolDefinition where
  name := "ToolDefinition"
  draft := {}
  fields :=
    [Json.field "name" true Decoder.string (·.name) fun d x => { d with name := some x },
     Json.field "description" true Decoder.string (·.description)
       fun d x => { d with description := some x },
     Json.field "parameters" true Decoder.value (·.parameters)
       fun d x => { d with parameters := some x }]
  build d := do some ⟨← d.name, ← d.description, ← d.parameters⟩

end ToolDefinition

namespace ChatRequest

def toJson (request : ChatRequest) : Json :=
  .object ([("system_prompt", .string request.systemPrompt),
    ("messages", .array (request.messages.map Message.toJson))] ++
    Json.nonEmpty "tools" ToolDefinition.toJson request.tools ++
    Json.optional "max_tokens" .nat request.maxTokens)

structure Draft where
  systemPrompt : Option String := none
  messages : Option (List Message) := none
  tools : Option (List ToolDefinition) := none
  maxTokens : Option (Option Nat) := none

def record : Json.Record Draft ChatRequest where
  name := "ChatRequest"
  draft := {}
  fields :=
    [Json.field "system_prompt" true Decoder.string (·.systemPrompt)
       fun d x => { d with systemPrompt := some x },
     Json.field "messages" true (Decoder.list Message.record.decoder) (·.messages)
       fun d x => { d with messages := some x },
     Json.field "tools" false (Decoder.list ToolDefinition.record.decoder) (·.tools)
       fun d x => { d with tools := some x },
     Json.field "max_tokens" false (Decoder.option Decoder.u32) (·.maxTokens)
       fun d x => { d with maxTokens := some x }]
  build d := do some ⟨← d.systemPrompt, ← d.messages, d.tools.getD [], d.maxTokens.getD none⟩

end ChatRequest

namespace ChatResponse

def toJson (response : ChatResponse) : Json :=
  .object (("content", .string response.content) ::
    Json.nonEmpty "tool_calls" ToolCall.toJson response.toolCalls ++
    Json.optional "usage" TokenUsage.toJson response.usage)

structure Draft where
  content : Option String := none
  toolCalls : Option (List ToolCall) := none
  usage : Option (Option TokenUsage) := none

def record : Json.Record Draft ChatResponse where
  name := "ChatResponse"
  draft := {}
  fields :=
    [Json.field "content" false Decoder.string (·.content) fun d x => { d with content := some x },
     Json.field "tool_calls" false (Decoder.list ToolCall.record.decoder) (·.toolCalls)
       fun d x => { d with toolCalls := some x },
     Json.field "usage" false (Decoder.option TokenUsage.record.decoder) (·.usage)
       fun d x => { d with usage := some x }]
  build d := some ⟨d.content.getD "", d.toolCalls.getD [], d.usage.getD none⟩

end ChatResponse

end Dialogue
