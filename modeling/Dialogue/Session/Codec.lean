import Dialogue.Chat.Codec
import Dialogue.Chat.Inbound
import Dialogue.Session.Memory
import Dialogue.Tool.Approval

set_option autoImplicit false

namespace Dialogue

open Json (Decoder)

namespace Inbound

def toJson (message : Inbound) : Json :=
  .object ([("channel_id", .string message.channel), ("sender_id", .string message.sender),
    ("chat_id", .string message.chat), ("content", .string message.content)] ++
    if message.metadata.isEmpty then [] else [("metadata", .object message.metadata)])

structure Draft where
  channel : Option String := none
  sender : Option String := none
  chat : Option String := none
  content : Option String := none
  metadata : Option (List (String × Json)) := none

def record : Json.Record Draft Inbound where
  name := "ChannelMessage"
  draft := {}
  fields :=
    [Json.field "channel_id" true Decoder.string (·.channel) fun d x => { d with channel := some x },
     Json.field "sender_id" true Decoder.string (·.sender) fun d x => { d with sender := some x },
     Json.field "chat_id" true Decoder.string (·.chat) fun d x => { d with chat := some x },
     Json.field "content" true Decoder.string (·.content) fun d x => { d with content := some x },
     Json.field "metadata" false Decoder.members (·.metadata)
       fun d x => { d with metadata := some x }]
  build d := do some ⟨← d.channel, ← d.sender, ← d.chat, ← d.content, d.metadata.getD []⟩

end Inbound

namespace MemoryEntry

def bodyMembers (entry : MemoryEntry) : List (String × Json) :=
  ("content", .string entry.content) :: Json.nonEmpty "tags" .string entry.tags ++
    Json.optional "source" .string entry.source

def toJson (entry : MemoryEntry) : Json :=
  .object (("id", .string entry.id) :: entry.bodyMembers ++
    [("created_at", .string entry.createdAt.text)])

structure Draft where
  id : Option String := none
  content : Option String := none
  tags : Option (List String) := none
  source : Option (Option String) := none
  createdAt : Option Timestamp := none

def record : Json.Record Draft MemoryEntry where
  name := "MemoryEntry"
  draft := {}
  fields :=
    [Json.field "id" true Decoder.string (·.id) fun d x => { d with id := some x },
     Json.field "content" true Decoder.string (·.content) fun d x => { d with content := some x },
     Json.field "tags" false (Decoder.list Decoder.string) (·.tags)
       fun d x => { d with tags := some x },
     Json.field "source" false (Decoder.option Decoder.string) (·.source)
       fun d x => { d with source := some x },
     Json.field "created_at" true Decoder.timestamp (·.createdAt)
       fun d x => { d with createdAt := some x }]
  build d := do
    some ⟨← d.id, ← d.content, d.tags.getD [], d.source.getD none, ← d.createdAt⟩

end MemoryEntry

structure ToolOutput where
  output : String

namespace ToolOutput

def toJson (output : ToolOutput) : Json := .object [("output", .string output.output)]

def record : Json.Record (Option String) ToolOutput where
  name := "ToolOutput"
  draft := none
  fields := [Json.field "output" true Decoder.string id fun _ x => some x]
  build d := d.map ToolOutput.mk

end ToolOutput

namespace AutonomyLevel

def name : AutonomyLevel → String
  | readOnly => "read_only"
  | supervised => "supervised"
  | full => "full"

def variants : List (String × AutonomyLevel) :=
  [("read_only", readOnly), ("supervised", supervised), ("full", full)]

def toJson (level : AutonomyLevel) : Json := .string level.name

end AutonomyLevel

end Dialogue
