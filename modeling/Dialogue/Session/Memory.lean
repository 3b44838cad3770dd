import Dialogue.Chat.Message

set_option autoImplicit false

namespace Dialogue

structure MemoryEntry where
  id : String
  content : String
  tags : List String := []
  source : Option String := none
  createdAt : Timestamp

namespace MemoryEntry

def make (stamp : Stamp) (content : String) (tags : List String) : MemoryEntry :=
  { id := stamp.id, content, tags, createdAt := stamp.time }

def withSource (entry : MemoryEntry) (source : String) : MemoryEntry :=
  { entry with source := some source }

end MemoryEntry

end Dialogue
