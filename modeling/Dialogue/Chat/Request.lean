import Dialogue.Chat.Message
import Dialogue.Chat.Usage
import Dialogue.Tool.Registry

set_option autoImplicit false

namespace Dialogue

structure Provider where
  name : String
deriving DecidableEq

structure ChatRequest where
  systemPrompt : String
  messages : List Message
  tools : List ToolDefinition := []
  maxTokens : Option Nat := none

structure ChatResponse where
  content : String := ""
  toolCalls : List ToolCall := []
  usage : Option TokenUsage := none

namespace ChatResponse

def ofText (content : String) : ChatResponse := { content }

def ofToolCalls (toolCalls : List ToolCall) : ChatResponse := { toolCalls }

end ChatResponse

end Dialogue
