import Dialogue.Text.Blank
import Dialogue.Time.Timestamp

set_option autoImplicit false

namespace Dialogue

inductive Role where
  | user
  | assistant
  | tool
deriving DecidableEq

def Role.name : Role → String
  | user => "user"
  | assistant => "assistant"
  | tool => "tool"

inductive MessageKind where
  | normal
  | summary
deriving DecidableEq

def MessageKind.name : MessageKind → String
  | normal => "normal"
  | summary => "summary"

structure ToolCall where
  id : String
  name : String
  arguments : String := ""
deriving DecidableEq

structure Message where
  id : String
  kind : MessageKind := .normal
  role : Role
  content : String := ""
  toolCallId : Option String := none
  toolCalls : List ToolCall := []
  timestamp : Timestamp
deriving DecidableEq

structure Stamp where
  id : String
  time : Timestamp

namespace Message

variable (stamp : Stamp)

def user (content : String) : Message :=
  { id := stamp.id, role := .user, content, timestamp := stamp.time }

def assistant (content : String) : Message :=
  { id := stamp.id, role := .assistant, content, timestamp := stamp.time }

def withToolCalls (content : String) (calls : List ToolCall) : Message :=
  { assistant stamp content with toolCalls := calls }

def toolResult (callId content : String) : Message :=
  { id := stamp.id, role := .tool, content, toolCallId := some callId, timestamp := stamp.time }

def summary (content : String) : Message :=
  { assistant stamp content with kind := .summary }

variable (message : Message)

def isTool : Bool := message.role = .tool

def isSummary : Bool := message.kind = .summary

def issuedCalls : List ToolCall :=
  if message.role = .assistant then message.toolCalls else []

def hasToolCalls : Bool := !message.issuedCalls.isEmpty

-- The call that a tool message answers, unless it is blank.
def answeredCallId : Option String := message.toolCallId.filter fun id => !Text.isBlank id

end Message

end Dialogue
