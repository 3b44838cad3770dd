import Dialogue.Chat.Message

set_option autoImplicit false

namespace Dialogue

def Message.label (message : Message) : String :=
  if message.isSummary then "summary of earlier conversation" else message.role.name

def ToolCall.transcript (call : ToolCall) : String :=
  "tool call " ++ call.id ++ " " ++ call.name ++ ": " ++ call.arguments ++ "\n"

def Message.transcript (message : Message) : String :=
  "[" ++ message.label ++ "]" ++
    (match message.toolCallId with
      | some id => " (result of call " ++ id ++ ")"
      | none => "") ++ "\n" ++
    String.join (message.toolCalls.map ToolCall.transcript) ++
    (if message.content.isEmpty then "" else message.content ++ "\n") ++ "\n"

def renderTranscript (messages : List Message) : String :=
  "<transcript>\n" ++ String.join (messages.map Message.transcript) ++ "</transcript>"

end Dialogue
