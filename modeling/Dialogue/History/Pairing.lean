import Dialogue.Chat.Message

set_option autoImplicit false

namespace Dialogue

-- A message that is no tool result, with the results directly after it.
structure Block where
  head : Message
  results : List Message

structure Blocks where
  orphans : List Message
  blocks : List Block

namespace Blocks

def ofMessages : List Message → Blocks
  | [] => ⟨[], []⟩
  | message :: rest =>
    let later := ofMessages rest
    if message.isTool then ⟨message :: later.orphans, later.blocks⟩
    else ⟨[], ⟨message, later.orphans⟩ :: later.blocks⟩

def toMessages (split : Blocks) : List Message :=
  split.orphans ++ split.blocks.flatMap fun block => block.head :: block.results

theorem to_messages_of_messages (messages : List Message) :
    (ofMessages messages).toMessages = messages := by
  induction messages with
  | nil => rfl
  | cons message rest ih =>
      simp only [toMessages] at ih
      unfold ofMessages toMessages
      split <;> simp [ih]

end Blocks

def ToolCall.answeredBy (call : ToolCall) (result : Message) : Bool :=
  result.answeredCallId = some call.id

def isWellPairedFrom : List ToolCall → List Message → Bool
  | _, [] => true
  | openCalls, message :: rest =>
    if message.isTool then
      openCalls.any (fun call => call.answeredBy message) && isWellPairedFrom openCalls rest
    else isWellPairedFrom message.issuedCalls rest

def isWellPaired (messages : List Message) : Bool := isWellPairedFrom [] messages

end Dialogue
