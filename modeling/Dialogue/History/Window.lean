import Dialogue.Chat.Message

/-!
Where the recent part of a history begins that is kept word for word. It has the wanted number of
messages, but does not begin with a tool result: it grows back to the message that issued the
calls, or shrinks past results that no message issued.
-/

set_option autoImplicit false

namespace Dialogue

-- Where the window would begin by count alone; a count of zero keeps everything.
def countStart (messages : List Message) (count : Nat) : Nat :=
  if count = 0 then 0 else messages.length - count

def resultsBefore (messages : List Message) (start : Nat) : Nat :=
  ((messages.take start).reverse.takeWhile Message.isTool).length

def resultsFrom (messages : List Message) (start : Nat) : Nat :=
  ((messages.drop start).takeWhile Message.isTool).length

def issuerBefore? (messages : List Message) (start : Nat) : Option Message :=
  ((messages.take start).reverse.dropWhile Message.isTool).head?

def recentWindowStart (messages : List Message) (count : Nat) : Nat :=
  let start := countStart messages count
  if resultsFrom messages start = 0 then start
  else
    match issuerBefore? messages start with
    | some issuer =>
      if issuer.hasToolCalls then start - resultsBefore messages start - 1
      else start + resultsFrom messages start
    | none => start + resultsFrom messages start

end Dialogue
