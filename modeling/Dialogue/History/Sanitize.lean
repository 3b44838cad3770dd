import Dialogue.History.Pairing

/-!
Repair of the pairing between tool calls and tool results, block by block. Results that answer no
call of their block are dropped, calls without a result are stripped, of calls with one ID the
first counts, and the results are grouped in call order. A regrouping alone is no change.
-/

set_option autoImplicit false

namespace Dialogue

def firstCalls (seen : List String) : List ToolCall → List ToolCall
  | [] => []
  | call :: rest =>
    if call.id ∈ seen then firstCalls seen rest else call :: firstCalls (call.id :: seen) rest

structure Repair where
  block : Block
  changed : Bool

namespace Block

def answeredCalls (block : Block) : List ToolCall :=
  (firstCalls [] block.head.issuedCalls).filter fun call => block.results.any call.answeredBy

def groupedResults (block : Block) : List Message :=
  block.answeredCalls.flatMap fun call => block.results.filter call.answeredBy

def isStray (block : Block) (result : Message) : Bool :=
  !block.head.issuedCalls.any fun call => call.answeredBy result

def repair (block : Block) : Repair :=
  if block.head.role = .assistant then
    { block := ⟨{ block.head with toolCalls := block.answeredCalls }, block.groupedResults⟩
      changed := block.results.any block.isStray ||
        block.answeredCalls.length ≠ block.head.toolCalls.length }
  else { block := ⟨block.head, []⟩, changed := !block.results.isEmpty }

def messages (block : Block) : List Message := block.head :: block.results

end Block

structure Sanitized where
  messages : List Message
  changed : Bool
deriving DecidableEq

def sanitize (messages : List Message) : Sanitized :=
  let split := Blocks.ofMessages messages
  let repairs := split.blocks.map Block.repair
  { messages := repairs.flatMap fun repair => repair.block.messages
    changed := !split.orphans.isEmpty || repairs.any (·.changed) }

end Dialogue
