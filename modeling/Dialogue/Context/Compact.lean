import Dialogue.Context.Summary
import Dialogue.History.Estimate
import Dialogue.History.Window

set_option autoImplicit false

namespace Dialogue

structure Compactor where
  provider : Provider
  -- Zero means no budget.
  maxContextTokens : Nat
  -- Zero means that every message is kept.
  recentMessageCount : Nat
  summaryMaxTokens : Nat := 1024

namespace Compactor

def cut? (compactor : Compactor) (systemPrompt : String) (messages : List Message) : Option Nat :=
  if compactor.maxContextTokens = 0 then none
  else if estimateTokens systemPrompt messages ≤ compactor.maxContextTokens then none
  else
    let start := recentWindowStart messages compactor.recentMessageCount
    if start = 0 then none else some start

def compact (compactor : Compactor) (systemPrompt : String) (messages : List Message) :
    Proc (Except Error (List Message)) :=
  match compactor.cut? systemPrompt messages with
  | none => return .ok messages
  | some start => do
    let older := messages.take start
    let recent := messages.drop start
    match ← summarize compactor.provider older compactor.summaryMaxTokens with
    | .ok summary =>
      let stamp ← Proc.stamp
      return .ok (.summary stamp summary :: recent)
    | .error e =>
      if e.isCancelled then return .error .cancelled
      else if ← Proc.cancelled then return .error .cancelled
      else
        Proc.warn "Summarization failed, keeping only the recent window"
        return .ok recent

end Compactor

end Dialogue
