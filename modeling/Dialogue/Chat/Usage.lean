set_option autoImplicit false

namespace Dialogue

structure TokenUsage where
  inputTokens : UInt64 := 0
  outputTokens : UInt64 := 0
  totalTokens : UInt64 := 0
  costUsd : Option Float := none

instance : Inhabited TokenUsage := ⟨{}⟩

namespace TokenUsage

def addCost (total part : Option Float) : Option Float :=
  match part with
  | some cost => some (total.getD 0.0 + cost)
  | none => total

def add (total part : TokenUsage) : TokenUsage :=
  { inputTokens := total.inputTokens + part.inputTokens
    outputTokens := total.outputTokens + part.outputTokens
    totalTokens := total.totalTokens + part.totalTokens
    costUsd := addCost total.costUsd part.costUsd }

def addReported (total : Option TokenUsage) (reported : Option TokenUsage) : Option TokenUsage :=
  match reported with
  | some part => some ((total.getD {}).add part)
  | none => total

end TokenUsage

end Dialogue
