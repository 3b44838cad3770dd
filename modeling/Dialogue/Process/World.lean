import Dialogue.Process.Proc

/-!
Worlds that answer the effects of a process. A world has a state, says when the token is
cancelled, and once cancelled the token stays so. Time passes with every effect that is started and
after every look at the token, so that two looks in a row may differ. Running a process in a world
gives its value and the trace of the effects that were started, with their answers.
-/

set_option autoImplicit false

namespace Dialogue

structure Event where
  effect : Effect
  answer : effect.Answer

def Effect.isInterruption : (effect : Effect) → effect.Answer → Bool
  | .chat _ _, .interrupted => true
  | .chatWithin _ _ _, .inTime .interrupted => true
  | .rule _ _, .interrupted => true
  | .approve _ _, .interrupted => true
  | .execute _ _, .interrupted => true
  | .load _, .interrupted => true
  | _, _ => false

structure World (σ : Type) where
  cancelled : σ → Bool
  respond : (effect : Effect) → σ → effect.Answer × σ
  cancelled_stays : ∀ effect state, cancelled state = true →
    cancelled (respond effect state).2 = true
  interrupted_cancelled : ∀ effect state,
    effect.isInterruption (respond effect state).1 = true →
      cancelled (respond effect state).2 = true

structure Run (σ α : Type) where
  trace : List Event
  value : α
  state : σ

namespace World

variable {σ α : Type} (world : World σ)

structure Step (σ : Type) (effect : Effect) where
  answer : effect.Answer
  state : σ
  started : Bool

def step (effect : Effect) (state : σ) : Step σ effect :=
  match effect with
  | .cancelled => ⟨world.cancelled state, (world.respond .cancelled state).2, false⟩
  | effect =>
    match effect.refusal with
    | some answer =>
      if world.cancelled state then ⟨answer, state, false⟩
      else
        let (answer, state) := world.respond effect state
        ⟨answer, state, true⟩
    | none =>
      let (answer, state) := world.respond effect state
      ⟨answer, state, true⟩

def run : Proc α → σ → Run σ α
  | .done value, state => ⟨[], value, state⟩
  | .perform effect next, state =>
    let step := world.step effect state
    let rest := run (next step.answer) step.state
    if step.started then { rest with trace := ⟨effect, step.answer⟩ :: rest.trace } else rest

end World

end Dialogue
