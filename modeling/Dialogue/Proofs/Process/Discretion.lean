import Dialogue.Proofs.Process.Run

set_option autoImplicit false

namespace Dialogue

inductive Effect.Reworded : (effect : Effect) → effect.Answer → effect.Answer → Prop where
  | same (effect : Effect) (answer : effect.Answer) : Reworded effect answer answer
  | failed (provider : Provider) (request : ChatRequest) (e other : ProviderError)
      (looks : e = .cancelled ↔ other = .cancelled) :
      Reworded (.chat provider request) (.finished (.error e)) (.finished (.error other))
  | failedInTime (limit : Nat) (provider : Provider) (request : ChatRequest)
      (e other : ProviderError) (looks : e = .cancelled ↔ other = .cancelled) :
      Reworded (.chatWithin limit provider request) (.inTime (.finished (.error e)))
        (.inTime (.finished (.error other)))

def Effect.isChat : Effect → Bool
  | .chat _ _ | .chatWithin _ _ _ => true
  | _ => false

-- The processes perform the same effects, whatever the wording of the answers.
inductive Proc.Discreet {α β : Type} (related : α → β → Prop) : Proc α → Proc β → Prop where
  | done {value : α} {also : β} (values : related value also) :
      Discreet related (.done value) (.done also)
  | perform {effect : Effect} {next : effect.Answer → Proc α} {after : effect.Answer → Proc β}
      (rest : ∀ answer also, effect.Reworded answer also →
        Discreet related (next answer) (after also)) :
      Discreet related (.perform effect next) (.perform effect after)

structure World.Reworded {σ τ : Type} (states : σ → τ → Prop) (first : World σ)
    (second : World τ) : Prop where
  cancelled : ∀ state also, states state also → first.cancelled state = second.cancelled also
  respond : ∀ effect state also, states state also →
    effect.Reworded (first.respond effect state).1 (second.respond effect also).1 ∧
      states (first.respond effect state).2 (second.respond effect also).2

theorem unasked_same {effect : Effect} (plain : effect.isChat = false)
    {answer also : effect.Answer} (reworded : effect.Reworded answer also) : answer = also := by
  cases reworded with
  | same => rfl
  | failed | failedInTime => cases plain

section Processes

variable {α β γ δ : Type} {between : γ → δ → Prop} {related : α → β → Prop}

theorem discreet_pure {value : α} {also : β} (values : related value also) :
    Proc.Discreet related (pure value) (pure also) := .done values

theorem discreet_bind {process : Proc γ} {another : Proc δ} {next : γ → Proc α} {after : δ → Proc β}
    (first : Proc.Discreet between process another)
    (rest : ∀ value also, between value also → Proc.Discreet related (next value) (after also)) :
    Proc.Discreet related (process >>= next) (another >>= after) := by
  change Proc.Discreet related (process.bind next) (another.bind after)
  induction first with
  | done values => exact rest _ _ values
  | perform _ ih => exact .perform ih

theorem discreet_after {effect : Effect} (plain : effect.isChat = false)
    {next : effect.Answer → Proc α} {after : effect.Answer → Proc β}
    (rest : ∀ answer, Proc.Discreet related (next answer) (after answer)) :
    Proc.Discreet related (Proc.effect effect >>= next) (Proc.effect effect >>= after) := by
  refine .perform fun answer also reworded => ?_
  rw [unasked_same plain reworded]
  exact rest also

theorem discreet_chat {next : Raced Effect.Reply → Proc α} {after : Raced Effect.Reply → Proc β}
    (provider : Provider) (request : ChatRequest)
    (same : ∀ reply, Proc.Discreet related (next reply) (after reply))
    (failed : ∀ e other : ProviderError, (e = .cancelled ↔ other = .cancelled) →
      Proc.Discreet related (next (.finished (.error e))) (after (.finished (.error other)))) :
    Proc.Discreet related (Proc.chat provider request >>= next)
      (Proc.chat provider request >>= after) := by
  refine .perform fun reply also reworded => ?_
  cases reworded with
  | same => exact same reply
  | failed _ _ e other looks => exact failed e other looks

theorem discreet_self (process : Proc α)
    (plain : process.Ensures (fun effect => effect.isChat = false) fun _ => True) :
    Proc.Discreet Eq process process := by
  induction process with
  | done value => exact .done rfl
  | perform effect next ih =>
      obtain ⟨first, rest⟩ := plain
      exact discreet_after first fun answer => ih answer (rest answer)

end Processes

section Runs

variable {σ τ : Type} {states : σ → τ → Prop} {first : World σ} {second : World τ}

theorem step_reworded (worlds : World.Reworded states first second) (effect : Effect) (state : σ)
    (also : τ) (like : states state also) :
    (first.step effect state).started = (second.step effect also).started ∧
      effect.Reworded (first.step effect state).answer (second.step effect also).answer ∧
      states (first.step effect state).state (second.step effect also).state := by
  have cancelled := worlds.cancelled state also like
  obtain ⟨answers, onward⟩ := worlds.respond effect state also like
  cases effect with
  | cancelled =>
      refine ⟨rfl, ?_, onward⟩
      simp only [World.step, cancelled]
      exact .same _ _
  | chat | chatWithin | rule | approve | execute | load =>
      simp only [World.step, Effect.refusal, cancelled]
      cases second.cancelled also with
      | true => exact ⟨rfl, .same _ _, like⟩
      | false => exact ⟨rfl, answers, onward⟩
  | stamp | callIds | save | write | remember | archive | reportUsage | log =>
      exact ⟨rfl, answers, onward⟩

theorem run_discreet {α β : Type} {related : α → β → Prop} {process : Proc α} {another : Proc β}
    (worlds : World.Reworded states first second)
    (processes : Proc.Discreet related process another) (state : σ) (also : τ)
    (like : states state also) :
    (first.run process state).trace.map (·.effect) =
        (second.run another also).trace.map (·.effect) ∧
      related (first.run process state).value (second.run another also).value ∧
      states (first.run process state).state (second.run another also).state := by
  induction processes generalizing state also with
  | done values => exact ⟨rfl, values, like⟩
  | @perform effect next after rest ih =>
      obtain ⟨started, answers, onward⟩ := step_reworded worlds effect state also like
      obtain ⟨effects, values, states⟩ := ih _ _ answers _ _ onward
      rw [World.run_perform, World.run_perform]
      refine ⟨?_, values, states⟩
      simp only [Run.andThen, World.Step.events, started, List.map_append, effects]
      cases (second.step effect also).started <;> rfl

end Runs

end Dialogue
