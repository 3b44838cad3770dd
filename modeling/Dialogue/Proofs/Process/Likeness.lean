import Dialogue.Proofs.History.Renaming
import Dialogue.Proofs.Process.Run

set_option autoImplicit false

namespace Dialogue

variable (names : Renaming)

inductive ChatRequest.Alike : ChatRequest → ChatRequest → Prop where
  | turn {first second : List Message} (systemPrompt : String) (tools : List ToolDefinition)
      (maxTokens : Option Nat) (alike : Dialogue.Alike names first second) :
      Alike ⟨systemPrompt, first, tools, maxTokens⟩ ⟨systemPrompt, second, tools, maxTokens⟩
  | summary {first second : List Message} (asked alsoAsked : Stamp) (maxTokens : Nat)
      (alike : Dialogue.Alike names first second) :
      Alike (Summary.request asked first maxTokens) (Summary.request alsoAsked second maxTokens)

def ChatResponse.renamed (response : ChatResponse) : ChatResponse :=
  { response with toolCalls := response.toolCalls.map (ToolCall.renamed names) }

def Raced.renamed : Raced Effect.Reply → Raced Effect.Reply
  | .interrupted => .interrupted
  | .finished (.error e) => .finished (.error e)
  | .finished (.ok response) => .finished (.ok (response.renamed names))

def Effect.isPlain : Effect → Bool
  | .stamp | .callIds | .chat _ _ | .chatWithin _ _ _ | .load _ | .save _ _ | .archive _ => false
  | _ => true

inductive Event.Alike : Event → Event → Prop where
  | stamp (first second : Stamp) : Alike ⟨.stamp, first⟩ ⟨.stamp, second⟩
  | callIds (supply : Nat → String) :
      Alike ⟨.callIds, supply⟩ ⟨.callIds, names.rename ∘ supply⟩
  | chat {first second : ChatRequest} (provider : Provider) (reply : Raced Effect.Reply)
      (alike : ChatRequest.Alike names first second) :
      Alike ⟨.chat provider first, reply⟩ ⟨.chat provider second, reply.renamed names⟩
  | save {first second : List Message} (session : String) (saved : Except SessionError Unit)
      (alike : Dialogue.Alike names first second) :
      Alike ⟨.save session first, saved⟩ ⟨.save session second, saved⟩
  | archive {first second : List Message} (job : ArchiveJob)
      (alike : Dialogue.Alike names first second) :
      Alike ⟨.archive { job with messages := first }, ()⟩ ⟨.archive { job with messages := second }, ()⟩
  | same (event : Event) (plain : event.effect.isPlain = true) : Alike event event

def Effect.Alike (first second : Effect) : Prop :=
  ∃ answer also, Event.Alike names ⟨first, answer⟩ ⟨second, also⟩

-- The processes perform effects that are alike, and after answers that are alike they go on alike.
inductive Proc.Alike {α β : Type} (related : α → β → Prop) : Proc α → Proc β → Prop where
  | done {value : α} {also : β} (values : related value also) :
      Alike related (.done value) (.done also)
  | perform {first second : Effect} {next : first.Answer → Proc α} {after : second.Answer → Proc β}
      (effects : Effect.Alike names first second)
      (rest : ∀ answer also, Event.Alike names ⟨first, answer⟩ ⟨second, also⟩ →
        Alike related (next answer) (after also)) :
      Alike related (.perform first next) (.perform second after)

structure World.Alike {σ τ : Type} (states : σ → τ → Prop) (first : World σ) (second : World τ) :
    Prop where
  cancelled : ∀ state also, states state also → first.cancelled state = second.cancelled also
  respond : ∀ effect another state also, Effect.Alike names effect another → states state also →
    Event.Alike names ⟨effect, (first.respond effect state).1⟩
        ⟨another, (second.respond another also).1⟩ ∧
      states (first.respond effect state).2 (second.respond another also).2

variable {names}

theorem plain_answers {effect : Effect} (plain : effect.isPlain = true)
    {answer also : effect.Answer} (alike : Event.Alike names ⟨effect, answer⟩ ⟨effect, also⟩) :
    answer = also := by
  cases alike with
  | same => rfl
  | _ => cases plain

theorem plain_alike (effect : Effect) (plain : effect.isPlain = true) :
    Effect.Alike names effect effect := by
  have answered : ∃ answer : effect.Answer, True := by
    cases effect with
    | cancelled => exact ⟨false, trivial⟩
    | rule | approve | execute => exact ⟨.interrupted, trivial⟩
    | write | remember => exact ⟨.ok (), trivial⟩
    | reportUsage | log => exact ⟨(), trivial⟩
    | stamp | callIds | chat | chatWithin | load | save | archive => cases plain
  obtain ⟨answer, _⟩ := answered
  exact ⟨answer, answer, .same ⟨effect, answer⟩ plain⟩

section Processes

variable {α β γ δ : Type} {between : γ → δ → Prop} {related : α → β → Prop}

theorem alike_pure {value : α} {also : β} (values : related value also) :
    Proc.Alike names related (pure value) (pure also) := .done values

theorem alike_bind {process : Proc γ} {another : Proc δ} {next : γ → Proc α} {after : δ → Proc β}
    (first : Proc.Alike names between process another)
    (rest : ∀ value also, between value also → Proc.Alike names related (next value) (after also)) :
    Proc.Alike names related (process >>= next) (another >>= after) := by
  change Proc.Alike names related (process.bind next) (another.bind after)
  induction first with
  | done values => exact rest _ _ values
  | perform effects _ ih => exact .perform effects ih

theorem alike_plain {effect : Effect} (plain : effect.isPlain = true)
    {next : effect.Answer → Proc α} {after : effect.Answer → Proc β}
    (rest : ∀ answer, Proc.Alike names related (next answer) (after answer)) :
    Proc.Alike names related (Proc.effect effect >>= next) (Proc.effect effect >>= after) := by
  refine .perform (plain_alike effect plain) ?_
  intro answer also alike
  rw [plain_answers plain alike]
  exact rest also

theorem alike_stamp {next : Stamp → Proc α} {after : Stamp → Proc β}
    (rest : ∀ stamp also, Proc.Alike names related (next stamp) (after also)) :
    Proc.Alike names related (Proc.stamp >>= next) (Proc.stamp >>= after) :=
  .perform ⟨⟨"", .epoch⟩, ⟨"", .epoch⟩, .stamp _ _⟩ fun stamp also _ => rest stamp also

theorem alike_call_ids {next : (Nat → String) → Proc α} {after : (Nat → String) → Proc β}
    (rest : ∀ supply, Proc.Alike names related (next supply) (after (names.rename ∘ supply))) :
    Proc.Alike names related (Proc.callIds >>= next) (Proc.callIds >>= after) := by
  refine .perform ⟨_, _, .callIds fun _ => ""⟩ fun supply also alike => ?_
  cases alike with
  | callIds => exact rest supply
  | same event plain => cases plain

theorem alike_chat {first second : ChatRequest}
    {next : Raced Effect.Reply → Proc α} {after : Raced Effect.Reply → Proc β}
    (provider : Provider) (requests : ChatRequest.Alike names first second)
    (rest : ∀ reply, Proc.Alike names related (next reply) (after (reply.renamed names))) :
    Proc.Alike names related (Proc.chat provider first >>= next)
      (Proc.chat provider second >>= after) := by
  refine .perform ⟨.interrupted, _, .chat provider _ requests⟩ fun reply also alike => ?_
  cases alike with
  | chat => exact rest reply
  | same event plain => cases plain

theorem alike_save {first second : List Message} {next : Except SessionError Unit → Proc α}
    {after : Except SessionError Unit → Proc β} (session : String)
    (alike : Alike names first second)
    (rest : ∀ saved, Proc.Alike names related (next saved) (after saved)) :
    Proc.Alike names related (Proc.save session first >>= next)
      (Proc.save session second >>= after) := by
  refine .perform ⟨.ok (), _, .save session _ alike⟩ fun saved also events => ?_
  cases events with
  | save => exact rest saved
  | same event plain => cases plain

theorem alike_archive {first second : List Message} {next : Unit → Proc α} {after : Unit → Proc β}
    (job : ArchiveJob) (alike : Alike names first second)
    (rest : Proc.Alike names related (next ()) (after ())) :
    Proc.Alike names related (Proc.archive { job with messages := first } >>= next)
      (Proc.archive { job with messages := second } >>= after) :=
  .perform ⟨(), (), .archive job alike⟩ fun _ _ _ => rest

theorem alike_self (process : Proc α)
    (plain : process.Ensures (fun effect => effect.isPlain = true) fun _ => True) :
    Proc.Alike names Eq process process := by
  induction process with
  | done value => exact .done rfl
  | perform effect next ih =>
      obtain ⟨first, rest⟩ := plain
      exact alike_plain first fun answer => ih answer (rest answer)

end Processes

section Runs

variable {σ τ : Type} {states : σ → τ → Prop} {first : World σ} {second : World τ}

theorem step_alike (worlds : World.Alike names states first second) (effect another : Effect)
    (effects : Effect.Alike names effect another) (state : σ) (also : τ) (like : states state also) :
    (first.step effect state).started = (second.step another also).started ∧
      Event.Alike names ⟨effect, (first.step effect state).answer⟩
        ⟨another, (second.step another also).answer⟩ ∧
      states (first.step effect state).state (second.step another also).state := by
  have cancelled := worlds.cancelled state also like
  obtain ⟨answers, onward⟩ := worlds.respond effect another state also effects like
  obtain ⟨_, _, event⟩ := effects
  cases event with
  | stamp | callIds | save | archive => exact ⟨rfl, answers, onward⟩
  | chat provider reply alike =>
      simp only [World.step, Effect.refusal, cancelled]
      cases second.cancelled also with
      | true => exact ⟨rfl, .chat provider .interrupted alike, like⟩
      | false => exact ⟨rfl, answers, onward⟩
  | same event plain =>
      cases effect with
      | cancelled =>
          refine ⟨rfl, ?_, onward⟩
          simp only [World.step, cancelled]
          exact .same _ rfl
      | rule | approve | execute =>
          simp only [World.step, Effect.refusal, cancelled]
          cases second.cancelled also with
          | true => exact ⟨rfl, .same _ rfl, like⟩
          | false => exact ⟨rfl, answers, onward⟩
      | write | remember | reportUsage | log => exact ⟨rfl, answers, onward⟩
      | stamp | callIds | chat | chatWithin | load | save | archive => cases plain

theorem run_alike {α β : Type} {related : α → β → Prop} {process : Proc α} {another : Proc β}
    (worlds : World.Alike names states first second)
    (processes : Proc.Alike names related process another) (state : σ) (also : τ)
    (like : states state also) :
    List.Forall₂ (Event.Alike names) (first.run process state).trace
        (second.run another also).trace ∧
      related (first.run process state).value (second.run another also).value ∧
      states (first.run process state).state (second.run another also).state := by
  induction processes generalizing state also with
  | done values => exact ⟨.nil, values, like⟩
  | @perform effect other next after effects rest ih =>
      obtain ⟨started, answers, onward⟩ := step_alike worlds effect other effects state also like
      obtain ⟨events, values, states⟩ := ih _ _ answers _ _ onward
      rw [World.run_perform, World.run_perform]
      refine ⟨?_, values, states⟩
      simp only [Run.andThen, World.Step.events, started]
      cases (second.step other also).started with
      | true => exact .cons answers events
      | false => exact events

end Runs

end Dialogue
