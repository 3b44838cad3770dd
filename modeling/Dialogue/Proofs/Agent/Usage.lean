import Dialogue.Proofs.Agent.Inquiry
import Dialogue.Proofs.Chat.Usage
import Dialogue.Proofs.Process.Script

set_option autoImplicit false

namespace Dialogue

open TokenUsage

def reportedUsage (trace : List Event) : List TokenUsage := (responses trace).filterMap (·.usage)

def Event.usageReport? : Event → Option TokenUsage
  | ⟨.reportUsage total, _⟩ => some total
  | _ => none

def usageReports (trace : List Event) : List TokenUsage := trace.filterMap Event.usageReport?

theorem of_calls_unreported (event : Event) (may : event.effect.OfCalls) :
    event.usageReport? = none := by
  obtain ⟨effect, answer⟩ := event
  cases may <;> rfl

theorem usage_of_calls (events later : List Event)
    (quiet : ∀ event ∈ events, event.effect.OfCalls) :
    reportedUsage (events ++ later) = reportedUsage later ∧
      usageReports (events ++ later) = usageReports later := by
  refine ⟨?_, quiet_unseen Event.usageReport? of_calls_unreported events later quiet⟩
  rw [reportedUsage, responses, quiet_unseen Event.response? of_calls_unanswered events later quiet]
  rfl

variable {σ : Type} (world : World σ) (setup : LoopSetup)

theorem running_total_replied (history : List Message) (usage : Option TokenUsage)
    (response : ChatResponse) (later : List Event) :
    runningTotal usage (reportedUsage (setup.replied history (.ok response) :: later)) =
      runningTotal (addReported usage response.usage) (reportedUsage later) := by
  change runningTotal usage ((response :: responses later).filterMap (·.usage)) = _
  cases reported : response.usage with
  | none => rw [List.filterMap_cons_none reported, addReported, reportedUsage]
  | some part =>
      rw [List.filterMap_cons_some reported, reportedUsage]
      rfl

structure Tallied (usage : Option TokenUsage) (trace : List Event) (result : LoopResult) :
    Prop where
  total : result.usage = runningTotal usage (reportedUsage trace)
  untold : usageReports trace = []

theorem tallied_quiet (history : List Message) (usage : Option TokenUsage)
    (response : ChatResponse) (result : LoopResult) (events : List Event)
    (quiet : ∀ event ∈ events, event.effect.OfCalls)
    (total : result.usage = addReported usage response.usage) :
    Tallied usage (setup.replied history (.ok response) :: events) result := by
  obtain ⟨unreported, untold⟩ := usage_of_calls events [] quiet
  rw [List.append_nil] at unreported untold
  refine ⟨?_, untold⟩
  rw [running_total_replied, unreported, total]
  rfl

theorem inquiry_tallied {left : Nat} {history : List Message} {usage : Option TokenUsage}
    {trace : List Event} {result : LoopResult}
    (inquiry : Inquiry setup left history usage trace result) : Tallied usage trace result := by
  induction inquiry with
  | exhausted | refused | interrupted | failed => exact ⟨rfl, rfl⟩
  | answered left history usage stamp response final quiet =>
      exact tallied_quiet setup history usage response _ _ quiet rfl
  | cut left history usage round cut quiet =>
      obtain ⟨total, untold⟩ := tallied_quiet setup history usage round.response
        ⟨history ++ round.messages, _, .error .cancelled⟩ _ quiet rfl
      exact ⟨total, untold⟩
  | called round complete quiet rest ih =>
      obtain ⟨unreported, unchanged⟩ := usage_of_calls _ _ quiet
      refine ⟨?_, unchanged.trans ih.untold⟩
      rw [List.cons_append, running_total_replied, ih.total]
      exact congrArg _ unreported.symm

theorem reported_before_report (rounds : List Event) (reports : Bool) (result : LoopResult) :
    reportedUsage (rounds ++ if reports then [result.report] else []) = reportedUsage rounds := by
  cases reports with
  | true => rw [reportedUsage, responses_append]; exact congrArg _ (List.append_nil _)
  | false => exact congrArg reportedUsage (List.append_nil rounds)

theorem run_usage (loop : ConversationLoop) (systemPrompt : String) (history : List Message)
    (state : σ) :
    (world.run (loop.run systemPrompt history) state).value.usage = runningTotal none
      (reportedUsage (world.run (loop.run systemPrompt history) state).trace) := by
  cases configured : loop.setup systemPrompt with
  | error e => simp only [ConversationLoop.run, configured]; rfl
  | ok setup =>
      obtain ⟨trace, result, after, inquiry, run⟩ :=
        run_configured world setup loop systemPrompt history state configured
      rw [run]
      dsimp only
      rw [reported_before_report]
      exact (inquiry_tallied setup inquiry).total

-- What a run tells of its usage: the total is reported once, after everything else, if the loop
-- reports usage at all, and an answer carries it unless no response reported any.
structure Accounted (loop : ConversationLoop) (run : Run σ LoopResult) : Prop where
  reported : ∃ rounds, usageReports rounds = [] ∧
    run.trace = rounds ++ if loop.reportsUsage then [run.value.report] else []
  total : run.value.total.TotalOf (reportedUsage run.trace)
  answered : ∀ response, run.value.outcome = .ok response → response.usage =
    if (reportedUsage run.trace).isEmpty then none else some run.value.total

theorem with_total_usage (result : LoopResult) (response : ChatResponse)
    (answered : (ConversationLoop.withTotal result).outcome = .ok response) :
    response.usage = result.usage := by
  obtain ⟨history, usage, outcome⟩ := result
  cases outcome with
  | error e => cases answered
  | ok original =>
      cases answered
      rfl

theorem loop_accounted (loop : ConversationLoop) (systemPrompt : String) (history : List Message)
    (state : σ) (configured : loop.setup systemPrompt = .ok setup) :
    Accounted loop (world.run (loop.run systemPrompt history) state) := by
  have usage := run_usage world loop systemPrompt history state
  obtain ⟨trace, result, after, inquiry, run⟩ :=
    run_configured world setup loop systemPrompt history state configured
  have total := running_total_of
    (reportedUsage (world.run (loop.run systemPrompt history) state).trace)
  rw [← usage] at total
  refine ⟨⟨trace, (inquiry_tallied setup inquiry).untold, by rw [run]; rfl⟩, total, ?_⟩
  intro response answered
  rw [LoopResult.total, usage, ← running_total_reported, ← usage]
  rw [run] at answered ⊢
  exact with_total_usage result response answered

theorem usage_accounted (loop : ConversationLoop) (systemPrompt : String) (history : List Message)
    (state : σ) (configured : loop.setup systemPrompt = .ok setup) :
    Accounted loop (world.run (loop.run systemPrompt history) state) ∧
      ∀ {τ : Type} (other : World τ) (agent : ConversationLoop) (prompt : String)
        (earlier : List Message) (start : τ),
        (reportedUsage (other.run (agent.run prompt earlier) start).trace).Perm
            (reportedUsage (world.run (loop.run systemPrompt history) state).trace) →
          ∀ count ∈ counts, count (other.run (agent.run prompt earlier) start).value.total =
            count (world.run (loop.run systemPrompt history) state).value.total := by
  refine ⟨loop_accounted world setup loop systemPrompt history state configured, ?_⟩
  intro τ other agent prompt earlier start same count counted
  rw [LoopResult.total, LoopResult.total, run_usage, run_usage]
  exact count_perm count counted _ _ same

def billedLoop : ConversationLoop := { reader.settings.agent with reportsUsage := true }

def billedReplies (first last : TokenUsage) : Script where
  replies := [.ok { toolCalls := [⟨"a", "read", ""⟩], usage := some first },
    .ok (.ofToolCalls [⟨"b", "read", ""⟩]), .ok { content := "Read.", usage := some last }]

def unpriced : TokenUsage := ⟨10, 5, 15, none⟩

def priced : TokenUsage := ⟨20, 7, 27, some 0.5⟩

theorem billed_in_either_order :
    (∃ setup, billedLoop.setup "" = .ok setup) ∧
      (∃ rounds, usageReports rounds = [] ∧
        (scripted.run (billedLoop.run "" []) (billedReplies unpriced priced)).trace = rounds ++
          [(scripted.run (billedLoop.run "" []) (billedReplies unpriced priced)).value.report]) ∧
      (∀ count ∈ counts, (count (scripted.run (billedLoop.run "" [])
          (billedReplies unpriced priced)).value.total).toNat = tally count [unpriced, priced]) ∧
      (scripted.run (billedLoop.run "" [])
        (billedReplies unpriced priced)).value.total.costUsd.isSome = true ∧
      ∀ count ∈ counts, count (scripted.run (billedLoop.run "" [])
          (billedReplies priced unpriced)).value.total =
        count (scripted.run (billedLoop.run "" [])
          (billedReplies unpriced priced)).value.total := by
  have fit : Fit [unpriced, priced] := by
    simp only [Fit, counts, List.forall_mem_cons, List.not_mem_nil, false_implies, implies_true,
      and_true]
    decide
  obtain ⟨⟨reported, total, _⟩, reordered⟩ := usage_accounted scripted _ billedLoop "" []
    (billedReplies unpriced priced) rfl
  refine ⟨⟨_, rfl⟩, reported, total.counted fit, total.priced, ?_⟩
  exact reordered scripted billedLoop "" [] (billedReplies priced unpriced)
    (List.Perm.swap unpriced priced [])

end Dialogue
