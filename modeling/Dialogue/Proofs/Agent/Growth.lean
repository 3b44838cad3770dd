import Dialogue.Proofs.Agent.Inquiry
import Dialogue.Proofs.History.Stripped
import Dialogue.Proofs.Process.Script

set_option autoImplicit false

namespace Dialogue

namespace Round

variable (round : Round)

def DrawnIn (trace : List Event) : Prop :=
  ∃ before provider request after,
    trace = before ++ ⟨.chat provider request, .finished (.ok round.response)⟩ ::
      ⟨.callIds, round.supply⟩ :: after

end Round

inductive Ending where
  | nothing
  | answer (stamp : Stamp) (response : ChatResponse)
  | cut (round : Round)

namespace Ending

def messages : Ending → List Message
  | nothing => []
  | answer stamp response => answerMessages stamp response
  | cut round => round.messages

def repaired : Ending → List Message
  | cut round => round.stripped
  | ending => ending.messages

def isCut : Ending → Bool
  | cut _ => true
  | _ => false

def round? : Ending → Option Round
  | cut round => some round
  | _ => none

def response? : Ending → Option ChatResponse
  | nothing => none
  | answer _ response => some response
  | cut round => some round.response

-- The endings that an outcome may have. Only the usage of an answer is filled in afterwards.
def Fits : Ending → Except Error ChatResponse → Prop
  | nothing, outcome => ∃ e, outcome = .error e
  | answer _ response, outcome => response.toolCalls = [] ∧
      ∃ usage, outcome = .ok { response with usage }
  | cut round, outcome => round.Cut ∧ outcome = .error .cancelled

end Ending

structure Grown (trace : List Event) (rounds : List Round) (ending : Ending)
    (outcome : Except Error ChatResponse) : Prop where
  complete : ∀ round ∈ rounds, round.Complete
  fits : ending.Fits outcome
  responded : responses trace = rounds.map (·.response) ++ ending.response?.toList
  drawn : ∀ round ∈ rounds ++ ending.round?.toList, round.DrawnIn trace

theorem drawn_later (before trace : List Event) (round : Round) (drawn : round.DrawnIn trace) :
    round.DrawnIn (before ++ trace) := by
  obtain ⟨earlier, provider, request, after, split⟩ := drawn
  exact ⟨before ++ earlier, provider, request, after, by rw [split, List.append_assoc]⟩

theorem drawn_earlier (trace after : List Event) (round : Round) (drawn : round.DrawnIn trace) :
    round.DrawnIn (trace ++ after) := by
  obtain ⟨before, provider, request, later, split⟩ := drawn
  exact ⟨before, provider, request, later ++ after, by rw [split]; simp⟩

theorem grown_failed (trace : List Event) (e : Error) (silent : responses trace = []) :
    Grown trace [] .nothing (.error e) :=
  ⟨by simp, ⟨e, rfl⟩, silent, by simp [Ending.round?]⟩

theorem grown_answer (stamp : Stamp) (response : ChatResponse) (final : response.toolCalls = [])
    (provider : Provider) (request : ChatRequest) (events : List Event)
    (quiet : ∀ event ∈ events, event.effect.OfCalls) :
    Grown (⟨.chat provider request, .finished (.ok response)⟩ :: events) []
      (.answer stamp response) (.ok response) := by
  refine ⟨by simp, ⟨final, response.usage, rfl⟩, ?_, by simp [Ending.round?]⟩
  change response :: responses events = _
  rw [responses_calls events quiet]
  rfl

theorem grown_cut (round : Round) (cut : round.Cut) (provider : Provider) (request : ChatRequest)
    (events : List Event) (quiet : ∀ event ∈ events, event.effect.OfCalls) :
    Grown (⟨.chat provider request, .finished (.ok round.response)⟩ ::
      ⟨.callIds, round.supply⟩ :: events) [] (.cut round) (.error .cancelled) := by
  refine ⟨by simp, ⟨cut, rfl⟩, ?_, ?_⟩
  · change round.response :: responses events = _
    rw [responses_calls events quiet]
    rfl
  · intro other member
    cases List.mem_singleton.mp member
    exact ⟨[], provider, request, events, rfl⟩

theorem grown_round (round : Round) (complete : round.Complete) (provider : Provider)
    (request : ChatRequest) (events later : List Event) (rounds : List Round) (ending : Ending)
    (outcome : Except Error ChatResponse) (quiet : ∀ event ∈ events, event.effect.OfCalls)
    (rest : Grown later rounds ending outcome) :
    Grown (⟨.chat provider request, .finished (.ok round.response)⟩ ::
      (⟨.callIds, round.supply⟩ :: events ++ later)) (round :: rounds) ending outcome := by
  refine ⟨List.forall_mem_cons.mpr ⟨complete, rest.complete⟩, rest.fits, ?_, ?_⟩
  · change round.response :: responses (events ++ later) = _
    rw [responses_append, responses_calls events quiet, rest.responded]
    rfl
  · refine List.forall_mem_cons.mpr ⟨⟨[], provider, request, events ++ later, rfl⟩, ?_⟩
    intro other member
    exact drawn_later (⟨.chat provider request, .finished (.ok round.response)⟩ ::
      ⟨.callIds, round.supply⟩ :: events) later other (rest.drawn other member)

variable {σ : Type} (world : World σ) (setup : LoopSetup)

def Grows (history : List Message) (run : Run σ LoopResult) : Prop :=
  ∃ rounds ending, run.value.history = history ++ rounds.flatMap Round.messages ++ ending.messages ∧
    Grown run.trace rounds ending run.value.outcome

theorem grows_failed (history : List Message) (usage : Option TokenUsage) (e : Error)
    (trace : List Event) (state : σ) (silent : responses trace = []) :
    Grows history ⟨trace, ⟨history, usage, .error e⟩, state⟩ :=
  ⟨[], .nothing, by simp [Ending.messages], grown_failed trace e silent⟩

theorem inquiry_grows {left : Nat} {history : List Message} {usage : Option TokenUsage}
    {trace : List Event} {result : LoopResult}
    (inquiry : Inquiry setup left history usage trace result) :
    ∃ rounds ending,
      result.history = history ++ rounds.flatMap Round.messages ++ ending.messages ∧
        Grown trace rounds ending result.outcome := by
  induction inquiry with
  | exhausted | refused | interrupted | failed =>
      exact ⟨[], .nothing, by simp [Ending.messages], grown_failed _ _ rfl⟩
  | answered left history usage stamp response final quiet =>
      exact ⟨[], .answer stamp response, by simp [Ending.messages],
        grown_answer stamp response final _ _ _ quiet⟩
  | cut left history usage round cut quiet =>
      exact ⟨[], .cut round, by simp [Ending.messages], grown_cut round cut _ _ _ quiet⟩
  | called round complete quiet rest ih =>
      obtain ⟨rounds, ending, value, grown⟩ := ih
      exact ⟨round :: rounds, ending, by simpa using value,
        grown_round round complete _ _ _ _ rounds ending _ quiet grown⟩

theorem rounds_grow (left : Nat) (history : List Message) (usage : Option TokenUsage) (state : σ) :
    Grows history (world.run (setup.runRounds left history usage) state) :=
  inquiry_grows setup (rounds_inquired world setup left history usage state)

theorem round_valid (round : Round) (complete : round.Complete)
    (fresh : FreshSupply round.supply round.response.toolCalls) : ProtocolValid round.messages :=
  assigned_round_valid round.supply round.response.toolCalls round.stamp round.response.content
    round.results fresh (complete.answered.imp answers_result_of)

theorem round_cut (round : Round) (cut : round.Cut)
    (fresh : FreshSupply round.supply round.response.toolCalls) :
    sanitize round.messages = ⟨round.stripped, true⟩ := by
  apply sanitize_cut (round.issuing round.calls) _ round.results rfl rfl
  · intro call member
    obtain ⟨assigned, found, rfl⟩ := List.mem_map.mp member
    exact assigned_identified round.supply _ fresh assigned found
  · simpa [Round.issuing, Round.calls, Message.withToolCalls, Message.assistant,
      Function.comp_def] using assigned_distinct round.supply _ fresh
  · exact cut.answered.imp answers_result_of
  · exact cut.short

theorem rounds_of_grown_valid (rounds : List Round) (complete : ∀ round ∈ rounds, round.Complete)
    (fresh : ∀ round ∈ rounds, FreshSupply round.supply round.response.toolCalls) :
    ProtocolValid (rounds.flatMap Round.messages) := by
  induction rounds with
  | nil => exact valid_empty
  | cons round rest ih =>
      rw [List.forall_mem_cons] at complete fresh
      exact valid_append _ _ (round_valid round complete.1 fresh.1) (ih complete.2 fresh.2)

theorem ending_sanitized (ending : Ending) (outcome : Except Error ChatResponse)
    (fits : ending.Fits outcome)
    (fresh : ∀ round ∈ ending.round?.toList, FreshSupply round.supply round.response.toolCalls) :
    sanitize ending.messages = ⟨ending.repaired, ending.isCut⟩ := by
  cases ending with
  | nothing => exact sanitize_of_valid _ valid_empty
  | answer stamp response => exact sanitize_of_valid _ (answer_messages_valid stamp response)
  | cut round => exact round_cut round fits.1 (fresh round (by simp [Ending.round?]))

theorem ending_starts (ending : Ending) :
    (Blocks.ofMessages ending.messages).orphans = [] := by
  cases ending with
  | nothing => rfl
  | answer stamp response => exact (answer_messages_valid stamp response).noOrphans
  | cut round => exact congrArg Blocks.orphans (Blocks.of_messages_head _ _ rfl)

theorem grown_sanitized (history : List Message) (trace : List Event) (rounds : List Round)
    (ending : Ending) (outcome : Except Error ChatResponse)
    (grown : Grown trace rounds ending outcome) (fresh : FreshIds trace)
    (repaired : sanitize history = ⟨history, false⟩) :
    sanitize (history ++ rounds.flatMap Round.messages ++ ending.messages) =
      ⟨history ++ rounds.flatMap Round.messages ++ ending.repaired, ending.isCut⟩ := by
  have usable : ∀ round ∈ rounds ++ ending.round?.toList,
      FreshSupply round.supply round.response.toolCalls := by
    intro round member
    obtain ⟨before, provider, request, after, split⟩ := grown.drawn round member
    exact fresh before provider request round.response round.supply after split
  rw [List.forall_mem_append] at usable
  have valid := valid_append _ _ ((protocol_valid_iff history).mpr repaired)
    (rounds_of_grown_valid rounds grown.complete usable.1)
  rw [sanitize_append _ _ (ending_starts ending), sanitize_of_valid _ valid,
    ending_sanitized ending outcome grown.fits usable.2, Bool.false_or]

-- The only usage that a run of the loop fills in is that of its answer.
theorem fits_total (ending : Ending) (result : LoopResult) (fits : ending.Fits result.outcome) :
    ending.Fits (ConversationLoop.withTotal result).outcome := by
  cases ending with
  | nothing =>
      obtain ⟨e, failed⟩ := fits
      exact ⟨e, by rw [ConversationLoop.withTotal, failed]; rfl⟩
  | answer stamp response =>
      obtain ⟨final, usage, answered⟩ := fits
      exact ⟨final, result.usage, by rw [ConversationLoop.withTotal, answered]; rfl⟩
  | cut round =>
      obtain ⟨cut, failed⟩ := fits
      exact ⟨cut, by rw [ConversationLoop.withTotal, failed]; rfl⟩

theorem history_grows_by_rounds (loop : ConversationLoop) (systemPrompt : String)
    (history : List Message) (state : σ) :
    ∃ rounds ending,
      (world.run (loop.run systemPrompt history) state).value.history =
          history ++ rounds.flatMap Round.messages ++ ending.messages ∧
        Grown (world.run (loop.run systemPrompt history) state).trace rounds ending
          (world.run (loop.run systemPrompt history) state).value.outcome ∧
        (FreshIds (world.run (loop.run systemPrompt history) state).trace →
          sanitize history = ⟨history, false⟩ →
          sanitize (world.run (loop.run systemPrompt history) state).value.history =
            ⟨history ++ rounds.flatMap Round.messages ++ ending.repaired, ending.isCut⟩) := by
  have grows : Grows history (world.run (loop.run systemPrompt history) state) := by
    rw [ConversationLoop.run]
    cases loop.setup systemPrompt with
    | error e => exact grows_failed history none e [] state rfl
    | ok setup =>
        obtain ⟨rounds, ending, value, grown⟩ :=
          rounds_grow world setup setup.rounds history none state
        obtain ⟨_, silent, total⟩ := run_heedless_process world _
          (world.run (setup.runRounds setup.rounds history none) state).state
          (total_heedless loop (world.run (setup.runRounds setup.rounds history none) state).value)
        simp only [World.run_bind, Run.andThen] at silent total ⊢
        rw [total]
        refine ⟨rounds, ending, value, grown.complete, fits_total ending _ grown.fits, ?_, ?_⟩
        · rw [responses_append, silent, List.append_nil, grown.responded]
        · exact fun round member => drawn_earlier _ _ round (grown.drawn round member)
  obtain ⟨rounds, ending, value, grown⟩ := grows
  refine ⟨rounds, ending, value, grown, ?_⟩
  intro fresh repaired
  rw [value]
  exact grown_sanitized history _ rounds ending _ grown fresh repaired

def doubledCall : Script where
  replies := [.ok (.ofToolCalls [⟨"", "guess", ""⟩]),
    .ok (.ofToolCalls [⟨"a", "read", ""⟩, ⟨"a", "read", ""⟩])]
  toolsCancel := true

def question : Message := .user ⟨"question", .epoch⟩ "Read it."

theorem doubled_call_stripped :
    FreshIds (scripted.run (reader.settings.agent.run "" [question]) doubledCall).trace ∧
      sanitize [question] = ⟨[question], false⟩ ∧
      ∃ round cut : Round,
        (scripted.run (reader.settings.agent.run "" [question]) doubledCall).value.history =
            question :: round.messages ++ cut.messages ∧
          round.Complete ∧ cut.Cut ∧
          sanitize (scripted.run (reader.settings.agent.run "" [question])
              doubledCall).value.history =
            ⟨question :: round.messages ++ cut.stripped, true⟩ := by
  have fresh : FreshIds
      (scripted.run (reader.settings.agent.run "" [question]) doubledCall).trace := by
    apply scripted_fresh
    intro response member
    simp only [doubledCall, List.mem_cons, List.not_mem_nil, or_false, Except.ok.injEq] at member
    rcases member with rfl | rfl <;> decide
  have changed : (sanitize (scripted.run (reader.settings.agent.run "" [question])
      doubledCall).value.history).changed = true := rfl
  have responded : (responses (scripted.run (reader.settings.agent.run "" [question])
      doubledCall).trace).length = 2 := rfl
  obtain ⟨rounds, ending, whole, grown, repaired⟩ := history_grows_by_rounds scripted
    reader.settings.agent "" [question] doubledCall
  have stripped := repaired fresh rfl
  rw [stripped] at changed
  rw [grown.responded, List.length_append, List.length_map] at responded
  refine ⟨fresh, rfl, ?_⟩
  cases ending with
  | nothing => cases changed
  | answer stamp response => cases changed
  | cut round =>
      obtain ⟨first, rfl⟩ : ∃ first, rounds = [first] := by
        rw [← List.length_eq_one_iff]
        exact Nat.succ.inj responded
      refine ⟨first, round, ?_, grown.complete first List.mem_cons_self, grown.fits.1, ?_⟩
      · simpa [Ending.messages] using whole
      · simpa [Ending.repaired, Ending.isCut] using stripped

end Dialogue
