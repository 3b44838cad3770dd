import Dialogue.Proofs.Agent.CallIds
import Dialogue.Proofs.Agent.Calls

set_option autoImplicit false

namespace Dialogue

variable {σ : Type}

def Effect.SendsValid : Effect → Prop
  | .chat _ request => ProtocolValid request.messages
  | _ => True

-- In this trace, the IDs that were generated after a response are usable for its calls.
def FreshIds (trace : List Event) : Prop :=
  ∀ before provider request response supply after,
    trace = before ++ ⟨.chat provider request, .finished (.ok response)⟩ ::
      ⟨.callIds, supply⟩ :: after →
        FreshSupply supply response.toolCalls

theorem fresh_left (first second : List Event) (fresh : FreshIds (first ++ second)) :
    FreshIds first := by
  intro before provider request response supply after split
  apply fresh before provider request response supply (after ++ second)
  rw [split]
  simp

theorem fresh_right (first second : List Event) (fresh : FreshIds (first ++ second)) :
    FreshIds second := by
  intro before provider request response supply after split
  apply fresh (first ++ before) provider request response supply after
  rw [split, List.append_assoc]

theorem of_calls_sends_valid (effect : Effect) (may : effect.OfCalls) : effect.SendsValid := by
  cases may <;> trivial

theorem heedless_sends_valid (effect : Effect) (heedless : effect.Heedless) :
    effect.SendsValid := by
  cases effect with
  | chat provider request => cases heedless
  | _ => trivial

theorem report_replaced_ensures (assigned : List AssignedCall) :
    (LoopSetup.reportReplaced assigned).Ensures Effect.Minor fun _ => True := by
  induction assigned with
  | nil => trivial
  | cons first rest ih =>
      rw [LoopSetup.reportReplaced]
      cases first.replaced with
      | true => exact Proc.ensures_after _ _ (minor_warn _) fun _ => ih
      | false => exact ih

def answerMessages (stamp : Stamp) (response : ChatResponse) : List Message :=
  if response.content.isEmpty then [] else [.assistant stamp response.content]

theorem answer_messages_valid (stamp : Stamp) (response : ChatResponse) :
    ProtocolValid (answerMessages stamp response) := by
  rw [answerMessages]
  cases response.content.isEmpty with
  | true => exact valid_empty
  | false => exact valid_plain _ rfl rfl

theorem answer_no_results (stamp : Stamp) (response : ChatResponse) :
    (answerMessages stamp response).filter Message.isTool = [] := by
  rw [answerMessages]
  cases response.content.isEmpty <;> rfl

theorem results_of_round (stamp : Stamp) (content : String) (called calls : List ToolCall)
    (results : List Message) (answers : List.Forall₂ ResultOf calls results) :
    (.withToolCalls stamp content called :: results : List Message).filter Message.isTool =
      results := by
  have tools : ∀ result ∈ results, result.isTool = true := by
    intro result member
    obtain ⟨place, bound, rfl⟩ := List.getElem_of_mem member
    exact (answers.get (answers.length_eq ▸ bound) bound).tool
  have head : (Message.withToolCalls stamp content called).isTool = false := rfl
  rw [List.filter_cons, head, if_neg (by simp), List.filter_eq_self.mpr tools]

theorem append_answer_ensures (response : ChatResponse) (history : List Message) :
    (LoopSetup.appendAnswer response history).Ensures Effect.Minor fun after =>
      ∃ stamp, after = history ++ answerMessages stamp response := by
  rw [LoopSetup.appendAnswer]
  cases empty : response.content.isEmpty with
  | true => exact ⟨⟨"", .epoch⟩, by simp [answerMessages, empty]⟩
  | false =>
      apply Proc.ensures_after _ _ minor_stamp
      intro stamp
      exact ⟨stamp, by simp [answerMessages, empty]⟩

-- The generated IDs are the first thing that is asked for.
theorem run_assigned_calls (world : World σ) (calls : List ToolCall) (state : σ) :
    (world.run (LoopSetup.assignedCalls calls) state).value =
        (assignCallIds (world.respond .callIds state).1 calls).map (·.call) ∧
      ∃ logs, (world.run (LoopSetup.assignedCalls calls) state).trace =
          ⟨.callIds, (world.respond .callIds state).1⟩ :: logs ∧
        ∀ event ∈ logs, event.effect.OfCalls := by
  have quiet := (Proc.ensures_run world _ (world.respond .callIds state).2
    (minor_of_calls _ (report_replaced_ensures
      (assignCallIds (world.respond .callIds state).1 calls)))).events
  rw [LoopSetup.assignedCalls, World.run_bind, Proc.callIds,
    World.run_heedless world .callIds state rfl (by simp)]
  simp only [Run.andThen, World.run_bind, World.run_pure, List.append_nil, List.singleton_append]
  exact ⟨trivial, _, rfl, quiet⟩

theorem assigned_round_valid (supply : Nat → String) (calls : List ToolCall) (stamp : Stamp)
    (content : String) (results : List Message) (fresh : FreshSupply supply calls)
    (complete : List.Forall₂ ResultOf ((assignCallIds supply calls).map (·.call)) results) :
    ProtocolValid
      (.withToolCalls stamp content ((assignCallIds supply calls).map (·.call)) :: results) := by
  apply valid_round _ _ rfl _ _ complete
  · intro call member
    obtain ⟨assigned, found, rfl⟩ := List.mem_map.mp member
    exact assigned_identified supply calls fresh assigned found
  · simpa [Message.withToolCalls, Message.assistant, Function.comp_def] using
      assigned_distinct supply calls fresh

variable (setup : LoopSetup)

def LoopSetup.callRound (left : Nat) (history : List Message) (usage : Option TokenUsage)
    (response : ChatResponse) : Proc LoopResult := do
  let calls ← LoopSetup.assignedCalls response.toolCalls
  let stamp ← Proc.stamp
  match ← setup.answerCalls calls (history ++ [.withToolCalls stamp response.content calls]) with
  | (history, some e) => return ⟨history, usage, .error e⟩
  | (history, none) => setup.runRounds left history usage

theorem run_rounds_succ (left : Nat) (history : List Message) (usage : Option TokenUsage) :
    setup.runRounds (left + 1) history usage = (do
      match ← Proc.chat setup.provider (setup.request history) with
      | .interrupted => return ⟨history, usage, .error .cancelled⟩
      | .finished (.error e) => return ⟨history, usage, .error (.provider e)⟩
      | .finished (.ok response) =>
        let usage := TokenUsage.addReported usage response.usage
        if response.toolCalls.isEmpty then
          return ⟨← LoopSetup.appendAnswer response history, usage, .ok response⟩
        else setup.callRound left history usage response) := rfl

def LoopResult.ValidIfAnswered (result : LoopResult) : Prop :=
  ∀ response, result.outcome = .ok response → ProtocolValid result.history

theorem meets_bind_fresh {α β : Type} {post : β → Prop} (world : World σ) (process : Proc α)
    (next : α → Proc β) (state : σ)
    (fresh : FreshIds (world.run (process >>= next) state).trace)
    (before : ∀ event ∈ (world.run process state).trace, event.effect.SendsValid)
    (rest : FreshIds (world.run (next (world.run process state).value)
        (world.run process state).state).trace →
      (world.run (next (world.run process state).value)
        (world.run process state).state).Meets Effect.SendsValid post) :
    (world.run (process >>= next) state).Meets Effect.SendsValid post := by
  rw [World.run_bind] at fresh ⊢
  have later := rest (fresh_right _ _ fresh)
  refine ⟨?_, later.value⟩
  intro event member
  rcases List.mem_append.mp member with early | late
  · exact before event early
  · exact later.events event late

theorem failed_rounds_valid (world : World σ) (result : LoopResult) (state : σ) (e : Error)
    (failed : result.outcome = .error e) :
    (world.run (pure result) state).Meets Effect.SendsValid LoopResult.ValidIfAnswered := by
  refine ⟨by simp [World.run_pure], ?_⟩
  intro response succeeded
  rw [World.run_pure, failed] at succeeded
  cases succeeded

theorem call_round_valid (world : World σ) (left : Nat) (history : List Message)
    (usage : Option TokenUsage) (response : ChatResponse) (state : σ)
    (valid : ProtocolValid history)
    (usable : FreshSupply (world.respond .callIds state).1 response.toolCalls)
    (fresh : FreshIds (world.run (setup.callRound left history usage response) state).trace)
    (rounds : ∀ (history : List Message) (state : σ), ProtocolValid history →
      FreshIds (world.run (setup.runRounds left history usage) state).trace →
        (world.run (setup.runRounds left history usage) state).Meets Effect.SendsValid
          LoopResult.ValidIfAnswered) :
    (world.run (setup.callRound left history usage response) state).Meets Effect.SendsValid
      LoopResult.ValidIfAnswered := by
  obtain ⟨calls, logs, assigned, quiet⟩ := run_assigned_calls world response.toolCalls state
  apply meets_bind_fresh world _ _ state fresh
  · intro event member
    rw [assigned] at member
    rcases List.mem_cons.mp member with atHead | later
    · rw [atHead]
      trivial
    · exact of_calls_sends_valid _ (quiet event later)
  rw [calls]
  generalize (world.run (LoopSetup.assignedCalls response.toolCalls) state).state = assignedState
  intro fresh
  have stamped := World.run_heedless world .stamp assignedState rfl (by simp)
  apply meets_bind_fresh world _ _ _ fresh
  · simp [Proc.stamp, stamped, Effect.SendsValid]
  rw [Proc.stamp, stamped]
  dsimp only
  generalize (world.respond .stamp assignedState).1 = stamp
  generalize (world.respond .stamp assignedState).2 = stampedState
  intro fresh
  obtain ⟨silent, done⟩ := Proc.ensures_run world _ stampedState
    (answer_calls_ensures setup ((assignCallIds (world.respond .callIds state).1
      response.toolCalls).map (·.call)) (history ++ [.withToolCalls stamp response.content
        ((assignCallIds (world.respond .callIds state).1 response.toolCalls).map (·.call))]))
  apply meets_bind_fresh world _ _ _ fresh
  · exact fun event member => of_calls_sends_valid _ (silent event member)
  revert done
  generalize world.run (setup.answerCalls _ _) stampedState = answers
  obtain ⟨_, ⟨after, failure⟩, answeredState⟩ := answers
  intro done fresh
  cases failure with
  | some e => exact failed_rounds_valid world _ _ e rfl
  | none =>
      obtain ⟨results, answered, rest, split, appended, complete, all⟩ := done.appended
      rw [all rfl, List.append_nil] at split
      subst split
      apply rounds after answeredState _ fresh
      dsimp only at appended
      rw [appended, List.append_assoc, List.singleton_append]
      exact valid_append _ _ valid (assigned_round_valid _ _ stamp _ results usable complete)

theorem run_call_round_trace (world : World σ) (left : Nat) (history : List Message)
    (usage : Option TokenUsage) (response : ChatResponse) (state : σ) :
    ∃ rest, (world.run (setup.callRound left history usage response) state).trace =
      ⟨.callIds, (world.respond .callIds state).1⟩ :: rest := by
  obtain ⟨_, logs, assigned, _⟩ := run_assigned_calls world response.toolCalls state
  rw [LoopSetup.callRound, World.run_bind, Run.andThen, assigned]
  exact ⟨_, rfl⟩

theorem answer_round_valid (world : World σ) (history : List Message) (usage : Option TokenUsage)
    (response : ChatResponse) (state : σ) (valid : ProtocolValid history)
    (fresh : FreshIds (world.run (do
      return ⟨← LoopSetup.appendAnswer response history, usage, .ok response⟩ : Proc LoopResult)
        state).trace) :
    (world.run (do
      return ⟨← LoopSetup.appendAnswer response history, usage, .ok response⟩ : Proc LoopResult)
        state).Meets Effect.SendsValid LoopResult.ValidIfAnswered := by
  obtain ⟨silent, stamp, appended⟩ :=
    Proc.ensures_run world _ state (minor_of_calls _ (append_answer_ensures response history))
  apply meets_bind_fresh world _ _ state fresh
  · exact fun event member => of_calls_sends_valid _ (silent event member)
  intro _
  refine ⟨by simp [World.run_pure], ?_⟩
  intro _ _
  rw [World.run_pure, appended]
  exact valid_append _ _ valid (answer_messages_valid stamp response)

theorem rounds_valid (world : World σ) (left : Nat) (history : List Message)
    (usage : Option TokenUsage) (state : σ) (valid : ProtocolValid history)
    (fresh : FreshIds (world.run (setup.runRounds left history usage) state).trace) :
    (world.run (setup.runRounds left history usage) state).Meets Effect.SendsValid
      LoopResult.ValidIfAnswered := by
  induction left generalizing history usage state with
  | zero =>
      apply meets_bind_fresh world _ _ state fresh
      · exact fun event member => of_calls_sends_valid _ ((Proc.ensures_run world _ state
          (Proc.ensures_after _ pure (.warn _) fun _ => trivial)).events event member)
      · exact fun _ => failed_rounds_valid world _ _ _ rfl
  | succ left ih =>
      have raced := World.run_racing world (.chat setup.provider (setup.request history)) state
        .interrupted rfl
      rw [run_rounds_succ] at fresh ⊢
      cases cancelled : world.cancelled state with
      | true =>
          simp only [cancelled, if_true] at raced
          apply meets_bind_fresh world _ _ state fresh
          · simp [Proc.chat, raced]
          · rw [Proc.chat, raced]
            exact fun _ => failed_rounds_valid world _ _ _ rfl
      | false =>
          simp only [cancelled, Bool.false_eq_true, if_false] at raced
          generalize (world.respond _ state).1 = reply at raced
          generalize (world.respond _ state).2 = replied at raced
          have whole := fresh
          rw [World.run_bind, Proc.chat, raced] at whole
          apply meets_bind_fresh world _ _ state fresh
          · intro event member
            rw [Proc.chat, raced] at member
            rw [List.mem_singleton.mp member]
            exact valid
          rw [Proc.chat, raced]
          intro fresh
          match reply with
          | .interrupted => exact failed_rounds_valid world _ _ _ rfl
          | .finished (.error e) => exact failed_rounds_valid world _ _ _ rfl
          | .finished (.ok response) =>
              dsimp only at fresh whole ⊢
              cases noCalls : response.toolCalls.isEmpty with
              | true =>
                  simp only [noCalls, if_true] at fresh ⊢
                  exact answer_round_valid world history _ response replied valid fresh
              | false =>
                  simp only [noCalls, Bool.false_eq_true, if_false, Run.andThen] at fresh whole ⊢
                  obtain ⟨rest, begins⟩ := run_call_round_trace setup world left history
                    (TokenUsage.addReported usage response.usage) response replied
                  rw [begins] at whole
                  exact call_round_valid setup world left history _ response replied valid
                    (whole [] _ _ response _ rest rfl) fresh fun history state => ih history _ state

structure LoopSetup.TakenFrom (setup : LoopSetup) (loop : ConversationLoop)
    (systemPrompt : String) : Prop where
  provider : loop.provider = some setup.provider
  tools : loop.tools = some setup.tools
  approver : setup.approver = loop.approver.getD .auto
  prompt : setup.systemPrompt = systemPrompt
  rounds : setup.rounds = loop.rounds
  toolOutputCap : setup.toolOutputCap = loop.toolOutputCap
  maxTokens : setup.maxTokens = loop.maxTokens

theorem configured_setup (loop : ConversationLoop) (systemPrompt : String) (setup : LoopSetup)
    (configured : loop.setup systemPrompt = .ok setup) : setup.TakenFrom loop systemPrompt := by
  rw [ConversationLoop.setup] at configured
  split at configured <;> cases configured
  rename_i provider tools
  exact ⟨provider, tools, rfl, rfl, rfl, rfl, rfl⟩

theorem total_heedless (loop : ConversationLoop) (result : LoopResult) :
    (do
      if loop.reportsUsage then Proc.reportUsage (result.usage.getD {})
      return ConversationLoop.withTotal result : Proc LoopResult).Ensures Effect.Heedless
        fun total => total = ConversationLoop.withTotal result := by
  cases loop.reportsUsage with
  | true => exact Proc.ensures_after _ _ (by rfl) fun _ => rfl
  | false => rfl

end Dialogue
