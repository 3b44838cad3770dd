import Dialogue.Proofs.Agent.Growth
import Dialogue.Proofs.Agent.Steady
import Dialogue.Proofs.Agent.Usage

set_option autoImplicit false

namespace Dialogue

def isDecisive : Effect.Reply → Bool
  | .error _ => true
  | .ok response => response.toolCalls.isEmpty

def decidedBy (limit : Nat) : Option Effect.Reply → Except Error ChatResponse
  | none => .error (.iterationLimit limit)
  | some (.error e) => .error (.provider e)
  | some (.ok response) => .ok response

def Event.reply? : Event → Option Effect.Reply
  | ⟨.chat _ _, .finished reply⟩ => some reply
  | _ => none

def replies (trace : List Event) : List Effect.Reply := trace.filterMap Event.reply?

theorem replies_append (first second : List Event) :
    replies (first ++ second) = replies first ++ replies second :=
  List.filterMap_append

theorem responses_of_replies (trace : List Event) :
    responses trace = (replies trace).filterMap Except.toOption := by
  rw [responses, replies, List.filterMap_filterMap]
  congr 1
  funext event
  obtain ⟨effect, answer⟩ := event
  cases effect with
  | chat provider request => rcases answer with _ | _ | _ <;> rfl
  | _ => rfl

theorem of_calls_unreplied (event : Event) (may : event.effect.OfCalls) : event.reply? = none := by
  obtain ⟨effect, answer⟩ := event
  cases may <;> rfl

theorem of_calls_unasked (event : Event) (may : event.effect.OfCalls) : event.request? = none := by
  obtain ⟨effect, answer⟩ := event
  cases may <;> rfl

theorem asked_of_calls (events later : List Event)
    (quiet : ∀ event ∈ events, event.effect.OfCalls) :
    replies (events ++ later) = replies later ∧ requests (events ++ later) = requests later :=
  ⟨quiet_unseen Event.reply? of_calls_unreplied events later quiet,
    quiet_unseen Event.request? of_calls_unasked events later quiet⟩

theorem unasked_of_calls (events : List Event) (quiet : ∀ event ∈ events, event.effect.OfCalls) :
    replies events = [] ∧ requests events = [] := by
  have unasked := asked_of_calls events [] quiet
  rwa [List.append_nil] at unasked

-- The run takes its replies from these, up to the first decisive one. There is a whole round for
-- each reply before that one, and each request carries what was appended until then.
structure Follows (setup : LoopSetup) (history : List Message) (offered : List Effect.Reply)
    (rounds : List Round) (ending : Ending) (trace : List Event) (result : LoopResult) : Prop where
  taken : replies trace = offered.take (offered.findIdx isDecisive + 1)
  called : rounds.map (fun round => .ok round.response) = offered.take (offered.findIdx isDecisive)
  complete : ∀ round ∈ rounds, round.Complete
  asked : requests trace =
    (List.range (min (offered.findIdx isDecisive + 1) offered.length)).map fun place =>
      setup.request (history ++ (rounds.take place).flatMap Round.messages)
  kept : result.history = history ++ rounds.flatMap Round.messages ++ ending.messages
  fits : ending.Fits result.outcome

variable (setup : LoopSetup) {left : Nat} {history : List Message} {usage : Option TokenUsage}
  {trace : List Event} {result : LoopResult}

theorem last_reply (history : List Message) (reply : Effect.Reply) (events : List Event)
    (quiet : ∀ event ∈ events, event.effect.OfCalls) :
    replies (setup.replied history reply :: events) = [reply] := by
  change reply :: replies events = _
  rw [(unasked_of_calls events quiet).1]

theorem inquiry_bounded (inquiry : Inquiry setup left history usage trace result) :
    (replies trace).length ≤ left := by
  induction inquiry with
  | exhausted | refused | interrupted => exact Nat.zero_le _
  | failed => exact Nat.succ_le_succ (Nat.zero_le _)
  | answered left history usage stamp response final quiet =>
      rw [last_reply setup history _ _ quiet]
      exact Nat.succ_le_succ (Nat.zero_le _)
  | @cut left history usage round cut events quiet =>
      change (replies (setup.replied history _ :: events)).length ≤ left + 1
      rw [last_reply setup history _ _ quiet]
      exact Nat.succ_le_succ (Nat.zero_le _)
  | @called left history usage round complete events later result quiet rest ih =>
      change (replies (events ++ later)).length + 1 ≤ left + 1
      rw [(asked_of_calls events later quiet).1]
      exact Nat.succ_le_succ ih

theorem follows_decisive (reply : Effect.Reply) (decisive : isDecisive reply = true)
    (more : List Effect.Reply) (ending : Ending) (events : List Event)
    (quiet : ∀ event ∈ events, event.effect.OfCalls)
    (kept : result.history = history ++ ending.messages) (fits : ending.Fits result.outcome) :
    Follows setup history (reply :: more) [] ending (setup.replied history reply :: events)
      result := by
  have unasked := (unasked_of_calls events quiet).2
  have first : (reply :: more).findIdx isDecisive = 0 := by rw [List.findIdx_cons, decisive]; rfl
  refine ⟨?_, ?_, by simp, ?_, by simpa using kept, fits⟩
  · rw [last_reply setup history reply events quiet, first]
    rfl
  · rw [first]
    rfl
  · change setup.request history :: requests events = _
    rw [unasked, first, List.length_cons, Nat.zero_add, Nat.min_eq_left (Nat.le_add_left 1 _)]
    simp

theorem follows_called (round : Round) (complete : round.Complete) (more : List Effect.Reply)
    (rounds : List Round) (ending : Ending) (events later : List Event)
    (quiet : ∀ event ∈ events, event.effect.OfCalls)
    (rest : Follows setup (history ++ round.messages) more rounds ending later result) :
    Follows setup history (.ok round.response :: more) (round :: rounds) ending
      (setup.replied history (.ok round.response) :: ⟨.callIds, round.supply⟩ :: events ++ later)
      result := by
  obtain ⟨answered, asked⟩ := asked_of_calls events later quiet
  have indecisive : isDecisive (.ok round.response) = false := by
    simpa [isDecisive] using complete.called
  have first : (.ok round.response :: more).findIdx isDecisive = more.findIdx isDecisive + 1 := by
    rw [List.findIdx_cons, indecisive]
    rfl
  refine ⟨?_, ?_, List.forall_mem_cons.mpr ⟨complete, rest.complete⟩, ?_, ?_, rest.fits⟩
  · change .ok round.response :: replies (events ++ later) = _
    rw [answered, rest.taken, first, List.take_succ_cons]
  · rw [first, List.map_cons, rest.called, List.take_succ_cons]
  · change setup.request history :: requests (events ++ later) = _
    rw [asked, rest.asked, first, List.length_cons, Nat.add_min_add_right,
      List.range_succ_eq_map, List.map_cons, List.map_map]
    simp [Function.comp_def]
  · simpa using rest.kept

-- By induction on the rounds, for all replies that are left.
theorem inquiry_follows (inquiry : Inquiry setup left history usage trace result)
    (uncancelled : result.Uncancelled) (offered : List Effect.Reply)
    (enough : offered.length = left) (taken : replies trace <+: offered) :
    (∃ rounds ending, Follows setup history offered rounds ending trace result) ∧
      result.outcome = decidedBy setup.rounds (offered.find? isDecisive) := by
  induction inquiry generalizing offered with
  | exhausted history usage =>
      obtain rfl := List.eq_nil_of_length_eq_zero enough
      exact ⟨⟨[], .nothing, rfl, rfl, by simp, rfl, by simp [Ending.messages], ⟨_, rfl⟩⟩, rfl⟩
  | refused | interrupted | cut => exact absurd rfl uncancelled
  | failed left history usage e =>
      obtain ⟨more, rfl⟩ := taken
      refine ⟨⟨[], .nothing, ?_⟩, rfl⟩
      exact follows_decisive setup (.error e) rfl more .nothing [] (by simp)
        (by simp [Ending.messages]) ⟨_, rfl⟩
  | answered left history usage stamp response final quiet =>
      have decisive : isDecisive (.ok response) = true := by simp [isDecisive, final]
      rw [last_reply setup history _ _ quiet] at taken
      obtain ⟨more, rfl⟩ := taken
      refine ⟨⟨[], .answer stamp response, ?_⟩, ?_⟩
      · exact follows_decisive setup _ decisive more (.answer stamp response) _ quiet rfl
          ⟨final, response.usage, rfl⟩
      · rw [List.singleton_append, List.find?_cons_of_pos decisive]
        rfl
  | @called left history usage round complete events later result quiet rest ih =>
      have indecisive : ¬ isDecisive (.ok round.response) = true := by
        simpa [isDecisive] using complete.called
      change .ok round.response :: replies (events ++ later) <+: offered at taken
      rw [(asked_of_calls events later quiet).1] at taken
      obtain ⟨unread, rfl⟩ := taken
      rw [List.cons_append] at enough ⊢
      obtain ⟨⟨rounds, ending, follows⟩, outcome⟩ := ih uncancelled
        (replies later ++ unread) (Nat.succ.inj enough) (List.prefix_append _ _)
      refine ⟨⟨round :: rounds, ending, ?_⟩, ?_⟩
      · exact follows_called setup round complete _ rounds ending events later quiet follows
      · rw [List.find?_cons_of_neg indecisive, outcome]

def Offers (offered : Nat → Effect.Reply) (trace : List Event) : Prop :=
  ∀ place reply, (replies trace)[place]? = some reply → reply = offered place

def firstOffered (limit : Nat) (offered : Nat → Effect.Reply) : List Effect.Reply :=
  (List.range limit).map offered

theorem offers_first (limit : Nat) (offered : Nat → Effect.Reply) (trace : List Event)
    (offers : Offers offered trace) (bounded : (replies trace).length ≤ limit) :
    replies trace <+: firstOffered limit offered := by
  rw [List.prefix_iff_getElem?]
  intro place within
  have reply := offers place _ (List.getElem?_eq_getElem within)
  rw [firstOffered, List.getElem?_map, List.getElem?_range (Nat.lt_of_lt_of_le within bounded),
    Option.map_some, reply]

theorem asked_before_report (trace : List Event) (reports : Bool) (result : LoopResult) :
    replies (trace ++ if reports then [result.report] else []) = replies trace ∧
      requests (trace ++ if reports then [result.report] else []) = requests trace := by
  rw [replies_append, requests_append]
  cases reports <;> exact ⟨List.append_nil _, List.append_nil _⟩

variable {σ : Type} (world : World σ)

theorem loop_follows (loop : ConversationLoop) (systemPrompt : String) (history : List Message)
    (state : σ) (configured : loop.setup systemPrompt = .ok setup)
    (undisturbed : Undisturbed world (world.run (loop.run systemPrompt history) state))
    (offered : Nat → Effect.Reply)
    (offers : Offers offered (world.run (loop.run systemPrompt history) state).trace) :
    (∃ rounds ending, Follows setup history (firstOffered loop.rounds offered) rounds ending
        (world.run (loop.run systemPrompt history) state).trace
        (world.run (loop.run systemPrompt history) state).value) ∧
      (world.run (loop.run systemPrompt history) state).value.outcome =
        (decidedBy loop.rounds ((firstOffered loop.rounds offered).find? isDecisive)).map
          fun response => { response with
            usage := (world.run (loop.run systemPrompt history) state).value.usage } := by
  have uncancelled := undisturbed_uncancelled world loop systemPrompt history state undisturbed
  obtain ⟨trace, result, after, inquiry, run⟩ :=
    run_configured world setup loop systemPrompt history state configured
  obtain ⟨unanswered, unasked⟩ := asked_before_report trace loop.reportsUsage result
  rw [run] at uncancelled offers ⊢
  have room := (configured_setup loop systemPrompt setup configured).rounds
  rw [room] at inquiry
  rw [Offers, unanswered] at offers
  obtain ⟨⟨rounds, ending, follows⟩, outcome⟩ := inquiry_follows setup inquiry
    ((with_total_uncancelled result).mp uncancelled) (firstOffered loop.rounds offered)
    (by simp [firstOffered]) (offers_first _ _ _ offers (inquiry_bounded setup inquiry))
  refine ⟨⟨rounds, ending, ?_⟩, ?_⟩
  · exact ⟨unanswered.trans follows.taken, follows.called, follows.complete,
      unasked.trans follows.asked, follows.kept, fits_total ending result follows.fits⟩
  · rw [room] at outcome
    rw [← outcome]
    rfl

-- The replies decide how many rounds there are, what each of them asks, and how the run ends. It
-- is no different for any other run with the same replies and room for as many, whatever becomes of
-- its calls.
theorem replies_decide_run (loop : ConversationLoop) (systemPrompt : String)
    (history : List Message) (state : σ) (configured : loop.setup systemPrompt = .ok setup)
    (undisturbed : Undisturbed world (world.run (loop.run systemPrompt history) state))
    (offered : Nat → Effect.Reply)
    (offers : Offers offered (world.run (loop.run systemPrompt history) state).trace) :
    (∃ rounds ending, Follows setup history (firstOffered loop.rounds offered) rounds ending
        (world.run (loop.run systemPrompt history) state).trace
        (world.run (loop.run systemPrompt history) state).value) ∧
      (world.run (loop.run systemPrompt history) state).value.outcome =
        (decidedBy loop.rounds ((firstOffered loop.rounds offered).find? isDecisive)).map
          (fun response => { response with
            usage := (world.run (loop.run systemPrompt history) state).value.usage }) ∧
      ∀ {τ : Type} (other : World τ) (agent : ConversationLoop) (prompt : String)
        (earlier : List Message) (start : τ) (prepared : LoopSetup),
        agent.setup prompt = .ok prepared → agent.rounds = loop.rounds →
          Undisturbed other (other.run (agent.run prompt earlier) start) →
          Offers offered (other.run (agent.run prompt earlier) start).trace →
            (requests (other.run (agent.run prompt earlier) start).trace).length =
                (requests (world.run (loop.run systemPrompt history) state).trace).length ∧
              (other.run (agent.run prompt earlier) start).value.outcome =
                (world.run (loop.run systemPrompt history) state).value.outcome := by
  obtain ⟨⟨rounds, ending, follows⟩, outcome⟩ := loop_follows setup world loop systemPrompt history
    state configured undisturbed offered offers
  refine ⟨⟨rounds, ending, follows⟩, outcome, ?_⟩
  intro τ other agent prompt earlier start prepared ready room calm offersToo
  obtain ⟨⟨_, _, others⟩, ended⟩ := loop_follows prepared other agent prompt earlier start ready
    calm offered offersToo
  rw [room] at others ended
  have same : reportedUsage (other.run (agent.run prompt earlier) start).trace =
      reportedUsage (world.run (loop.run systemPrompt history) state).trace := by
    rw [reportedUsage, reportedUsage, responses_of_replies, responses_of_replies, others.taken,
      follows.taken]
  constructor
  · rw [others.asked, follows.asked, List.length_map, List.length_map]
  · rw [ended, outcome, run_usage, run_usage, same]

theorem scripted_undisturbed {α : Type} (process : Proc α) (script : Script)
    (running : (scripted.run process script).state.cancelled = false) :
    Undisturbed scripted (scripted.run process script) := by
  refine ⟨running, ?_⟩
  apply World.run_answers scripted (fun _ => True) (·.reportsCancelled = false)
    (fun _ _ _ => trivial) _ process script trivial
  intro effect script _
  cases effect <;> rfl

def fumbling : Script where
  replies := [.ok (.ofToolCalls [⟨"a", "guess", ""⟩, ⟨"b", "read", "\x7b"⟩]),
    .ok (.ofToolCalls [⟨"c", "read", ""⟩]), .ok (.ofText "I cannot.")]

def fumbled (place : Nat) : Effect.Reply := fumbling.replies.getD place (.error (.network "down"))

def deniedLoop : ConversationLoop :=
  { reader.settings.agent with approver := some (.autonomy .readOnly none) }

theorem fumbling_offered (trace : List Event) (given : replies trace = fumbling.replies) :
    Offers fumbled trace := by
  intro place reply found
  rw [given] at found
  rw [fumbled, List.getD_eq_getElem?_getD, found, Option.getD_some]

theorem denied_call_goes_on :
    (∃ setup, deniedLoop.setup "" = .ok setup) ∧
      Undisturbed scripted (scripted.run (deniedLoop.run "" []) fumbling) ∧
      Offers fumbled (scripted.run (deniedLoop.run "" []) fumbling).trace ∧
      (scripted.run (deniedLoop.run "" []) fumbling).value.outcome = .ok (.ofText "I cannot.") ∧
      (requests (scripted.run (reader.settings.agent.run "" []) fumbling).trace).length = 3 ∧
      (scripted.run (reader.settings.agent.run "" []) fumbling).value.outcome =
        (scripted.run (deniedLoop.run "" []) fumbling).value.outcome := by
  have undisturbed := scripted_undisturbed (deniedLoop.run "" []) fumbling rfl
  have offers := fumbling_offered (scripted.run (deniedLoop.run "" []) fumbling).trace rfl
  obtain ⟨_, outcome, alike⟩ := replies_decide_run _ scripted deniedLoop "" [] fumbling rfl
    undisturbed fumbled offers
  obtain ⟨asked, ended⟩ := alike scripted reader.settings.agent "" [] fumbling _ rfl rfl
    (scripted_undisturbed _ fumbling rfl) (fumbling_offered _ rfl)
  exact ⟨⟨_, rfl⟩, undisturbed, offers, outcome, asked, ended⟩

end Dialogue
