import Dialogue.Proofs.Agent.Growth
import Dialogue.Proofs.Context.Compaction
import Dialogue.Proofs.Session.Atomicity
import Dialogue.Proofs.Session.Exchanges

set_option autoImplicit false

namespace Dialogue

structure OneSummary (messages : List Message) : Prop where
  atMostOne : (messages.filter Message.isSummary).length ≤ 1
  first : ∀ place (bound : place < messages.length), messages[place].isSummary = true → place = 0

theorem one_summary_iff (messages : List Message) :
    OneSummary messages ↔ ∀ message ∈ messages.tail, message.isSummary = false := by
  cases messages with
  | nil => exact ⟨fun _ => by simp, fun _ => ⟨by simp, by simp⟩⟩
  | cons head rest =>
      rw [List.tail_cons]
      constructor
      · intro one message member
        obtain ⟨place, bound, rfl⟩ := List.getElem_of_mem member
        cases summary : rest[place].isSummary with
        | false => rfl
        | true =>
            have impossible := one.first (place + 1) (Nat.succ_lt_succ bound)
              (by rw [List.getElem_cons_succ]; exact summary)
            cases impossible
      · intro none
        have plain : rest.filter Message.isSummary = [] := by
          rw [List.filter_eq_nil_iff]
          exact fun message member => by simp [none message member]
        constructor
        · rw [List.filter_cons, plain]
          split <;> simp
        · intro place bound summary
          cases place with
          | zero => rfl
          | succ place =>
              have ordinary := none _ (List.getElem_mem (Nat.lt_of_succ_lt_succ bound))
              rw [← List.getElem_cons_succ head rest place bound, summary] at ordinary
              cases ordinary

theorem sanitize_one_summary (messages : List Message) (one : OneSummary messages) :
    OneSummary (sanitize messages).messages := by
  rw [one_summary_iff] at one ⊢
  intro kept member
  obtain ⟨message, source, remains⟩ := sanitized_tail messages kept member
  rw [remains_summary message kept remains]
  exact one message source

theorem append_one_summary (messages more : List Message) (one : OneSummary messages)
    (plain : ∀ message ∈ more, message.isSummary = false) : OneSummary (messages ++ more) := by
  rw [one_summary_iff] at one ⊢
  intro message member
  cases messages with
  | nil => exact plain message (List.mem_of_mem_tail member)
  | cons head rest =>
      rcases List.mem_append.mp member with early | late
      · exact one message early
      · exact plain message late

theorem summary_before_cut (messages : List Message) (one : OneSummary messages) (start : Nat)
    (cut : start ≠ 0) :
    (∀ message ∈ messages.drop start, message.isSummary = false) ∧
      ∀ message ∈ messages, message.isSummary = true → message ∈ messages.take start := by
  rw [one_summary_iff] at one
  cases messages with
  | nil => exact ⟨by simp, by simp⟩
  | cons head rest =>
      obtain ⟨start, rfl⟩ := Nat.exists_eq_succ_of_ne_zero cut
      refine ⟨fun message member => one message (List.mem_of_mem_drop member), ?_⟩
      intro message member summary
      rcases List.mem_cons.mp member with rfl | later
      · exact List.mem_cons_self
      · rw [one message later] at summary
        cases summary

theorem compacted_one_summary (compactor : Compactor) (systemPrompt : String)
    (messages : List Message) (trace : List Event) (compacted : List Message)
    (one : OneSummary messages)
    (compaction : compactor.Compaction systemPrompt messages trace (.ok compacted)) :
    OneSummary compacted := by
  cases compaction with
  | untouched within => exact one
  | summarized asked made response cut told =>
      rw [one_summary_iff]
      exact (summary_before_cut messages one _ (cut_at_window _ _ _ _ cut).2).1
  | dropped asked reply e cut failed other =>
      rw [one_summary_iff]
      exact fun message member => (summary_before_cut messages one _ (cut_at_window _ _ _ _ cut).2).1
        message (List.mem_of_mem_tail member)

def Effect.SendsOneSummary : Effect → Prop
  | .chat _ request => OneSummary request.messages
  | _ => True

open Effect

theorem of_calls_one_summary (effect : Effect) (may : effect.OfCalls) : effect.SendsOneSummary := by
  cases may <;> trivial

theorem heedless_one_summary (effect : Effect) (heedless : effect.Heedless) :
    effect.SendsOneSummary := by
  cases effect with
  | chat provider request => cases heedless
  | _ => trivial

def AddsPlain (history after : List Message) : Prop :=
  ∃ added, after = history ++ added ∧ ∀ message ∈ added, message.isSummary = false

theorem adds_nothing (history : List Message) : AddsPlain history history :=
  ⟨[], (List.append_nil history).symm, by simp⟩

theorem adds_more (first second third : List Message) (early : AddsPlain first second)
    (late : AddsPlain second third) : AddsPlain first third := by
  obtain ⟨added, rfl, plain⟩ := early
  obtain ⟨more, rfl, alsoPlain⟩ := late
  refine ⟨added ++ more, List.append_assoc _ _ _, ?_⟩
  exact List.forall_mem_append.mpr ⟨plain, alsoPlain⟩

theorem adds_one_summary (history after : List Message) (one : OneSummary history)
    (adds : AddsPlain history after) : OneSummary after := by
  obtain ⟨added, rfl, plain⟩ := adds
  exact append_one_summary history added one plain

theorem adds_answer (stamp : Stamp) (response : ChatResponse) (history : List Message) :
    AddsPlain history (history ++ answerMessages stamp response) := by
  refine ⟨_, rfl, ?_⟩
  rw [answerMessages]
  split <;> simp [Message.assistant, Message.isSummary]

theorem adds_results (calls : List ToolCall) (results history : List Message)
    (answered : List.Forall₂ Answers calls results) : AddsPlain history (history ++ results) := by
  refine ⟨results, rfl, ?_⟩
  induction answered with
  | nil => simp
  | cons first rest ih =>
      obtain ⟨stamp, text, rfl⟩ := first
      exact List.forall_mem_cons.mpr ⟨rfl, ih⟩

theorem rounds_one_summary (setup : LoopSetup) (left : Nat) (history : List Message)
    (usage : Option TokenUsage) (one : OneSummary history) :
    (setup.runRounds left history usage).Ensures SendsOneSummary
      fun result => AddsPlain history result.history := by
  induction left generalizing history usage with
  | zero => exact Proc.ensures_after _ _ trivial fun _ => adds_nothing history
  | succ left ih =>
      rw [run_rounds_succ]
      refine Proc.ensures_after _ _ one fun reply => ?_
      match reply with
      | .interrupted => exact adds_nothing history
      | .finished (.error e) => exact adds_nothing history
      | .finished (.ok response) =>
          dsimp only
          cases response.toolCalls.isEmpty with
          | true =>
              apply Proc.ensures_bind _ _ (Proc.ensures_mono _
                (minor_of_calls _ (append_answer_ensures response history)) of_calls_one_summary
                  fun _ appended => appended)
              rintro _ ⟨stamp, rfl⟩
              exact adds_answer stamp response history
          | false =>
              apply Proc.ensures_bind _ _ (Proc.ensures_mono _
                (assigned_calls_heedless response) heedless_one_summary fun _ _ => trivial)
              intro calls _
              refine Proc.ensures_after _ _ trivial fun stamp => ?_
              have issues : AddsPlain history
                  (history ++ [.withToolCalls stamp response.content calls]) :=
                ⟨_, rfl, by simp [Message.withToolCalls, Message.assistant, Message.isSummary]⟩
              apply Proc.ensures_bind _ _ (Proc.ensures_mono _
                (answer_calls_append setup calls _) of_calls_one_summary fun _ answered => answered)
              rintro ⟨after, failure⟩ ⟨results, rfl, answered, _⟩
              have adds := adds_more _ _ _ issues (adds_results _ results _ answered)
              cases failure with
              | some e => exact adds
              | none =>
                  exact Proc.ensures_mono _ (ih _ _ (adds_one_summary _ _ one adds))
                    (fun _ may => may) fun result more => adds_more _ _ _ adds more

theorem loop_one_summary (loop : ConversationLoop) (systemPrompt : String) (history : List Message)
    (one : OneSummary history) :
    (loop.run systemPrompt history).Ensures SendsOneSummary
      fun result => AddsPlain history result.history := by
  rw [ConversationLoop.run]
  cases loop.setup systemPrompt with
  | error e => exact adds_nothing history
  | ok setup =>
      apply Proc.ensures_bind _ _ (rounds_one_summary setup setup.rounds history none one)
      intro result adds
      apply Proc.ensures_mono _ (total_heedless loop result) heedless_one_summary
      rintro _ rfl
      exact adds

def Recounted (message : Message) (transcript : String) : Prop :=
  ∃ kept before after, Remains message kept ∧ transcript = before ++ kept.transcript ++ after

theorem recounted_of_mem (message kept : Message) (messages : List Message)
    (remains : Remains message kept) (member : kept ∈ messages) :
    Recounted message (renderTranscript messages) := by
  obtain ⟨earlier, later, rfl⟩ := List.append_of_mem member
  refine ⟨kept, "<transcript>\n" ++ String.join (earlier.map Message.transcript),
    String.join (later.map Message.transcript) ++ "</transcript>", remains, ?_⟩
  rw [renderTranscript, List.map_append, List.map_cons, String.join_append, String.join_cons]
  simp only [String.append_assoc]

variable (conversation : Conversation) {σ : Type} (world : World σ)

theorem working_one_summary (stamp : Stamp) (content : String)
    (one : OneSummary conversation.history) :
    OneSummary (conversation.working stamp content).messages :=
  sanitize_one_summary _ (append_one_summary _ [.user stamp content] one (by
    simp [Message.user, Message.isSummary]))

theorem working_keeps (stamp : Stamp) (content : String) :
    ∀ message ∈ conversation.history, message.isTool = false →
      ∃ kept ∈ (conversation.working stamp content).messages, Remains message kept :=
  fun message member untool => sanitized_keeps _ message (List.mem_append_left _ member) untool

theorem working_summary (stamp : Stamp) (content : String) :
    ∀ kept ∈ (conversation.working stamp content).messages, kept.isSummary = true →
      ∃ message ∈ conversation.history, Remains message kept := by
  intro kept member summary
  obtain ⟨message, found, remains⟩ := sanitized_source _ kept member
  rw [remains_summary message kept remains] at summary
  rcases List.mem_append.mp found with old | new
  · exact ⟨message, old, remains⟩
  · rw [List.mem_singleton.mp new] at summary
    cases summary

theorem run_preparation (content : String) (state : σ) :
    ∃ stamp warnings compaction,
      (conversation.preparation world content state).trace =
          ⟨.stamp, stamp⟩ :: warnings ++ compaction ∧
        (∀ event ∈ warnings, event.effect.Minor) ∧
        conversation.settings.compactor.Compaction conversation.settings.systemPrompt
          (conversation.working stamp content).messages compaction
          (conversation.preparation world content state).value := by
  rw [Conversation.preparation, World.run_bind, Proc.stamp,
    World.run_heedless world .stamp state rfl (by simp)]
  simp only [Run.andThen]
  generalize (world.respond .stamp state).1 = stamp
  generalize (world.respond .stamp state).2 = after
  rw [Conversation.prepare]
  cases (conversation.working stamp content).changed with
  | false => exact ⟨stamp, [], _, rfl, by simp, run_compact world _ _ _ after⟩
  | true =>
      have warned := World.run_heedless world
        (.log ⟨.warning, "Repaired tool-call pairing in stored history"⟩) after rfl (by simp)
      simp only [if_true, World.run_bind, Proc.warn, warned, Run.andThen]
      refine ⟨stamp, [_], _, rfl, ?_, run_compact world _ _ _ _⟩
      intro event member
      rw [List.mem_singleton.mp member]
      exact minor_warn _

def Recounts (history : List Message) (request : ChatRequest) : Prop :=
  ∃ stamp transcript, request.messages = [.user stamp transcript] ∧
    ∀ old ∈ history, old.isSummary = true → old.isTool = true ∨ Recounted old transcript

def MadeFrom (trace : List Event) (request : ChatRequest) (summary : Message) : Prop :=
  ∃ provider response stamp,
    (⟨.chat provider request, .finished (.ok response)⟩ : Event) ∈ trace ∧
      summary = .summary stamp (Text.trim response.content)

def Made (trace : List Event) (summary : Message) : Prop :=
  ∃ request, MadeFrom trace request summary

def Sourced (history : List Message) (trace : List Event) (summary : Message) : Prop :=
  (∃ old ∈ history, Remains old summary) ∨ Made trace summary

-- What becomes of a summary: it stays, a new one takes its place, or summarization fails and only
-- the recent messages are kept.
def Succeeded (after : List Message) (trace : List Event) (old : Message) : Prop :=
  (∃ kept ∈ after, Remains old kept) ∨ (∃ new ∈ after, Made trace new) ∨
    ⟨.log ⟨.warning, "Summarization failed, keeping only the recent window"⟩, ()⟩ ∈ trace

theorem made_untool (trace : List Event) (summary : Message) (made : Made trace summary) :
    summary.isTool = false := by
  obtain ⟨_, _, _, _, _, rfl⟩ := made
  rfl

theorem made_remains (trace : List Event) (summary kept : Message) (made : Made trace summary)
    (remains : Remains summary kept) : kept = summary := by
  obtain ⟨_, _, _, _, _, rfl⟩ := made
  obtain ⟨calls, fewer, rfl⟩ := remains
  rw [List.sublist_nil.mp fewer]
  rfl

theorem remains_remains (first second third : Message) (early : Remains first second)
    (late : Remains second third) : Remains first third := by
  obtain ⟨calls, fewer, rfl⟩ := early
  obtain ⟨rest, alsoFewer, rfl⟩ := late
  exact ⟨rest, alsoFewer.trans fewer, rfl⟩

theorem compaction_asks (compactor : Compactor) (systemPrompt : String) (messages : List Message)
    (trace : List Event) (value : Except Error (List Message))
    (compaction : compactor.Compaction systemPrompt messages trace value) :
    ∀ event ∈ trace, ∀ provider request, event.effect = .chat provider request →
      ∃ start asked, start ≠ 0 ∧ request = compactor.summaryRequest messages start asked := by
  intro event member provider request asks
  have sent : request ∈ requests trace := by
    obtain ⟨effect, answer⟩ := event
    cases asks
    exact List.mem_filterMap.mpr ⟨_, member, rfl⟩
  obtain ⟨start, asked, cut, same⟩ :=
    compaction_requests compactor systemPrompt messages trace value compaction request sent
  exact ⟨start, asked, (cut_at_window compactor systemPrompt messages start cut).2, same⟩

theorem compaction_sources (compactor : Compactor) (systemPrompt : String)
    (messages : List Message) (trace : List Event) (compacted : List Message)
    (compaction : compactor.Compaction systemPrompt messages trace (.ok compacted)) :
    (∀ new ∈ compacted, new ∈ messages ∨ Made trace new) ∧
      ∀ old ∈ messages, Succeeded compacted trace old := by
  cases compaction with
  | untouched within =>
      exact ⟨fun new member => .inl member, fun old member => .inl ⟨old, member, remains_self old⟩⟩
  | @summarized start asked made response cut told =>
      have new : Made [⟨.stamp, asked⟩,
            compactor.summaryReply messages start asked (.finished (.ok response)), ⟨.stamp, made⟩]
          (.summary made (Text.trim response.content)) :=
        ⟨_, _, response, made, List.mem_cons_of_mem _ List.mem_cons_self, rfl⟩
      refine ⟨?_, fun _ _ => .inr (.inl ⟨_, List.mem_cons_self, new⟩)⟩
      intro message member
      rcases List.mem_cons.mp member with rfl | kept
      · exact .inr new
      · exact .inl (List.mem_of_mem_drop kept)
  | dropped asked reply e cut failed other =>
      exact ⟨fun new member => .inl (List.mem_of_mem_drop member),
        fun _ _ => .inr (.inr (by simp))⟩

theorem made_later (trace more : List Event) (summary : Message) (made : Made trace summary) :
    Made (more ++ trace) summary := by
  obtain ⟨request, provider, response, stamp, answered, same⟩ := made
  exact ⟨request, provider, response, stamp, List.mem_append_right _ answered, same⟩

theorem succeeded_later (after : List Message) (trace more : List Event) (old kept : Message)
    (remains : Remains old kept) (succeeded : Succeeded after trace kept) :
    Succeeded after (more ++ trace) old := by
  rcases succeeded with ⟨same, member, still⟩ | ⟨new, member, made⟩ | failed
  · exact .inl ⟨same, member, remains_remains old kept same remains still⟩
  · exact .inr (.inl ⟨new, member, made_later trace more new made⟩)
  · exact .inr (.inr (List.mem_append_right _ failed))

theorem succeeded_answered (compacted added : List Message) (trace : List Event) (old : Message)
    (untool : old.isTool = false) (succeeded : Succeeded compacted trace old) :
    Succeeded ((sanitize compacted).messages ++ added) trace old := by
  rcases succeeded with ⟨kept, member, remains⟩ | ⟨new, member, made⟩ | failed
  · obtain ⟨calls, fewer, rfl⟩ := remains
    obtain ⟨same, there, still⟩ := sanitized_keeps compacted _ member untool
    exact .inl ⟨same, List.mem_append_left _ there,
      remains_remains old _ same ⟨calls, fewer, rfl⟩ still⟩
  · obtain ⟨same, there, still⟩ := sanitized_keeps compacted new member (made_untool trace new made)
    rw [made_remains trace new same made still] at there
    exact .inr (.inl ⟨new, List.mem_append_left _ there, made⟩)
  · exact .inr (.inr failed)

structure Inherits (history : List Message) (trace : List Event) (after : List Message) : Prop where
  one : OneSummary after
  sources : ∀ new ∈ after, new.isSummary = true → Sourced history trace new
  succeeded : ∀ old ∈ history, old.isTool = false → Succeeded after trace old

theorem inherits_unchanged (history : List Message) (trace : List Event) (one : OneSummary history) :
    Inherits history trace history :=
  ⟨one, fun new member _ => .inl ⟨new, member, remains_self new⟩,
    fun old member _ => .inl ⟨old, member, remains_self old⟩⟩

theorem sourced_later (history : List Message) (trace : List Event) (summary kept : Message)
    (sourced : Sourced history trace summary) (remains : Remains summary kept) :
    Sourced history trace kept := by
  rcases sourced with ⟨old, found, same⟩ | made
  · exact .inl ⟨old, found, remains_remains old summary kept same remains⟩
  · rw [made_remains trace summary kept made remains]
    exact .inr made

theorem inherits_answered (history : List Message) (trace : List Event)
    (compacted after : List Message) (inherits : Inherits history trace compacted)
    (adds : AddsPlain (sanitize compacted).messages after) : Inherits history trace after := by
  have one := adds_one_summary _ _ (sanitize_one_summary compacted inherits.one) adds
  obtain ⟨added, rfl, plain⟩ := adds
  refine ⟨one, ?_, fun old member untool =>
    succeeded_answered compacted added trace old untool (inherits.succeeded old member untool)⟩
  intro new member summary
  rcases List.mem_append.mp member with early | late
  · obtain ⟨message, found, remains⟩ := sanitized_source compacted new early
    rw [remains_summary message new remains] at summary
    exact sourced_later _ _ message new (inherits.sources message found summary) remains
  · rw [plain new late] at summary
    cases summary

structure Prepared (history : List Message) (run : Run σ (Except Error (List Message))) : Prop where
  asked : ∀ event ∈ run.trace, ∀ provider request, event.effect = .chat provider request →
    Recounts history request
  inherits : ∀ compacted, run.value = .ok compacted → Inherits history run.trace compacted

-- The summary that a working copy has is cut off with the older messages, and so is sent.
theorem working_recounts (stamp : Stamp) (content : String) (start : Nat) (asked : Stamp)
    (one : OneSummary conversation.history) (cut : start ≠ 0) :
    Recounts conversation.history (conversation.settings.compactor.summaryRequest
      (conversation.working stamp content).messages start asked) := by
  refine ⟨asked, _, rfl, ?_⟩
  intro old found summary
  cases tool : old.isTool with
  | true => exact .inl rfl
  | false =>
      obtain ⟨kept, there, remains⟩ := working_keeps conversation stamp content old found tool
      have early := (summary_before_cut _ (working_one_summary conversation stamp content one) start
        cut).2 kept there (by rw [remains_summary old kept remains, summary])
      exact .inr (recounted_of_mem old kept _ remains early)

theorem preparation_prepared (content : String) (state : σ) (one : OneSummary conversation.history) :
    Prepared conversation.history (conversation.preparation world content state) := by
  obtain ⟨stamp, warnings, compaction, trace, warns, compacts⟩ :=
    run_preparation conversation world content state
  generalize conversation.preparation world content state = run at *
  obtain ⟨_, value, after⟩ := run
  dsimp only at trace compacts
  subst trace
  constructor
  · intro event member provider request asks
    have late : event ∈ compaction := by
      rcases List.mem_append.mp member with early | late
      · rcases List.mem_cons.mp early with rfl | warning
        · cases asks
        · have minor := (warns event warning).1
          rw [asks] at minor
          cases minor
      · exact late
    obtain ⟨start, asked, cut, rfl⟩ :=
      compaction_asks _ _ _ _ _ compacts event late provider request asks
    exact working_recounts conversation stamp content start asked one cut
  · rintro compacted rfl
    obtain ⟨sources, succeeded⟩ := compaction_sources _ _ _ _ compacted compacts
    constructor
    · exact compacted_one_summary _ _ _ _ compacted
        (working_one_summary conversation stamp content one) compacts
    · intro new member summary
      rcases sources new member with old | made
      · exact .inl (working_summary conversation stamp content new old summary)
      · exact .inr (made_later compaction _ new made)
    · intro old found untool
      obtain ⟨kept, there, remains⟩ := working_keeps conversation stamp content old found untool
      exact succeeded_later compacted compaction _ old kept remains (succeeded kept there)

theorem recounts_one_summary (history : List Message) (request : ChatRequest)
    (recounts : Recounts history request) : OneSummary request.messages := by
  obtain ⟨stamp, transcript, alone, _⟩ := recounts
  rw [alone, one_summary_iff]
  simp

theorem answer_one_summary (prepared : List Message) (one : OneSummary prepared) :
    (conversation.answer prepared).Ensures SendsOneSummary fun handled =>
      handled.conversation = conversation ∨ AddsPlain prepared handled.conversation.history := by
  apply Proc.ensures_bind _ _ (loop_one_summary _ _ prepared one)
  rintro ⟨history, usage, outcome⟩ adds
  cases outcome with
  | error e => exact .inl rfl
  | ok response =>
      apply Proc.ensures_bind _ _
        (Proc.ensures_mono _ (persist_heedless _) heedless_one_summary fun _ _ => trivial)
      intro _ _
      cases response.content.isEmpty with
      | true => exact .inr adds
      | false =>
          apply Proc.ensures_mono _ (reply_heedless _ response.content) heedless_one_summary
          intro handled kept
          exact .inr (kept ▸ adds)

theorem turn_one_summary (content : String) (state : σ) (one : OneSummary conversation.history) :
    (∀ event ∈ (world.run (conversation.turn content) state).trace, event.effect.SendsOneSummary) ∧
      Inherits conversation.history (conversation.preparation world content state).trace
        (world.run (conversation.turn content) state).value.conversation.history := by
  obtain ⟨asked, inherits⟩ := preparation_prepared conversation world content state one
  rw [Conversation.run_turn]
  generalize conversation.preparation world content state = preparation at *
  obtain ⟨trace, prepared, after⟩ := preparation
  dsimp only at asked inherits
  have early : ∀ event ∈ trace, event.effect.SendsOneSummary := by
    intro event member
    cases asks : event.effect with
    | chat provider request =>
        exact recounts_one_summary _ request (asked event member provider request asks)
    | _ => trivial
  cases prepared with
  | error e =>
      refine ⟨?_, inherits_unchanged _ trace one⟩
      simpa [Run.andThen, Conversation.proceed, World.run_pure] using early
  | ok compacted =>
      have compacts := inherits compacted rfl
      obtain ⟨late, left⟩ := Proc.ensures_run world _ after
        (answer_one_summary conversation (sanitize compacted).messages
          (sanitize_one_summary compacted compacts.one))
      simp only [Run.andThen, Conversation.proceed]
      refine ⟨List.forall_mem_append.mpr ⟨early, late⟩, ?_⟩
      rcases left with same | adds
      · rw [same]
        exact inherits_unchanged _ trace one
      · exact inherits_answered _ trace compacted _ compacts adds

theorem handle_sends_one (content : String) (state : σ) (one : OneSummary conversation.history) :
    ∀ event ∈ (world.run (conversation.handle content) state).trace,
      event.effect.SendsOneSummary := by
  rw [Conversation.handle]
  cases conversation.isReset content with
  | false => exact (turn_one_summary conversation world content state one).1
  | true =>
      have silent := (Proc.ensures_run world _ state (reset_heedless conversation)).events
      exact fun event member => heedless_one_summary _ (silent event member)

def Exchanged.preparation (done : Exchanged σ) : Run σ (Except Error (List Message)) :=
  done.conversation.preparation done.exchange.world done.exchange.content done.state

-- A message came when there was one summary at most, and it was the first; so it is afterwards and
-- in all that was sent. All that a turn asks of a model before its loop is a summary.
structure Exchanged.SummaryFirst (done : Exchanged σ) : Prop where
  before : OneSummary done.conversation.history
  after : OneSummary done.next.history
  sent : ∀ event ∈ done.run.trace, event.effect.SendsOneSummary
  asked : done.conversation.isReset done.exchange.content = false →
    ∀ event ∈ done.preparation.trace, ∀ provider request, event.effect = .chat provider request →
      Recounts done.conversation.history request
  inherits : done.conversation.isReset done.exchange.content = false →
    Inherits done.conversation.history done.preparation.trace done.next.history
  cleared : done.conversation.isReset done.exchange.content = true → done.next.history = []

theorem exchanged_summary_first (done : Exchanged σ) (one : OneSummary done.conversation.history) :
    done.SummaryFirst := by
  have prepared := preparation_prepared done.conversation done.exchange.world
    done.exchange.content done.state one
  have sent := handle_sends_one done.conversation done.exchange.world done.exchange.content
    done.state one
  rw [← Exchanged.run] at sent
  rw [← Exchanged.preparation] at prepared
  cases reset : done.conversation.isReset done.exchange.content with
  | false =>
      have inherits : Inherits done.conversation.history done.preparation.trace
          done.next.history := by
        rw [Exchanged.next, Exchanged.run, Conversation.handle, if_neg (by simp [reset])]
        exact (turn_one_summary done.conversation done.exchange.world done.exchange.content
          done.state one).2
      exact ⟨one, inherits.one, sent, fun _ => prepared.asked, fun _ => inherits, by simp [reset]⟩
  | true =>
      have cleared : done.next.history = [] := by
        rw [Exchanged.next, Exchanged.run, Conversation.handle, if_pos reset,
          (Proc.ensures_run done.exchange.world _ done.state
            (reset_heedless done.conversation)).value]
      refine ⟨one, ?_, sent, by simp [reset], by simp [reset], fun _ => cleared⟩
      rw [cleared, one_summary_iff]
      simp

def NoToolSummary (messages : List Message) : Prop :=
  ∀ message ∈ messages, message.isSummary = true → message.isTool = false

theorem summary_first_no_tool (done : Exchanged σ) (first : done.SummaryFirst)
    (none : NoToolSummary done.conversation.history) : NoToolSummary done.next.history := by
  intro new member summary
  cases reset : done.conversation.isReset done.exchange.content with
  | true =>
      rw [first.cleared reset] at member
      cases member
  | false =>
      rcases (first.inherits reset).sources new member summary with ⟨old, found, remains⟩ | made
      · obtain ⟨calls, fewer, rfl⟩ := remains
        exact none old found summary
      · exact made_untool _ new made

theorem summaries_come_first (exchanges : List (Exchange σ)) (state : σ)
    (one : OneSummary conversation.history) :
    ∀ done ∈ conversation.converse exchanges state, done.SummaryFirst ∧
      (NoToolSummary conversation.history → NoToolSummary done.conversation.history) := by
  intro done member
  obtain ⟨_, still, plain⟩ := (converse_keeps
    (fun later _ => OneSummary later.history ∧
      (NoToolSummary conversation.history → NoToolSummary later.history)) exchanges
    (fun _ _ _ _ kept => kept)
    (fun done _ ⟨one, plain⟩ =>
      have first := exchanged_summary_first done one
      ⟨first.after, fun none => summary_first_no_tool done first (plain none)⟩)
    conversation state ⟨one, id⟩).1 done member
  exact ⟨exchanged_summary_first done still, plain⟩

def forgetful : Conversation :=
  { settings := { reader.settings with
      compactor := { provider := ⟨"model"⟩, maxContextTokens := 1, recentMessageCount := 1 } } }

def threeMessages : List (Exchange Script) :=
  [⟨"one", scripted, id⟩, ⟨"two", scripted, id⟩, ⟨"three", scripted, id⟩]

def twoSummaries : Script where
  replies := [.ok (.ofText "1"), .ok (.ofText "so far"), .ok (.ofText "2"), .ok (.ofText "again"),
    .ok (.ofText "3")]

theorem second_summary_recounts :
    OneSummary forgetful.history ∧
      ((forgetful.converse threeMessages twoSummaries).map fun done =>
          done.next.history.map fun message => (message.isSummary, message.content)) =
        [[(false, "one"), (false, "1")], [(true, "so far"), (false, "two"), (false, "2")],
          [(true, "again"), (false, "three"), (false, "3")]] ∧
      ∀ done ∈ forgetful.converse threeMessages twoSummaries, done.SummaryFirst ∧
        NoToolSummary done.conversation.history := by
  have empty : OneSummary forgetful.history := ⟨by decide, by decide⟩
  refine ⟨empty, rfl, ?_⟩
  intro done member
  obtain ⟨first, plain⟩ :=
    summaries_come_first forgetful threeMessages twoSummaries empty done member
  exact ⟨first, plain (by simp [NoToolSummary, forgetful])⟩

theorem not_recounted (message : Message) (transcript : String) (char : Char)
    (told : char ∈ message.content.toList) (untold : char ∉ transcript.toList) :
    ¬ Recounted message transcript := by
  rintro ⟨kept, before, after, ⟨calls, _, rfl⟩, rfl⟩
  apply untold
  have written : char ∈ (Message.transcript { message with toolCalls := calls }).toList := by
    rw [Message.transcript]
    cases empty : message.content.isEmpty with
    | true =>
        rw [String.isEmpty_iff] at empty
        rw [empty] at told
        cases told
    | false => simp [told]
  simp [written]

def Exchanged.MakesWithout (done : Exchanged σ) (old : Message) : Prop :=
  ∃ new ∈ done.next.history, ∃ request, MadeFrom done.preparation.trace request new ∧
    ∀ message ∈ request.messages, ¬ Recounted old message.content

def misfiled : Message :=
  { Message.toolResult ⟨"m0", .epoch⟩ "call" "The key is under the mat." with kind := .summary }

def misled : Conversation :=
  { forgetful with history := [misfiled, .user ⟨"m1", .epoch⟩ "one", .assistant ⟨"m2", .epoch⟩ "1"] }

def threeMore : List (Exchange Script) :=
  [⟨"two", scripted, id⟩, ⟨"three", scripted, id⟩, ⟨"four", scripted, id⟩]

def lostSummary : Script where
  replies := [.ok (.ofText "so far"), .ok (.ofText "2"), .error (.network "down"), .ok (.ofText "3"),
    .ok (.ofText "again"), .ok (.ofText "4")]

-- Repair drops the first summary as an orphan before the next one is made. That one is dropped when
-- summarization fails, and so the last one is made without it.
theorem summaries_made_afresh :
    OneSummary misled.history ∧
      ∃ first second third, misled.converse threeMore lostSummary = [first, second, third] ∧
        (∃ old ∈ first.conversation.history, old.isSummary = true ∧ first.MakesWithout old) ∧
        ∃ old ∈ first.next.history, old.isSummary = true ∧ third.MakesWithout old := by
  refine ⟨⟨by decide, by decide⟩, _, _, _, rfl, ⟨misfiled, List.mem_cons_self, rfl, ?_⟩,
    _, List.mem_cons_self, rfl, ?_⟩
  · refine ⟨_, List.mem_cons_self, _, ⟨_, _, _, List.mem_cons_of_mem _ (List.mem_cons_of_mem _
      (List.mem_cons_of_mem _ List.mem_cons_self)), rfl⟩, ?_⟩
    refine List.forall_mem_singleton.mpr (not_recounted _ _ 'k' ?_ ?_) <;> decide
  · refine ⟨_, List.mem_cons_self, _, ⟨_, _, _, List.mem_cons_of_mem _ (List.mem_cons_of_mem _
      List.mem_cons_self), rfl⟩, ?_⟩
    refine List.forall_mem_singleton.mpr (not_recounted _ _ 'f' ?_ ?_) <;> decide

end Dialogue
