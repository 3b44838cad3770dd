import Dialogue.Proofs.Session.Requests

set_option autoImplicit false

namespace Dialogue

variable {σ : Type}

def Effect.Quiet : Effect → Prop
  | .save _ _ | .write _ | .remember _ | .archive _ => False
  | .log entry => entry.level = .warning
  | _ => True

open Effect

theorem of_calls_quiet (effect : Effect) (may : effect.OfCalls) : effect.Quiet := by
  cases may <;> trivial

theorem of_compaction_quiet (effect : Effect) (may : effect.OfCompaction) : effect.Quiet := by
  cases may <;> trivial

theorem assigned_calls_quiet (calls : List ToolCall) :
    (LoopSetup.assignedCalls calls).Ensures Quiet fun _ => True := by
  apply Proc.ensures_after _ _ trivial
  intro supply
  apply Proc.ensures_bind _ _ (Proc.ensures_mono _
    (minor_of_calls _ (report_replaced_ensures (assignCallIds supply calls)))
    of_calls_quiet fun _ _ => trivial)
  exact fun _ _ => trivial

def LoopResult.EndsWithAnswer (result : LoopResult) : Prop :=
  ∀ response, result.outcome = .ok response → response.content.isEmpty = false →
    ∃ earlier stamp, result.history = earlier ++ [.assistant stamp response.content]

theorem error_ends_with_answer (history : List Message) (usage : Option TokenUsage) (e : Error) :
    LoopResult.EndsWithAnswer ⟨history, usage, .error e⟩ := by
  intro response answered
  cases answered

theorem append_answer_quiet (response : ChatResponse) (history : List Message)
    (usage : Option TokenUsage) :
    (do
      return ⟨← LoopSetup.appendAnswer response history, usage, .ok response⟩ :
        Proc LoopResult).Ensures Quiet LoopResult.EndsWithAnswer := by
  apply Proc.ensures_bind _ _ (Proc.ensures_mono _
    (minor_of_calls _ (append_answer_ensures response history))
    of_calls_quiet fun _ appended => appended)
  rintro _ ⟨stamp, rfl⟩ other answered kept
  cases answered
  exact ⟨history, stamp, by simp [answerMessages, kept]⟩

theorem rounds_quiet (setup : LoopSetup) (left : Nat) (history : List Message)
    (usage : Option TokenUsage) :
    (setup.runRounds left history usage).Ensures Quiet LoopResult.EndsWithAnswer := by
  induction left generalizing history usage with
  | zero => exact Proc.ensures_after _ _ rfl fun _ => error_ends_with_answer _ _ _
  | succ left ih =>
      rw [run_rounds_succ]
      apply Proc.ensures_after _ _ trivial
      intro reply
      match reply with
      | .interrupted => exact error_ends_with_answer _ _ _
      | .finished (.error e) => exact error_ends_with_answer _ _ _
      | .finished (.ok response) =>
          dsimp only
          cases response.toolCalls.isEmpty with
          | true => exact append_answer_quiet response history _
          | false =>
              apply Proc.ensures_bind _ _ (assigned_calls_quiet response.toolCalls)
              intro calls _
              apply Proc.ensures_after _ _ trivial
              intro stamp
              apply Proc.ensures_bind _ _ (Proc.ensures_mono _
                (answer_calls_ensures setup calls _) of_calls_quiet fun _ _ => trivial)
              intro after _
              match after with
              | (_, some _) => exact error_ends_with_answer _ _ _
              | (history, none) => exact ih history _

theorem with_total_ends_with_answer (result : LoopResult) (ends : result.EndsWithAnswer) :
    (ConversationLoop.withTotal result).EndsWithAnswer := by
  intro response answered
  obtain ⟨history, usage, outcome⟩ := result
  cases outcome with
  | error e => cases answered
  | ok original =>
      cases answered
      exact ends original rfl

theorem loop_quiet (loop : ConversationLoop) (systemPrompt : String) (history : List Message) :
    (loop.run systemPrompt history).Ensures Quiet LoopResult.EndsWithAnswer := by
  rw [ConversationLoop.run]
  cases loop.setup systemPrompt with
  | error e => exact error_ends_with_answer _ _ _
  | ok setup =>
      apply Proc.ensures_bind _ _ (rounds_quiet setup _ history none)
      intro result ends
      have total := with_total_ends_with_answer result ends
      cases loop.reportsUsage with
      | true => exact Proc.ensures_after _ _ trivial fun _ => total
      | false => exact total

def saves : List Event → List (List Message)
  | [] => []
  | ⟨.save _ messages, _⟩ :: rest => messages :: saves rest
  | _ :: rest => saves rest

-- What happens between the adoption of a history and the reply: it is saved where histories are
-- kept, and a cleared one may be archived.
structure Adopted (conversation : Conversation) (trace : List Event) : Prop where
  saved : saves trace = if conversation.settings.stored then [conversation.history] else []
  unwritten : ∀ event ∈ trace, ∀ text, event.effect ≠ .write text
  warned : ∀ event ∈ trace, ∀ entry, event.effect = .log entry → entry.level = .warning

abbrev Tells := String → List Message → Prop

inductive Conversation.Ends (conversation : Conversation) (tells : Tells) :
    List Event → Handled → Prop where
  | failed {trace : List Event} (e : Error) (quiet : ∀ event ∈ trace, event.effect.Quiet) :
      Ends conversation tells trace ⟨conversation, .error e⟩
  | silent {early late : List Event} (adopted : List Message)
      (quiet : ∀ event ∈ early, event.effect.Quiet)
      (adoption : Adopted { conversation with history := adopted } late) :
      Ends conversation tells (early ++ late) ⟨{ conversation with history := adopted }, .ok ()⟩
  | replied {early late : List Event} (adopted : List Message) (text : String)
      (quiet : ∀ event ∈ early, event.effect.Quiet)
      (adoption : Adopted { conversation with history := adopted } late)
      (told : tells text adopted) :
      Ends conversation tells (early ++ late ++ [⟨.write text, .ok ()⟩])
        ⟨{ conversation with history := adopted }, .ok ()⟩
  | undelivered {early late : List Event} (adopted : List Message) (text : String)
      (e : ChannelError) (quiet : ∀ event ∈ early, event.effect.Quiet)
      (adoption : Adopted { conversation with history := adopted } late)
      (told : tells text adopted) :
      Ends conversation tells (early ++ late ++ [⟨.write text, .error e⟩])
        ⟨{ conversation with history := adopted }, .error (.channel e)⟩

def Acknowledges : Tells := fun text adopted => text = resetAcknowledgement ∧ adopted = []

def Repeats : Tells := fun text adopted =>
  ∃ earlier stamp, adopted = earlier ++ [.assistant stamp text]

def Conversation.tells (conversation : Conversation) (content : String) : Tells :=
  if conversation.isReset content then Acknowledges else Repeats

theorem saves_append (first second : List Event) :
    saves (first ++ second) = saves first ++ saves second := by
  induction first with
  | nil => rfl
  | cons event rest ih =>
      obtain ⟨effect, answer⟩ := event
      cases effect <;> simp [saves, ih]

variable (conversation : Conversation) {tells : Tells}

theorem run_persist (world : World σ) (state : σ) :
    Adopted conversation (world.run conversation.persist state).trace := by
  rw [Conversation.persist]
  cases stored : conversation.settings.stored with
  | false => exact ⟨by simp [World.run_pure, saves, stored], by simp [World.run_pure],
      by simp [World.run_pure]⟩
  | true =>
      have saved := World.run_heedless world
        (.save conversation.settings.sessionId conversation.history) state rfl (by simp)
      simp only [if_true, World.run_bind, Proc.save, saved, Run.andThen]
      cases (world.respond
        (.save conversation.settings.sessionId conversation.history) state).1 with
      | ok _ =>
          refine ⟨by simp [World.run_pure, saves, stored], ?_, ?_⟩ <;> simp [World.run_pure]
      | error e =>
          have warned := World.run_heedless world
            (.log ⟨.warning, "Failed to save session history"⟩)
            (world.respond (.save conversation.settings.sessionId conversation.history) state).2
            rfl (by simp)
          simp only [Proc.warn, warned]
          refine ⟨by simp [saves, stored], ?_, ?_⟩ <;> simp

theorem run_reply (world : World σ) (text : String) (state : σ) :
    ∃ written, (world.run (conversation.reply text) state).trace = [⟨.write text, written⟩] ∧
      (world.run (conversation.reply text) state).value =
        ⟨conversation, written.mapError Error.channel⟩ := by
  have written := World.run_heedless world (.write text) state rfl (by simp)
  rw [Conversation.reply, World.run_bind, Proc.write, written]
  simp only [Run.andThen]
  cases (world.respond (.write text) state).1 with
  | ok _ => exact ⟨.ok (), rfl, rfl⟩
  | error e => exact ⟨.error e, rfl, rfl⟩

theorem ends_after_quiet (before trace : List Event) (handled : Handled)
    (quiet : ∀ event ∈ before, event.effect.Quiet) (ends : conversation.Ends tells trace handled) :
    conversation.Ends tells (before ++ trace) handled := by
  have longer : ∀ early : List Event, (∀ event ∈ early, event.effect.Quiet) →
      ∀ event ∈ before ++ early, event.effect.Quiet := by
    intro early also event member
    rcases List.mem_append.mp member with first | second
    · exact quiet event first
    · exact also event second
  cases ends with
  | failed e also => exact .failed e (longer _ also)
  | silent adopted also adoption =>
      rw [← List.append_assoc]
      exact .silent adopted (longer _ also) adoption
  | replied adopted text also adoption told =>
      rw [← List.append_assoc, ← List.append_assoc]
      exact .replied adopted text (longer _ also) adoption told
  | undelivered adopted text e also adoption told =>
      rw [← List.append_assoc, ← List.append_assoc]
      exact .undelivered adopted text e (longer _ also) adoption told

theorem quiet_nothing : ∀ event ∈ ([] : List Event), event.effect.Quiet := by simp

theorem reply_ends (world : World σ) (adopted : List Message) (late : List Event) (text : String)
    (state : σ) (adoption : Adopted { conversation with history := adopted } late)
    (told : tells text adopted) :
    conversation.Ends tells
      (late ++ (world.run ({ conversation with history := adopted }.reply text) state).trace)
      (world.run ({ conversation with history := adopted }.reply text) state).value := by
  obtain ⟨written, trace, value⟩ := run_reply { conversation with history := adopted } world text
    state
  rw [trace, value]
  cases written with
  | ok _ => exact .replied adopted text quiet_nothing adoption told
  | error e => exact .undelivered adopted text e quiet_nothing adoption told

theorem reset_ends (world : World σ) (state : σ) :
    conversation.Ends Acknowledges (world.run conversation.reset state).trace
      (world.run conversation.reset state).value := by
  have persisted := run_persist { conversation with history := [] } world state
  rw [Conversation.reset, World.run_bind]
  simp only [Run.andThen]
  generalize (world.run { conversation with history := [] }.persist state).trace = late at *
  generalize (world.run { conversation with history := [] }.persist state).state = after
  cases conversation.archives conversation.history with
  | false => exact reply_ends conversation world [] late _ after persisted ⟨rfl, rfl⟩
  | true =>
      have archived := World.run_heedless world
        (.archive (conversation.archiveJob conversation.history)) after rfl (by simp)
      simp only [if_true, World.run_bind, Proc.archive, archived, Run.andThen, ← List.append_assoc]
      refine reply_ends conversation world [] _ resetAcknowledgement _ ?_ ⟨rfl, rfl⟩
      obtain ⟨saved, unwritten, warned⟩ := persisted
      refine ⟨?_, ?_, ?_⟩
      · rw [saves_append, saved]
        simp [saves]
      · intro event member text
        rcases List.mem_append.mp member with first | second
        · exact unwritten event first text
        · simp [List.mem_singleton.mp second]
      · intro event member entry
        rcases List.mem_append.mp member with first | second
        · exact warned event first entry
        · simp [List.mem_singleton.mp second]

theorem answer_ends (world : World σ) (prepared : List Message) (state : σ) :
    conversation.Ends Repeats (world.run (conversation.answer prepared) state).trace
      (world.run (conversation.answer prepared) state).value := by
  obtain ⟨quiet, ends⟩ := Proc.ensures_run world _ state (loop_quiet conversation.settings.agent
    conversation.settings.systemPrompt prepared)
  rw [Conversation.answer, World.run_bind]
  simp only [Run.andThen]
  generalize world.run (conversation.settings.agent.run _ prepared) state = loop at *
  obtain ⟨trace, ⟨history, usage, outcome⟩, after⟩ := loop
  apply ends_after_quiet conversation trace _ _ quiet
  cases outcome with
  | error e => exact .failed e (by simp [World.run_pure])
  | ok response =>
      have persisted := run_persist { conversation with history } world after
      simp only [World.run_bind, Run.andThen]
      cases empty : response.content.isEmpty with
      | true =>
          rw [if_pos rfl, World.run_pure, List.append_nil]
          exact .silent history quiet_nothing persisted
      | false =>
          exact reply_ends conversation world history _ response.content _ persisted
            (ends response rfl empty)

theorem turn_ends (world : World σ) (content : String) (state : σ) :
    conversation.Ends Repeats (world.run (conversation.turn content) state).trace
      (world.run (conversation.turn content) state).value := by
  rw [turn_prepared, Proc.stamp, World.run_bind,
    World.run_heedless world .stamp state rfl (by simp)]
  simp only [Run.andThen]
  generalize (world.respond .stamp state).1 = stamp
  generalize (world.respond .stamp state).2 = after
  apply ends_after_quiet conversation _ _ _ (by simp [Quiet])
  have quiet := (Proc.ensures_run world _ after (Proc.ensures_mono _
    (prepare_ensures conversation content stamp) of_compaction_quiet fun _ _ => trivial)).events
  rw [World.run_bind]
  simp only [Run.andThen]
  apply ends_after_quiet conversation _ _ _ quiet
  generalize (world.run (conversation.prepare content stamp) after).state = prepared
  cases (world.run (conversation.prepare content stamp) after).value with
  | error e => exact .failed e (by simp [Conversation.proceed, World.run_pure])
  | ok compacted => exact answer_ends conversation world _ _

theorem handle_ends (world : World σ) (content : String) (state : σ) :
    conversation.Ends (conversation.tells content)
      (world.run (conversation.handle content) state).trace
      (world.run (conversation.handle content) state).value := by
  rw [Conversation.handle, Conversation.tells]
  cases conversation.isReset content with
  | true => exact reset_ends conversation world state
  | false => exact turn_ends conversation world content state

end Dialogue
