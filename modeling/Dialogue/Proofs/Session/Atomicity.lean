import Dialogue.Proofs.Agent.Course
import Dialogue.Proofs.Dispatch.Failures

set_option autoImplicit false

namespace Dialogue

open Dispatch (OnlySaved unsaved_entry)

variable {σ : Type}

def Effect.isOutward : Effect → Bool
  | .save _ _ | .write _ | .remember _ | .archive _ => true
  | _ => false

def outward (trace : List Event) : List Effect := (trace.map (·.effect)).filter Effect.isOutward

theorem outward_append (first second : List Event) :
    outward (first ++ second) = outward first ++ outward second := by
  simp [outward]

theorem quiet_inward (trace : List Event) (quiet : ∀ event ∈ trace, event.effect.Quiet) :
    outward trace = [] := by
  rw [outward, List.filter_eq_nil_iff]
  intro effect member
  obtain ⟨event, found, rfl⟩ := List.mem_map.mp member
  have unnoticed := quiet event found
  cases same : event.effect <;> simp_all [Effect.Quiet, Effect.isOutward]

theorem inward_unsaved (trace : List Event) (inward : outward trace = []) (session : String) :
    ∀ event ∈ trace, ∀ messages, event.effect ≠ .save session messages := by
  intro event member messages saved
  rw [outward, List.filter_eq_nil_iff] at inward
  exact inward event.effect (List.mem_map_of_mem member) (by rw [saved]; rfl)

namespace Conversation

variable (conversation : Conversation) (world : World σ)

def preparation (content : String) (state : σ) : Run σ (Except Error (List Message)) :=
  world.run (do conversation.prepare content (← Proc.stamp)) state

structure Looped (σ : Type) where
  prepared : List Message
  run : Run σ LoopResult

def looped (prepared : List Message) (state : σ) : Looped σ where
  prepared := prepared
  run := world.run (conversation.settings.agent.run conversation.settings.systemPrompt prepared) state

def looped? (content : String) (state : σ) : Option (Looped σ) :=
  let preparation := conversation.preparation world content state
  match preparation.value with
  | .error _ => none
  | .ok compacted => some (conversation.looped world (sanitize compacted).messages preparation.state)

def Looped.Obtains (looped : Looped σ) (response : ChatResponse) : Prop :=
  response ∈ responses looped.run.trace ∧ response.toolCalls = []

structure RolledBack (entry : σ → List Message) (state : σ) (run : Run σ Handled) : Prop where
  failed : ∃ e, run.value.outcome = .error e
  conversation : run.value.conversation = conversation
  entry : entry run.state = entry state
  nothing : outward run.trace = []

-- What is left of a turn that got an answer. All that the loop appended is kept, and the history is
-- saved before the reply is written.
structure Adopts (looped : Looped σ) (response : ChatResponse) (run : Run σ Handled) : Prop where
  history : ∃ appended, Rounds (responses looped.run.trace) appended ∧
    looped.run.value.history = looped.prepared ++ appended ∧
    run.value.conversation = { conversation with history := looped.prepared ++ appended }
  outward : outward run.trace =
    (if conversation.settings.stored then
      [.save conversation.settings.sessionId run.value.conversation.history] else []) ++
    (if response.content.isEmpty then [] else [.write response.content])

theorem turn_proceeds (content : String) :
    conversation.turn content =
      (do conversation.prepare content (← Proc.stamp)) >>= conversation.proceed := by
  rw [turn_prepared, bind_assoc]

theorem run_turn (content : String) (state : σ) :
    world.run (conversation.turn content) state =
      (conversation.preparation world content state).andThen fun prepared =>
        world.run (conversation.proceed prepared) := by
  rw [turn_proceeds, World.run_bind]
  rfl

theorem preparation_inward (content : String) (state : σ) :
    Dialogue.outward (conversation.preparation world content state).trace = [] := by
  apply quiet_inward
  have quiet : (do conversation.prepare content (← Proc.stamp) :
      Proc (Except Error (List Message))).Ensures Effect.Quiet fun _ => True := by
    apply Proc.ensures_after _ _ trivial
    intro stamp
    exact Proc.ensures_mono _ (prepare_ensures conversation content stamp) of_compaction_quiet
      fun _ _ => trivial
  exact (Proc.ensures_run world _ state quiet).events

theorem persist_outward (state : σ) :
    Dialogue.outward (world.run conversation.persist state).trace =
      if conversation.settings.stored then
        [.save conversation.settings.sessionId conversation.history] else [] := by
  rw [Conversation.persist]
  cases stored : conversation.settings.stored with
  | false => rfl
  | true =>
      have saved := World.run_heedless world
        (.save conversation.settings.sessionId conversation.history) state rfl (by simp)
      simp only [if_true, World.run_bind, Proc.save, saved, Run.andThen]
      cases (world.respond
        (.save conversation.settings.sessionId conversation.history) state).1 <;> rfl

-- The reply is the last thing that happens, and not every answer has one.
theorem reply_outward (adopted : Conversation) (text : String) (state : σ) :
    Dialogue.outward (world.run (if text.isEmpty then return ⟨adopted, .ok ()⟩
        else adopted.reply text : Proc Handled) state).trace =
      (if text.isEmpty then [] else [.write text]) ∧
    (world.run (if text.isEmpty then return ⟨adopted, .ok ()⟩
        else adopted.reply text : Proc Handled) state).value.conversation = adopted := by
  cases text.isEmpty with
  | true => exact ⟨rfl, rfl⟩
  | false =>
      obtain ⟨written, trace, value⟩ := run_reply adopted world text state
      simp only [Bool.false_eq_true, if_false, trace, value]
      exact ⟨rfl, trivial⟩

theorem loop_inward (prepared : List Message) (state : σ) :
    Dialogue.outward (conversation.looped world prepared state).run.trace = [] :=
  quiet_inward _ (Proc.ensures_run world _ state (loop_quiet conversation.settings.agent
    conversation.settings.systemPrompt prepared)).events

theorem answer_trace (prepared : List Message) (state : σ) :
    ∃ late, (world.run (conversation.answer prepared) state).trace =
      (conversation.looped world prepared state).run.trace ++ late := by
  rw [Conversation.answer, World.run_bind]
  exact ⟨_, rfl⟩

variable {conversation world}

theorem answer_adopts (prepared : List Message) (state : σ) (response : ChatResponse)
    (obtained : (conversation.looped world prepared state).Obtains response) :
    conversation.Adopts (conversation.looped world prepared state) response
      (world.run (conversation.answer prepared) state) := by
  obtain ⟨member, final⟩ := obtained
  have inward := loop_inward conversation world prepared state
  obtain ⟨outcome, appended, kept, rounds⟩ := loop_answered world conversation.settings.agent
    conversation.settings.systemPrompt prepared state response member final
  rw [Conversation.answer, World.run_bind]
  dsimp only [looped] at inward rounds ⊢
  generalize world.run (conversation.settings.agent.run _ prepared) state = loop at *
  obtain ⟨trace, ⟨history, usage, ended⟩, after⟩ := loop
  dsimp only at inward outcome kept rounds ⊢
  subst ended kept
  have saved := persist_outward { conversation with history := prepared ++ appended } world after
  simp only [Run.andThen, World.run_bind]
  obtain ⟨written, adopted⟩ := reply_outward world
    { conversation with history := prepared ++ appended } response.content
    (world.run ({ conversation with history := prepared ++ appended }.persist) after).state
  constructor
  · exact ⟨appended, rounds, rfl, adopted⟩
  · rw [outward_append, outward_append, inward, saved, written, adopted, List.nil_append]

theorem answer_fails (prepared : List Message) (state : σ)
    (unanswered : ∀ response, ¬ (conversation.looped world prepared state).Obtains response) :
    (∃ e, (world.run (conversation.answer prepared) state).value = ⟨conversation, .error e⟩) ∧
      Dialogue.outward (world.run (conversation.answer prepared) state).trace = [] := by
  have inward := loop_inward conversation world prepared state
  obtain ⟨e, failed⟩ := loop_unanswered world conversation.settings.agent
    conversation.settings.systemPrompt prepared state
    fun response member final => unanswered response ⟨member, final⟩
  rw [Conversation.answer, World.run_bind]
  dsimp only [looped] at inward
  generalize world.run (conversation.settings.agent.run _ prepared) state = loop at *
  obtain ⟨trace, ⟨history, usage, ended⟩, after⟩ := loop
  dsimp only at inward failed
  subst failed
  refine ⟨⟨e, rfl⟩, ?_⟩
  simpa only [Run.andThen, World.run_pure, List.append_nil] using inward

theorem turn_rolled_back (content : String) (state : σ) (entry : σ → List Message)
    (only : OnlySaved world conversation.settings.sessionId entry)
    (unanswered : ∀ looped response, conversation.looped? world content state = some looped →
      ¬ looped.Obtains response) :
    conversation.RolledBack entry state (world.run (conversation.turn content) state) := by
  have remains : (∃ e, (world.run (conversation.turn content) state).value =
      ⟨conversation, .error e⟩) ∧
        Dialogue.outward (world.run (conversation.turn content) state).trace = [] := by
    have inward := preparation_inward conversation world content state
    rw [looped?] at unanswered
    rw [run_turn]
    generalize conversation.preparation world content state = preparation at *
    obtain ⟨trace, prepared, after⟩ := preparation
    cases prepared with
    | error e =>
        refine ⟨⟨e, rfl⟩, ?_⟩
        simpa only [Run.andThen, proceed, World.run_pure, List.append_nil] using inward
    | ok compacted =>
        obtain ⟨failed, quiet⟩ := answer_fails (sanitize compacted).messages after
          fun response => unanswered _ response rfl
        refine ⟨failed, ?_⟩
        simp only [Run.andThen, proceed, outward_append, inward, quiet, List.append_nil]
  obtain ⟨⟨e, value⟩, nothing⟩ := remains
  constructor
  · exact ⟨e, by rw [value]⟩
  · rw [value]
  · exact unsaved_entry world _ entry only _ state (inward_unsaved _ nothing _)
  · exact nothing

theorem turn_adopts (content : String) (state : σ) (looped : Looped σ)
    (ran : conversation.looped? world content state = some looped) :
    (∃ late, (world.run (conversation.turn content) state).trace =
      (conversation.preparation world content state).trace ++ looped.run.trace ++ late) ∧
    ∀ response, looped.Obtains response →
      conversation.Adopts looped response (world.run (conversation.turn content) state) := by
  have inward := preparation_inward conversation world content state
  rw [looped?] at ran
  rw [run_turn]
  generalize conversation.preparation world content state = preparation at *
  obtain ⟨trace, prepared, after⟩ := preparation
  cases prepared with
  | error e => cases ran
  | ok compacted =>
      cases ran
      constructor
      · obtain ⟨late, whole⟩ := answer_trace conversation world (sanitize compacted).messages after
        exact ⟨late, by simp only [Run.andThen, proceed, whole, List.append_assoc]⟩
      · intro response obtained
        obtain ⟨history, written⟩ := answer_adopts _ after response obtained
        refine ⟨history, ?_⟩
        simp only [Run.andThen, proceed, outward_append, inward, List.nil_append]
        exact written

variable (conversation world)

theorem turn_atomic (content : String) (state : σ) (entry : σ → List Message)
    (only : OnlySaved world conversation.settings.sessionId entry)
    (ordinary : conversation.isReset content = false) :
    ((∀ looped response, conversation.looped? world content state = some looped →
        ¬ looped.Obtains response) →
      conversation.RolledBack entry state (world.run (conversation.handle content) state)) ∧
    ∀ looped, conversation.looped? world content state = some looped →
      (∃ late, (world.run (conversation.handle content) state).trace =
        (conversation.preparation world content state).trace ++ looped.run.trace ++ late) ∧
      ∀ response, looped.Obtains response →
        conversation.Adopts looped response (world.run (conversation.handle content) state) := by
  have same : conversation.handle content = conversation.turn content := by
    rw [Conversation.handle, ordinary, if_neg (by simp)]
  rw [same]
  exact ⟨turn_rolled_back content state entry only, turn_adopts content state⟩

end Conversation

def halfway : Script where
  replies := [.ok (.ofToolCalls [⟨"a", "read", ""⟩])]

def wholeWay : Script where
  replies := [.ok (.ofToolCalls [⟨"a", "read", ""⟩]), .ok (.ofText "done")]

theorem tool_rounds_whole_or_not_at_all :
    reader.isReset "Read it." = false ∧
      OnlySaved scripted "s" (fun script => script.store.load "s") ∧
      (∃ looped, reader.looped? scripted "Read it." halfway = some looped ∧
        (responses looped.run.trace).length = 1) ∧
      reader.RolledBack (fun script => script.store.load "s") halfway
        (scripted.run (reader.handle "Read it.") halfway) ∧
      ∃ looped, reader.looped? scripted "Read it." wholeWay = some looped ∧
        looped.Obtains (.ofText "done") ∧
        reader.Adopts looped (.ofText "done") (scripted.run (reader.handle "Read it.") wholeWay) := by
  have ordinary : reader.isReset "Read it." = false := by decide
  have only := Dispatch.scripted_only_saved "s"
  refine ⟨ordinary, only, ⟨_, rfl, rfl⟩, ?_, ?_⟩
  · apply (reader.turn_atomic scripted "Read it." halfway _ only ordinary).1
    rintro looped response ran ⟨member, final⟩
    cases ran
    change response ∈ [ChatResponse.ofToolCalls [⟨"a", "read", ""⟩]] at member
    rw [List.mem_singleton.mp member] at final
    cases final
  · have obtained : ∃ looped, reader.looped? scripted "Read it." wholeWay = some looped ∧
        looped.Obtains (.ofText "done") := by
      refine ⟨_, rfl, ?_, rfl⟩
      change _ ∈ [ChatResponse.ofToolCalls [⟨"a", "read", ""⟩], .ofText "done"]
      simp
    obtain ⟨looped, ran, answer⟩ := obtained
    exact ⟨looped, ran, answer, ((reader.turn_atomic scripted "Read it." wholeWay _ only
      ordinary).2 looped ran).2 _ answer⟩

end Dialogue
