import Dialogue.Dispatch.Handling
import Dialogue.Dispatch.Step
import Dialogue.Proofs.Session.Ending

set_option autoImplicit false

namespace Dialogue.Dispatch

variable {σ : Type}

def ReportedAfter (before trace : List Event) : Prop :=
  ∃ told after, trace = before ++ ⟨.log ⟨.error, "Message handling failed"⟩, ()⟩ ::
    ⟨.write genericFailure, told⟩ :: after

def Undelivered (trace : List Event) : Prop :=
  ∃ text e, (⟨.write text, .error e⟩ : Event) ∈ trace

def Unalarmed (trace : List Event) : Prop :=
  ∀ event ∈ trace, ∀ text, event.effect ≠ .log ⟨.error, text⟩

theorem unalarmed_append (first second : List Event) (quiet : Unalarmed first)
    (also : Unalarmed second) : Unalarmed (first ++ second) := by
  intro event member
  rcases List.mem_append.mp member with early | late
  · exact quiet event early
  · exact also event late

theorem quiet_unalarmed (trace : List Event) (quiet : ∀ event ∈ trace, event.effect.Quiet) :
    Unalarmed trace := by
  intro event member text logged
  have level := quiet event member
  rw [logged] at level
  cases level

theorem adopted_unalarmed (conversation : Conversation) (trace : List Event)
    (adoption : Adopted conversation trace) : Unalarmed trace := by
  intro event member text logged
  cases adoption.warned event member _ logged

theorem ends_unalarmed {conversation : Conversation} {tells : Tells} {trace : List Event}
    {handled : Handled} (ends : conversation.Ends tells trace handled) : Unalarmed trace := by
  have written : ∀ text answer, Unalarmed [⟨.write text, answer⟩] := by
    intro text answer event member other
    rw [List.mem_singleton.mp member]
    simp
  cases ends with
  | failed e quiet => exact quiet_unalarmed _ quiet
  | silent adopted quiet adoption =>
      exact unalarmed_append _ _ (quiet_unalarmed _ quiet) (adopted_unalarmed _ _ adoption)
  | replied adopted text quiet adoption | undelivered adopted text e quiet adoption =>
      exact unalarmed_append _ _ (unalarmed_append _ _ (quiet_unalarmed _ quiet)
        (adopted_unalarmed _ _ adoption)) (written _ _)

theorem run_report_failure (world : World σ) (state : σ) :
    ∃ told after, (world.run reportFailure state).trace =
        ⟨.log ⟨.error, "Message handling failed"⟩, ()⟩ :: ⟨.write genericFailure, told⟩ :: after ∧
      ∀ event ∈ after, event.effect.Quiet := by
  have logged := World.run_heedless world (.log ⟨.error, "Message handling failed"⟩) state rfl
    (by simp)
  generalize (world.respond (.log ⟨.error, "Message handling failed"⟩) state).2 = after at logged
  have written := World.run_heedless world (.write genericFailure) after rfl (by simp)
  rw [reportFailure, World.run_bind, Proc.logError, logged]
  simp only [Run.andThen, World.run_bind, Proc.write, written]
  generalize (world.respond (.write genericFailure) after).2 = told
  cases (world.respond (.write genericFailure) after).1 with
  | ok _ => exact ⟨.ok (), [], rfl, by simp⟩
  | error e =>
      have warned : (Proc.warn "Failed to report failure to the user").Ensures Effect.Quiet
          fun _ => True := Proc.ensures_after _ pure rfl fun _ => trivial
      exact ⟨.error e, _, rfl, (Proc.ensures_run world _ told warned).events⟩

theorem run_conclude (world : World σ) (outcome : Except Error Unit) (state : σ) :
    (world.run (conclude outcome) state).trace = [] ∨
      (∃ e, outcome = .error e) ∧ ∃ told after,
        (world.run (conclude outcome) state).trace =
          ⟨.log ⟨.error, "Message handling failed"⟩, ()⟩ :: ⟨.write genericFailure, told⟩ :: after ∧
        ∀ event ∈ after, event.effect.Quiet := by
  cases outcome with
  | ok _ => exact .inl rfl
  | error e =>
      unfold conclude
      dsimp only
      cases expected : e.isCancelled with
      | true => exact .inl rfl
      | false =>
          simp only [Bool.false_eq_true, if_false, World.run_bind, World.run_look, Run.andThen,
            List.nil_append]
          cases world.cancelled state with
          | true => exact .inl rfl
          | false => exact .inr ⟨⟨e, rfl⟩, run_report_failure world _⟩

theorem alarm_splits_once (early late before after : List Event) (text : String)
    (alarm : Event) (alarming : alarm.effect = .log ⟨.error, text⟩) (quiet : Unalarmed early)
    (also : Unalarmed late) (same : early ++ alarm :: late = before ++ alarm :: after) :
    before = early := by
  rcases List.append_eq_append_iff.mp same with ⟨middle, longer, rest⟩ | ⟨middle, shorter, rest⟩
  · cases middle with
    | nil => simpa using longer
    | cons event others =>
        obtain ⟨rfl, later⟩ := List.cons.inj rest
        exact absurd alarming (also alarm (by simp [later]) text)
  · cases middle with
    | nil => simpa using shorter.symm
    | cons event others =>
        obtain ⟨rfl, _⟩ := List.cons.inj rest
        exact absurd alarming (quiet alarm (by simp [shorter]) text)

theorem run_handle (world : World σ) (conversation : Conversation) (message : Inbound) (state : σ) :
    (world.run (handle conversation message) state).value =
        (world.run (conversation.handle message.content) state).value.conversation ∧
      (world.run (handle conversation message) state).trace =
        (world.run (conversation.handle message.content) state).trace ++
          (world.run
            (conclude (world.run (conversation.handle message.content) state).value.outcome)
            (world.run (conversation.handle message.content) state).state).trace := by
  rw [handle]
  simp only [World.run_bind, Run.andThen, World.run_pure, List.append_nil, and_self]

theorem reported_after (world : World σ) (conversation : Conversation) (message : Inbound)
    (state : σ) (before : List Event)
    (reported : ReportedAfter before (world.run (handle conversation message) state).trace) :
    before = (world.run (conversation.handle message.content) state).trace ∧
      (∃ e, (world.run (conversation.handle message.content) state).value.outcome = .error e) ∧
      ∃ told after, (world.run (handle conversation message) state).trace =
          before ++ ⟨.log ⟨.error, "Message handling failed"⟩, ()⟩ ::
            ⟨.write genericFailure, told⟩ :: after ∧
        ∀ event ∈ after, event.effect.Quiet := by
  obtain ⟨told, after, split⟩ := reported
  have unalarmed := ends_unalarmed (handle_ends conversation world message.content state)
  rw [(run_handle world conversation message state).2] at split ⊢
  rcases run_conclude world (world.run (conversation.handle message.content) state).value.outcome
    (world.run (conversation.handle message.content) state).state with
      silent | ⟨failed, answer, rest, report, quiet⟩
  · rw [silent, List.append_nil] at split
    exact absurd rfl (unalarmed ⟨.log ⟨.error, "Message handling failed"⟩, ()⟩
      (by simp [split]) "Message handling failed")
  · rw [report] at split ⊢
    have late : Unalarmed (⟨.write genericFailure, answer⟩ :: rest) := by
      intro event member text
      rcases List.mem_cons.mp member with written | later
      · simp [written]
      · exact quiet_unalarmed rest quiet event later text
    have same := alarm_splits_once _ _ _ _ _ _ rfl unalarmed late split
    exact ⟨same, failed, answer, rest, by rw [same], quiet⟩

def OnlySaved (world : World σ) (session : String) (entry : σ → List Message) : Prop :=
  ∀ effect state, (∀ messages, effect ≠ .save session messages) →
    entry (world.respond effect state).2 = entry state

theorem unsaved_entry {α : Type} (world : World σ) (session : String) (entry : σ → List Message)
    (only : OnlySaved world session entry) (process : Proc α) (state : σ)
    (unsaved : ∀ event ∈ (world.run process state).trace,
      ∀ messages, event.effect ≠ .save session messages) :
    entry (world.run process state).state = entry state :=
  World.run_keeps world (fun later => entry later = entry state)
    (fun effect => ∀ messages, effect ≠ .save session messages) (fun _ same => by cases same)
    (fun effect later other same => (only effect later other).trans same) process state unsaved rfl

theorem quiet_unsaved (effect : Effect) (quiet : effect.Quiet) (session : String) :
    ∀ messages, effect ≠ .save session messages := by
  intro messages saved
  rw [saved] at quiet
  exact quiet

theorem quiet_saves (trace : List Event) (quiet : ∀ event ∈ trace, event.effect.Quiet) :
    saves trace = [] := by
  induction trace with
  | nil => rfl
  | cons event rest ih =>
      rw [List.forall_mem_cons] at quiet
      obtain ⟨effect, answer⟩ := event
      cases effect with
      | save session messages => exact absurd rfl (quiet_unsaved _ quiet.1 session messages)
      | _ => exact ih quiet.2

structure Uncommitted (entry : σ → List Message) (conversation : Conversation) (state : σ)
    (run : Run σ Conversation) : Prop where
  conversation : run.value = conversation
  entry : entry run.state = entry state

def Committed (conversation : Conversation) (content : String) (before : List Event)
    (run : Run σ Conversation) : Prop :=
  ∃ adopted text e, (⟨.write text, .error e⟩ : Event) ∈ before ∧
    conversation.tells content text adopted ∧
    run.value = { conversation with history := adopted } ∧
    saves run.trace = if conversation.settings.stored then [adopted] else []

theorem failure_uncommitted (world : World σ) (conversation : Conversation) (message : Inbound)
    (state : σ) (entry : σ → List Message)
    (only : OnlySaved world conversation.settings.sessionId entry) (before : List Event)
    (reported : ReportedAfter before (world.run (handle conversation message) state).trace) :
    (¬ Undelivered before →
      Uncommitted entry conversation state (world.run (handle conversation message) state)) ∧
    (Undelivered before → Committed conversation message.content before
      (world.run (handle conversation message) state)) := by
  obtain ⟨first, ⟨e, failed⟩, told, after, whole, quiet⟩ :=
    reported_after world conversation message state before reported
  have value := (run_handle world conversation message state).1
  have ends := handle_ends conversation world message.content state
  rw [← first] at ends
  revert value failed
  generalize (world.run (conversation.handle message.content) state).value = handled at ends
  intro failed value
  cases ends with
  | failed cause silent =>
      constructor
      · intro _
        refine ⟨value, unsaved_entry world _ entry only _ state ?_⟩
        intro event member messages
        rw [whole] at member
        rcases List.mem_append.mp member with early | late
        · exact quiet_unsaved _ (silent event early) _ messages
        · rcases List.mem_cons.mp late with logged | later
          · simp [logged]
          · rcases List.mem_cons.mp later with written | last
            · simp [written]
            · exact quiet_unsaved _ (quiet event last) _ messages
      · rintro ⟨text, e, member⟩
        exact (silent _ member).elim
  | silent | replied => cases failed
  | @undelivered early late adopted text cause silent adoption told =>
      have member : (⟨.write text, .error cause⟩ : Event) ∈
          early ++ late ++ [⟨.write text, .error cause⟩] := by simp
      constructor
      · intro delivered
        exact absurd ⟨text, cause, member⟩ delivered
      · intro _
        refine ⟨adopted, text, cause, member, told, value, ?_⟩
        rw [whole]
        simp only [saves_append, saves, quiet_saves early silent, quiet_saves after quiet,
          adoption.saved, List.nil_append, List.append_nil]

structure Service (σ : Type) where
  dispatcher : State
  conversation : Conversation
  outside : σ

structure Served (σ : Type) where
  message : Inbound
  conversation : Conversation
  outside : σ
  run : Run σ Conversation

-- Each message is handled in a world of its own, which knows when its token is cancelled. Between
-- two messages anything may happen outside.
inductive Serves (worlds : Ticket → World σ) (start : Service σ) :
    Service σ → List (Served σ) → Prop where
  | start : Serves worlds start start []
  | other {service : Service σ} {served : List (Served σ)} (action : Step) (next : State)
      (outside : σ) (serves : Serves worlds start service served)
      (unfinished : action ≠ .finish) (possible : service.dispatcher.step action = some next) :
      Serves worlds start ⟨next, service.conversation, outside⟩ served
  | finish {service : Service σ} {served : List (Served σ)} (envelope : Envelope) (next : State)
      (run : Run σ Conversation) (serves : Serves worlds start service served)
      (handling : service.dispatcher.worker = .handling envelope)
      (possible : service.dispatcher.step .finish = some next)
      (handled : run = (worlds envelope.ticket).run
        (handle service.conversation envelope.message) service.outside) :
      Serves worlds start ⟨next, run.value, run.state⟩
        (served ++ [⟨envelope.message, service.conversation, service.outside, run⟩])

theorem handle_settings (world : World σ) (conversation : Conversation) (message : Inbound)
    (state : σ) :
    (world.run (handle conversation message) state).value.settings = conversation.settings := by
  rw [(run_handle world conversation message state).1]
  have ends := handle_ends conversation world message.content state
  generalize (world.run (conversation.handle message.content) state).trace = trace at ends
  generalize (world.run (conversation.handle message.content) state).value = handled at ends ⊢
  cases ends <;> rfl

theorem serves_handled {worlds : Ticket → World σ} {start service : Service σ}
    {served : List (Served σ)} (serves : Serves worlds start service served) :
    service.conversation.settings = start.conversation.settings ∧
      ∀ turn ∈ served, turn.conversation.settings = start.conversation.settings ∧
        ∃ ticket, turn.run =
          (worlds ticket).run (handle turn.conversation turn.message) turn.outside := by
  induction serves with
  | start => exact ⟨rfl, by simp⟩
  | other action next outside serves unfinished possible ih => exact ih
  | @finish service served envelope next run serves handling possible handled ih =>
      obtain ⟨settings, earlier⟩ := ih
      constructor
      · have same := handle_settings (worlds envelope.ticket) service.conversation
          envelope.message service.outside
        rw [← handled] at same
        exact same.trans settings
      · intro turn member
        rcases List.mem_append.mp member with before | last
        · exact earlier turn before
        · rw [List.mem_singleton.mp last]
          exact ⟨settings, envelope.ticket, handled⟩

theorem reported_failures_uncommitted (worlds : Ticket → World σ) (start service : Service σ)
    (served : List (Served σ)) (serves : Serves worlds start service served)
    (entry : σ → List Message)
    (only : ∀ ticket, OnlySaved (worlds ticket) start.conversation.settings.sessionId entry) :
    ∀ turn ∈ served, ∀ before, ReportedAfter before turn.run.trace →
      (¬ Undelivered before →
        Uncommitted entry turn.conversation turn.outside turn.run) ∧
      (Undelivered before →
        Committed turn.conversation turn.message.content before turn.run) := by
  intro turn member before reported
  obtain ⟨settings, ticket, run⟩ := (serves_handled serves).2 turn member
  rw [run] at reported ⊢
  exact failure_uncommitted (worlds ticket) turn.conversation turn.message turn.outside entry
    (settings ▸ only ticket) before reported

theorem serves_steps {worlds : Ticket → World σ} {start service : Service σ}
    {served : List (Served σ)} (serves : Serves worlds start service served)
    (actions : List Step) (unfinished : ∀ action ∈ actions, action ≠ .finish) (next : State)
    (possible : service.dispatcher.steps actions = some next) :
    Serves worlds start ⟨next, service.conversation, service.outside⟩ served := by
  induction actions generalizing service with
  | nil =>
      cases possible
      exact serves
  | cons action rest ih =>
      rw [List.forall_mem_cons] at unfinished
      simp only [State.steps, Option.bind_eq_some_iff] at possible
      obtain ⟨between, first, later⟩ := possible
      have onward := Serves.other action between service.outside serves unfinished.1 first
      have arrived := ih onward unfinished.2 later
      exact arrived

theorem scripted_only_saved (session : String) :
    OnlySaved scripted session fun script => script.store.load session := by
  intro effect script other
  cases effect with
  | save name messages =>
      have different : session ≠ name := fun same => other messages (by rw [same])
      change (script.store.save name messages).load session = script.store.load session
      rw [SessionStore.load_save, if_neg different]
  | _ => rfl

def unused (script : Script) : Service Script where
  dispatcher := .initial 1
  conversation :=
    ⟨{ sessionId := "s"
       systemPrompt := ""
       agent := { provider := some ⟨"model"⟩, tools := some {} }
       compactor := { provider := ⟨"model"⟩, maxContextTokens := 0, recentMessageCount := 20 }
       stored := true }, []⟩
  outside := script

def greeting : Inbound := .ofText "local" "hi"

def greetingTurn (script : Script) : Served Script where
  message := greeting
  conversation := (unused script).conversation
  outside := script
  run := scripted.run (handle (unused script).conversation greeting) script

theorem greeting_served (script : Script) :
    ∃ service, Serves (fun _ => scripted) (unused script) service [greetingTurn script] := by
  have idle : Serves (fun _ => scripted) (unused script) (unused script) [] := .start
  have waiting := serves_steps idle
    (.request 0 greeting :: sending 0 ++ takingOver ++ [.invoke]) (by simp [sending, takingOver])
    _ rfl
  exact ⟨_, .finish ⟨0, 0, greeting⟩ _ _ waiting rfl rfl rfl⟩

def lostReply : Script where
  replies := [.ok (.ofText "hello")]
  deliveries := [.error (.connectionLost "down")]

theorem lost_reply_committed :
    ∃ service, Serves (fun _ => scripted) (unused lostReply) service [greetingTurn lostReply] ∧
      (∃ before, ReportedAfter before (greetingTurn lostReply).run.trace) ∧
      (greetingTurn lostReply).conversation.history = [] ∧
      (greetingTurn lostReply).run.value.history =
        [.user ⟨"message", .epoch⟩ "hi", .assistant ⟨"message", .epoch⟩ "hello"] ∧
      (greetingTurn lostReply).outside.store.load "s" = [] ∧
      (greetingTurn lostReply).run.state.store.load "s" =
        [.user ⟨"message", .epoch⟩ "hi", .assistant ⟨"message", .epoch⟩ "hello"] := by
  obtain ⟨service, serves⟩ := greeting_served lostReply
  refine ⟨service, serves, ?_, rfl, rfl, rfl, rfl⟩
  -- The message gets its stamp, the model answers, the answer gets its stamp, the history is saved,
  -- and the reply is lost.
  exact ⟨(greetingTurn lostReply).run.trace.take 5, .ok (), [], rfl⟩

theorem failed_model_uncommitted :
    ∃ service before, Serves (fun _ => scripted) (unused {}) service [greetingTurn {}] ∧
      ReportedAfter before (greetingTurn {}).run.trace ∧ ¬ Undelivered before ∧
      Uncommitted (fun script => script.store.load "s") (unused {}).conversation {}
        (greetingTurn {}).run := by
  obtain ⟨service, serves⟩ := greeting_served {}
  have reported : ReportedAfter ((greetingTurn {}).run.trace.take 2) (greetingTurn {}).run.trace :=
    ⟨.ok (), [], rfl⟩
  have delivered : ¬ Undelivered ((greetingTurn {}).run.trace.take 2) := by
    rintro ⟨text, e, member⟩
    change (⟨.write text, .error e⟩ : Event) ∈ [⟨.stamp, _⟩, ⟨.chat _ _, _⟩] at member
    simp at member
  exact ⟨service, _, serves, reported, delivered,
    (reported_failures_uncommitted (fun _ => scripted) (unused {}) service _ serves
      (fun script => script.store.load "s") (fun _ => scripted_only_saved "s") _
      List.mem_cons_self _ reported).1 delivered⟩

end Dialogue.Dispatch
