import Dialogue.Proofs.Dispatch.Failures
import Dialogue.Proofs.Process.Script
import Dialogue.Proofs.Session.Likeness

set_option autoImplicit false

namespace Dialogue

open Dispatch (quiet_saves quiet_unsaved)

variable {σ : Type}

-- The store keeps the histories in memory: saving and loading do not fail, and nothing else changes
-- what is stored.
structure KeepsStore (store : σ → SessionStore) (world : World σ) : Prop where
  saved : ∀ session messages state,
    (world.respond (.save session messages) state).1 = .ok () ∧
      store (world.respond (.save session messages) state).2 = (store state).save session messages
  loaded : ∀ session state answer,
    (world.respond (.load session) state).1 = .finished answer →
      answer = .ok ((store state).load session)
  unsaved : ∀ effect state, (∀ session messages, effect ≠ .save session messages) →
    store (world.respond effect state).2 = store state

def SessionStore.after : List Event → SessionStore → SessionStore
  | [], store => store
  | ⟨.save session messages, _⟩ :: rest, store => after rest (store.save session messages)
  | _ :: rest, store => after rest store

theorem after_append (first second : List Event) (store : SessionStore) :
    store.after (first ++ second) = (store.after first).after second := by
  induction first generalizing store with
  | nil => rfl
  | cons event rest ih =>
      obtain ⟨effect, answer⟩ := event
      cases effect <;> exact ih _

theorem step_store (store : σ → SessionStore) (world : World σ) (keeps : KeepsStore store world)
    (effect : Effect) (state : σ) :
    store (world.step effect state).state =
      (store state).after (world.step effect state).events := by
  rcases World.step_cases world effect state with
    ⟨same, unstarted⟩ | ⟨rfl, unstarted, moved⟩ | ⟨started, _, moved⟩
  · rw [World.Step.events, unstarted, same]
    rfl
  · rw [World.Step.events, unstarted, moved, keeps.unsaved _ _ (by simp)]
    rfl
  · rw [World.Step.events, started, moved]
    cases effect with
    | save session messages => exact (keeps.saved session messages state).2
    | _ => exact keeps.unsaved _ _ (by simp)

theorem run_store {α : Type} (store : σ → SessionStore) (world : World σ)
    (keeps : KeepsStore store world) (process : Proc α) (state : σ) :
    store (world.run process state).state =
      (store state).after (world.run process state).trace := by
  induction process generalizing state with
  | done value => rfl
  | perform effect next ih =>
      rw [World.run_perform]
      simp only [Run.andThen]
      rw [ih, step_store store world keeps, after_append]

-- Where only one session is saved, its entry is what was saved last, and the others stay.
theorem own_saves (session : String) (trace : List Event) (store : SessionStore)
    (own : ∀ event ∈ trace, ∀ name messages, event.effect = .save name messages → name = session) :
    (store.after trace).load session = (saves trace).getLast?.getD (store.load session) ∧
      ∀ other, other ≠ session → (store.after trace).load other = store.load other := by
  induction trace generalizing store with
  | nil => exact ⟨rfl, fun _ _ => rfl⟩
  | cons event rest ih =>
      rw [List.forall_mem_cons] at own
      obtain ⟨effect, answer⟩ := event
      cases effect with
      | save name messages =>
          obtain rfl := own.1 name messages rfl
          obtain ⟨entry, others⟩ := ih (store.save name messages) own.2
          constructor
          · rw [SessionStore.after, entry, saves, List.getLast?_cons, SessionStore.load_save,
              if_pos rfl, Option.getD_some]
          · intro other different
            rw [SessionStore.after, others other different, SessionStore.load_save,
              if_neg different]
      | _ => exact ih store own.2

variable (conversation : Conversation)

def Effect.SavesOnly (session : String) (effect : Effect) : Prop :=
  ∀ name messages, effect = .save name messages → name = session

theorem quiet_saves_only (session : String) (effect : Effect) (quiet : effect.Quiet) :
    effect.SavesOnly session :=
  fun name messages same => absurd same (quiet_unsaved effect quiet name messages)

theorem persist_saves_only :
    conversation.persist.Ensures (Effect.SavesOnly conversation.settings.sessionId)
      fun _ => True := by
  rw [Conversation.persist]
  cases conversation.settings.stored with
  | false => trivial
  | true =>
      refine Proc.ensures_after _ _ ?_ fun saved => ?_
      · rintro name messages ⟨⟩
        rfl
      · cases saved with
        | ok _ => trivial
        | error e => exact Proc.ensures_after _ _ (quiet_saves_only _ _ rfl) fun _ => trivial

theorem reply_saves_only (session text : String) :
    (conversation.reply text).Ensures (Effect.SavesOnly session) fun _ => True := by
  refine Proc.ensures_after _ _ (by rintro _ _ ⟨⟩) fun written => ?_
  cases written <;> trivial

theorem handle_saves_only (content : String) :
    (conversation.handle content).Ensures (Effect.SavesOnly conversation.settings.sessionId)
      fun _ => True := by
  rw [Conversation.handle]
  cases conversation.isReset content with
  | true =>
      apply Proc.ensures_bind _ _ (persist_saves_only { conversation with history := [] })
      intro _ _
      dsimp only
      cases conversation.archives conversation.history with
      | true => exact Proc.ensures_after _ _ (by rintro _ _ ⟨⟩) fun _ => reply_saves_only _ _ _
      | false => exact reply_saves_only _ _ _
  | false =>
      rw [if_neg (by simp), turn_prepared]
      refine Proc.ensures_after _ _ (quiet_saves_only _ _ trivial) fun stamp => ?_
      apply Proc.ensures_bind _ _ (Proc.ensures_mono _ (prepare_ensures conversation content stamp)
        (fun effect may => quiet_saves_only _ effect (of_compaction_quiet effect may))
        fun _ _ => trivial)
      intro prepared _
      cases prepared with
      | error e => trivial
      | ok compacted =>
          apply Proc.ensures_bind _ _ (Proc.ensures_mono _ (loop_quiet _ _ _)
            (quiet_saves_only _) fun _ _ => trivial)
          intro result _
          cases result.outcome with
          | error e => trivial
          | ok response =>
              apply Proc.ensures_bind _ _
                (persist_saves_only { conversation with history := result.history })
              intro _ _
              cases response.content.isEmpty with
              | true => trivial
              | false => exact reply_saves_only _ _ _

structure Exchanged.Kept (store : σ → SessionStore) (done : Exchanged σ) : Prop where
  settings : done.next.settings = done.conversation.settings
  entry : (store done.run.state).load done.conversation.settings.sessionId = done.next.history
  others : ∀ other, other ≠ done.conversation.settings.sessionId →
    (store done.run.state).load other = (store done.state).load other

theorem last_saved (settings : ConversationSettings) (stored : settings.stored = true)
    (early late : List Event) (adopted entry : List Message)
    (quiet : ∀ event ∈ early, event.effect.Quiet) (adoption : Adopted ⟨settings, adopted⟩ late) :
    (saves (early ++ late)).getLast?.getD entry = adopted := by
  rw [saves_append, quiet_saves early quiet, adoption.saved, if_pos stored]
  rfl

theorem handle_saves (world : World σ) (content : String) (state : σ)
    (stored : conversation.settings.stored = true) :
    (world.run (conversation.handle content) state).value.conversation.settings =
        conversation.settings ∧
      (saves (world.run (conversation.handle content) state).trace).getLast?.getD
          conversation.history =
        (world.run (conversation.handle content) state).value.conversation.history := by
  have ends := handle_ends conversation world content state
  generalize (world.run (conversation.handle content) state).trace = trace at *
  generalize (world.run (conversation.handle content) state).value = handled at *
  cases ends with
  | failed e quiet =>
      rw [quiet_saves trace quiet]
      exact ⟨rfl, rfl⟩
  | silent adopted quiet adoption =>
      exact ⟨rfl, last_saved conversation.settings stored _ _ adopted _ quiet adoption⟩
  | replied adopted text quiet adoption | undelivered adopted text e quiet adoption =>
      refine ⟨rfl, ?_⟩
      rw [saves_append _ [_]]
      change (saves _ ++ []).getLast?.getD _ = _
      rw [List.append_nil]
      exact last_saved conversation.settings stored _ _ adopted _ quiet adoption

theorem exchanged_kept (store : σ → SessionStore) (done : Exchanged σ)
    (stored : done.conversation.settings.stored = true)
    (keeps : KeepsStore store done.exchange.world)
    (starts : (store done.state).load done.conversation.settings.sessionId =
      done.conversation.history) :
    done.Kept store := by
  obtain ⟨settings, last⟩ := handle_saves done.conversation done.exchange.world
    done.exchange.content done.state stored
  have state := run_store store done.exchange.world keeps
    (done.conversation.handle done.exchange.content) done.state
  obtain ⟨entry, others⟩ := own_saves done.conversation.settings.sessionId
    (done.exchange.world.run (done.conversation.handle done.exchange.content) done.state).trace
    (store done.state) (Proc.ensures_run done.exchange.world _ done.state
      (handle_saves_only done.conversation done.exchange.content)).events
  rw [← state, starts, last] at entry
  rw [← state] at others
  rw [← Exchanged.run] at settings entry others
  rw [← Exchanged.next] at settings entry
  exact ⟨settings, entry, others⟩

structure Exchange.Keeps (store : σ → SessionStore) (session : String) (exchange : Exchange σ) :
    Prop where
  world : KeepsStore store exchange.world
  meanwhile : ∀ state, (store (exchange.meanwhile state)).load session = (store state).load session

theorem conversation_kept (store : σ → SessionStore) (past : List (Exchange σ)) (state : σ)
    (stored : conversation.settings.stored = true)
    (keeps : ∀ exchange ∈ past, exchange.Keeps store conversation.settings.sessionId)
    (starts : (store state).load conversation.settings.sessionId = conversation.history) :
    (∀ done ∈ conversation.converse past state, done.Kept store) ∧
      (conversation.leaves past state).1.settings = conversation.settings ∧
      (store (conversation.leaves past state).2).load conversation.settings.sessionId =
        (conversation.leaves past state).1.history := by
  have kept : ∀ done : Exchanged σ, done.exchange ∈ past →
      done.conversation.settings = conversation.settings ∧
        (store done.state).load conversation.settings.sessionId = done.conversation.history →
      done.Kept store := by
    intro done member inv
    exact exchanged_kept store done (by rw [inv.1, stored]) (keeps _ member).world
      (by rw [inv.1]; exact inv.2)
  obtain ⟨always, last⟩ := converse_keeps
    (fun later state => later.settings = conversation.settings ∧
      (store state).load conversation.settings.sessionId = later.history) past
    (fun exchange member later state inv =>
      ⟨inv.1, ((keeps exchange member).meanwhile state).trans inv.2⟩)
    (fun done member inv =>
      have after := kept done member inv
      ⟨after.settings.trans inv.1, inv.1 ▸ after.entry⟩)
    conversation state ⟨rfl, starts⟩
  exact ⟨fun done member => kept done (always done member).1 (always done member).2, last⟩

theorem run_load (world : World σ) (state : σ) :
    (∃ e, (world.run conversation.load state).value = ⟨conversation, .error e⟩) ∨
      (world.run conversation.load state).value.outcome = .ok () := by
  rw [Conversation.load]
  cases conversation.settings.stored with
  | false => exact .inr rfl
  | true =>
      rw [if_pos rfl, World.run_bind]
      simp only [Run.andThen]
      generalize (world.run (Proc.load conversation.settings.sessionId) state).state = loaded
      rcases (world.run (Proc.load conversation.settings.sessionId) state).value with
        _ | e | history
      · exact .inl ⟨_, rfl⟩
      · exact .inl ⟨_, rfl⟩
      · exact .inr rfl

theorem load_kept (store : σ → SessionStore) (world : World σ) (keeps : KeepsStore store world)
    (state : σ) (stored : conversation.settings.stored = true) :
    (world.run conversation.load state).value = ⟨conversation, .error .cancelled⟩ ∧
        world.cancelled (world.run conversation.load state).state = true ∨
      (world.run conversation.load state).value =
        ⟨{ conversation with
          history := (store state).load conversation.settings.sessionId }, .ok ()⟩ := by
  have raced := World.run_racing world (.load conversation.settings.sessionId) state .interrupted rfl
  rw [Conversation.load, if_pos stored, World.run_bind, Proc.load, raced]
  cases cancelled : world.cancelled state with
  | true => exact .inl ⟨rfl, cancelled⟩
  | false =>
      have loaded := keeps.loaded conversation.settings.sessionId state
      have interrupts := world.interrupted_cancelled (.load conversation.settings.sessionId) state
      simp only [Bool.false_eq_true, if_false, Run.andThen]
      generalize (world.respond (.load conversation.settings.sessionId) state).1 = answer at *
      cases answer with
      | interrupted => exact .inl ⟨rfl, interrupts rfl⟩
      | finished answer =>
          rw [loaded answer rfl]
          exact .inr rfl

-- From here on, the other conversation does what this one would do in worlds that answer both
-- alike. Only IDs that are generated from now on may differ.
def Conversation.Continues (other : Conversation) (state also : σ) : Prop :=
  ∀ (names : Renaming) (states : σ → σ → Prop) (later others : List (Exchange σ)),
    Dialogue.Alike names conversation.history conversation.history → states state also →
      List.Forall₂ (Exchange.Alike names states) later others →
        List.Forall₂ (Exchanged.Alike names) (conversation.converse later state)
          (other.converse others also)

theorem continues_same (state also : σ) : conversation.Continues conversation state also :=
  fun _ _ later others known like exchanged =>
    converse_alike later others exchanged conversation conversation ⟨rfl, known⟩ state also like

theorem restart_transparent (store : σ → SessionStore) (past : List (Exchange σ)) (state : σ)
    (stored : conversation.settings.stored = true)
    (keeps : ∀ exchange ∈ past, exchange.Keeps store conversation.settings.sessionId)
    (starts : (store state).load conversation.settings.sessionId = conversation.history) :
    (∀ done ∈ conversation.converse past state, done.Kept store) ∧
    (∀ (fresh : Conversation) (loading : World σ) (resumed : σ),
      fresh.settings = conversation.settings → KeepsStore store loading →
      (store resumed).load conversation.settings.sessionId =
        (store (conversation.leaves past state).2).load conversation.settings.sessionId →
      (loading.run fresh.load resumed).value = ⟨fresh, .error .cancelled⟩ ∧
          loading.cancelled (loading.run fresh.load resumed).state = true ∨
        (loading.run fresh.load resumed).value =
            ⟨(conversation.leaves past state).1, .ok ()⟩ ∧
          (conversation.leaves past state).1.Continues
            (loading.run fresh.load resumed).value.conversation
            (conversation.leaves past state).2 (loading.run fresh.load resumed).state) ∧
    ∀ (fresh : Conversation) (loading : World σ) (resumed : σ),
      (loading.run fresh.load resumed).value.outcome = .ok () ∨
        ∃ e, (loading.run fresh.load resumed).value = ⟨fresh, .error e⟩ := by
  obtain ⟨kept, settings, entry⟩ := conversation_kept conversation store past state stored keeps starts
  refine ⟨kept, ?_, fun fresh loading resumed => (run_load fresh loading resumed).symm⟩
  intro fresh loading resumed same loads unchanged
  rcases load_kept fresh store loading loads resumed (by rw [same, stored]) with
    cancelled | loaded
  · exact .inl cancelled
  · right
    have whole : (⟨conversation.settings, (conversation.leaves past state).1.history⟩ :
        Conversation) = (conversation.leaves past state).1 := by
      rw [← settings]
    rw [same, unchanged, entry, whole] at loaded
    refine ⟨loaded, ?_⟩
    rw [loaded]
    exact continues_same _ _ _

structure Script.Alike (names : Renaming) (script other : Script) : Prop where
  replies : other.replies = script.replies.map (Except.map (ChatResponse.renamed names))
  deliveries : other.deliveries = script.deliveries
  supply : other.supply = names.rename ∘ script.supply
  cancelled : other.cancelled = script.cancelled
  toolsCancel : other.toolsCancel = script.toolsCancel

theorem script_reply_alike (names : Renaming) (script other : Script)
    (alike : script.Alike names other) :
    Raced.finished other.reply = Raced.renamed names (.finished script.reply) := by
  rw [Script.reply, Script.reply, alike.replies]
  cases script.replies with
  | nil => rfl
  | cons reply rest => cases reply <;> rfl

theorem scripted_alike (names : Renaming) :
    World.Alike names (Script.Alike names) scripted scripted := by
  constructor
  · exact fun script other alike => alike.cancelled.symm
  · rintro effect another script other ⟨_, _, event⟩ alike
    cases event with
    | stamp => exact ⟨.stamp _ _, alike⟩
    | callIds =>
        refine ⟨?_, alike⟩
        change Event.Alike names ⟨.callIds, script.supply⟩ ⟨.callIds, other.supply⟩
        rw [alike.supply]
        exact .callIds _
    | @chat first second provider _ requests =>
        have onward : ({ script with replies := script.replies.tail } : Script).Alike names
            { other with replies := other.replies.tail } :=
          { alike with replies := by simp [alike.replies] }
        refine ⟨?_, onward⟩
        change Event.Alike names ⟨.chat provider first, .finished script.reply⟩
          ⟨.chat provider second, .finished other.reply⟩
        rw [script_reply_alike names script other alike]
        exact .chat provider _ requests
    | save session _ histories => exact ⟨.save session _ histories, { alike with }⟩
    | archive job histories => exact ⟨.archive job histories, alike⟩
    | same event plain =>
        cases effect with
        | cancelled =>
            refine ⟨?_, alike⟩
            change Event.Alike names ⟨.cancelled, script.cancelled⟩ ⟨.cancelled, other.cancelled⟩
            rw [alike.cancelled]
            exact .same _ rfl
        | execute tool arguments =>
            refine ⟨.same _ rfl, { alike with cancelled := ?_ }⟩
            change (other.cancelled || other.toolsCancel) =
              (script.cancelled || script.toolsCancel)
            rw [alike.cancelled, alike.toolsCancel]
        | write text =>
            have onward : ({ script with deliveries := script.deliveries.tail } : Script).Alike
                names { other with deliveries := other.deliveries.tail } :=
              { alike with deliveries := by rw [alike.deliveries] }
            refine ⟨?_, onward⟩
            change Event.Alike names ⟨.write text, script.deliveries.headD (.ok ())⟩
              ⟨.write text, other.deliveries.headD (.ok ())⟩
            rw [alike.deliveries]
            exact .same _ rfl
        | rule | approve | remember | reportUsage | log => exact ⟨.same _ rfl, alike⟩
        | stamp | callIds | chat | chatWithin | load | save | archive => cases plain

theorem scripted_keeps : KeepsStore Script.store scripted := by
  refine ⟨fun _ _ _ => ⟨rfl, rfl⟩, ?_, ?_⟩
  · rintro session script answer ⟨⟩
    rfl
  · intro effect script other
    cases effect with
    | save session messages => exact absurd rfl (other session messages)
    | _ => rfl

-- The second ID that is generated for a response is another one after the restart.
def otherId : Renaming := .swap "call_1" "call_9" (by decide) (by decide)

def beforeRestart : Script where
  replies := [.ok (.ofToolCalls [⟨"", "read", ""⟩]), .ok (.ofText "done"), .ok (.ofText "lost"),
    .ok (.ofToolCalls [⟨"", "read", ""⟩, ⟨"", "read", ""⟩]), .ok (.ofText "bye")]
  deliveries := [.ok (), .error (.connectionLost "down")]

def earlier : List (Exchange Script) := [⟨"Read it.", scripted, id⟩, ⟨"Go on.", scripted, id⟩]

def later : List (Exchange Script) := [⟨"Read both.", scripted, id⟩]

def restarted (script : Script) : Script :=
  { script with stamp := ⟨"restarted", .epoch⟩, supply := otherId.rename ∘ script.supply }

def unrelated : Conversation := { reader with history := [.user ⟨"old", .epoch⟩ "old"] }

theorem reader_restarts :
    (∀ done ∈ reader.converse earlier beforeRestart, done.Kept Script.store) ∧
      (reader.leaves earlier beforeRestart).1.history.length = 6 ∧
      (scripted.run unrelated.load (restarted (reader.leaves earlier beforeRestart).2)).value =
        ⟨(reader.leaves earlier beforeRestart).1, .ok ()⟩ ∧
      List.Forall₂ (Exchanged.Alike otherId)
        ((reader.leaves earlier beforeRestart).1.converse later
          (reader.leaves earlier beforeRestart).2)
        ((scripted.run unrelated.load
            (restarted (reader.leaves earlier beforeRestart).2)).value.conversation.converse later
          (restarted (reader.leaves earlier beforeRestart).2)) := by
  have keeps : ∀ exchange ∈ earlier, exchange.Keeps Script.store "s" := by
    rw [earlier, List.forall_mem_cons, List.forall_mem_singleton]
    exact ⟨⟨scripted_keeps, fun _ => rfl⟩, ⟨scripted_keeps, fun _ => rfl⟩⟩
  obtain ⟨kept, resumes, _⟩ := restart_transparent reader Script.store earlier beforeRestart rfl
    keeps rfl
  have finished : (scripted.run unrelated.load
      (restarted (reader.leaves earlier beforeRestart).2)).value.outcome = .ok () := rfl
  rcases resumes unrelated scripted (restarted (reader.leaves earlier beforeRestart).2) rfl
    scripted_keeps rfl with ⟨cancelled, _⟩ | ⟨loaded, continues⟩
  · rw [cancelled] at finished
    cases finished
  · refine ⟨kept, rfl, loaded, ?_⟩
    apply continues otherId (Script.Alike otherId) later later
    · rfl
    · exact ⟨rfl, rfl, rfl, rfl, rfl⟩
    · exact .cons ⟨rfl, scripted_alike otherId, fun _ _ like => like⟩ .nil

end Dialogue
