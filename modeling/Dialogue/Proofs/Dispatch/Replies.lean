import Dialogue.Proofs.Dispatch.Order
import Dialogue.Proofs.Dispatch.Told
import Dialogue.Proofs.Session.Discretion

set_option autoImplicit false

namespace Dialogue.Dispatch

variable {σ τ : Type}

structure Move (σ : Type) where
  action : Step
  meanwhile : σ → σ

namespace Service

variable (worlds : Ticket → World σ) (service : Service σ)

def ending : Step → Option Envelope
  | .finish =>
    match service.dispatcher.worker with
    | .handling envelope => some envelope
    | _ => none
  | _ => none

def handling (envelope : Envelope) : Run σ Conversation :=
  (worlds envelope.ticket).run (handle service.conversation envelope.message) service.outside

def move (move : Move σ) : Option (List (Served σ) × Service σ) :=
  (service.dispatcher.step move.action).map fun next =>
    match service.ending move.action with
    | none => ([], ⟨next, service.conversation, move.meanwhile service.outside⟩)
    | some envelope =>
      let run := service.handling worlds envelope
      ([⟨envelope.message, service.conversation, service.outside, run⟩],
        ⟨next, run.value, run.state⟩)

def play : Service σ → List (Move σ) → Option (List (Served σ) × Service σ)
  | service, [] => some ([], service)
  | service, move :: rest =>
    (service.move worlds move).bind fun (served, next) =>
      (next.play rest).map fun (more, last) => (served ++ more, last)

end Service

section Playing

variable {worlds : Ticket → World σ} {service next last : Service σ}
  {now served more : List (Served σ)}

-- A move is a step during which nothing is handled, or the end of the handling of a message.
inductive Moved (worlds : Ticket → World σ) (service : Service σ) (move : Move σ) :
    List (Served σ) → Service σ → Prop where
  | other (state : State) (unfinished : move.action ≠ .finish)
      (possible : service.dispatcher.step move.action = some state) :
      Moved worlds service move [] ⟨state, service.conversation, move.meanwhile service.outside⟩
  | handled (envelope : Envelope) (state : State) (run : Run σ Conversation)
      (finish : move.action = .finish) (holds : service.dispatcher.worker = .handling envelope)
      (possible : service.dispatcher.step .finish = some state)
      (ran : run = service.handling worlds envelope) :
      Moved worlds service move
        [⟨envelope.message, service.conversation, service.outside, run⟩]
        ⟨state, run.value, run.state⟩

theorem move_moved (move : Move σ) (moved : service.move worlds move = some (now, next)) :
    Moved worlds service move now next := by
  obtain ⟨action, meanwhile⟩ := move
  obtain ⟨state, possible, result⟩ := Option.map_eq_some_iff.mp moved
  dsimp only at possible result
  by_cases finish : action = .finish
  · subst finish
    have holds : ∃ envelope, service.dispatcher.worker = .handling envelope := by
      simp only [State.step] at possible
      split at possible
      · exact ⟨_, by assumption⟩
      · cases possible
    obtain ⟨envelope, holds⟩ := holds
    have ends : service.ending .finish = some envelope := by rw [Service.ending, holds]
    rw [ends] at result
    dsimp only at result
    generalize ran : service.handling worlds envelope = run at result
    cases result
    exact .handled envelope state run rfl holds possible ran.symm
  · have goes : service.ending action = none := by
      cases action <;> first
        | rfl
        | exact absurd rfl finish
    rw [goes] at result
    cases result
    exact .other state finish possible

theorem moved_move (move : Move σ) (moved : Moved worlds service move now next) :
    service.move worlds move = some (now, next) := by
  obtain ⟨action, meanwhile⟩ := move
  cases moved with
  | other state unfinished possible =>
      have goes : service.ending action = none := by
        cases action <;> first
          | rfl
          | exact absurd rfl unfinished
      simp only [Service.move, goes] at possible ⊢
      rw [possible, Option.map_some]
  | handled envelope state run finish holds possible ran =>
      cases finish
      have ends : service.ending .finish = some envelope := by rw [Service.ending, holds]
      simp only [Service.move, ends, possible, Option.map_some, ran]

theorem play_cons (move : Move σ) (rest : List (Move σ)) :
    service.play worlds (move :: rest) = some (served, last) ↔
      ∃ now next more, service.move worlds move = some (now, next) ∧
        next.play worlds rest = some (more, last) ∧ served = now ++ more := by
  simp only [Service.play, Option.bind_eq_some_iff, Option.map_eq_some_iff, Prod.exists,
    Prod.mk.injEq]
  constructor
  · rintro ⟨now, next, moved, more, final, played, rfl, rfl⟩
    exact ⟨now, next, more, moved, played, rfl⟩
  · rintro ⟨now, next, more, moved, played, rfl⟩
    exact ⟨now, next, moved, more, last, played, rfl, rfl⟩

theorem play_append (moves : List (Move σ)) (move : Move σ)
    (played : service.play worlds moves = some (served, next))
    (moved : next.move worlds move = some (more, last)) :
    service.play worlds (moves ++ [move]) = some (served ++ more, last) := by
  induction moves generalizing service served with
  | nil =>
      cases played
      rw [List.nil_append, List.nil_append, play_cons]
      exact ⟨more, last, [], moved, rfl, (List.append_nil more).symm⟩
  | cons first rest ih =>
      obtain ⟨now, between, later, begun, onward, rfl⟩ := (play_cons first rest).mp played
      rw [List.cons_append, play_cons]
      exact ⟨now, between, later ++ more, begun, ih onward, List.append_assoc now later more⟩

theorem play_serves (start : Service σ) (moves : List (Move σ))
    (serves : Serves worlds start service served)
    (played : service.play worlds moves = some (more, last)) :
    Serves worlds start last (served ++ more) := by
  induction moves generalizing service served more with
  | nil =>
      cases played
      rwa [List.append_nil]
  | cons move rest ih =>
      obtain ⟨now, next, later, moved, onward, rfl⟩ := (play_cons move rest).mp played
      rw [← List.append_assoc]
      refine ih ?_ onward
      cases move_moved move moved with
      | other state unfinished possible =>
          rw [List.append_nil]
          exact .other _ _ _ serves unfinished possible
      | handled envelope state run finish holds possible ran =>
          exact .finish envelope state run serves holds possible ran

theorem serves_iff_play (start : Service σ) :
    Serves worlds start service served ↔
      ∃ moves, start.play worlds moves = some (served, service) := by
  constructor
  · intro serves
    induction serves with
    | start => exact ⟨[], rfl⟩
    | @other service served action next outside _ unfinished possible ih =>
        obtain ⟨moves, played⟩ := ih
        have moved : Moved worlds service ⟨action, fun _ => outside⟩ []
            ⟨next, service.conversation, outside⟩ := .other next unfinished possible
        have longer := play_append moves _ played (moved_move _ moved)
        rw [List.append_nil] at longer
        exact ⟨_, longer⟩
    | @finish service served envelope next run _ holds possible handled ih =>
        obtain ⟨moves, played⟩ := ih
        have moved : Moved worlds service ⟨.finish, id⟩
            [⟨envelope.message, service.conversation, service.outside, run⟩]
            ⟨next, run.value, run.state⟩ := .handled envelope next run rfl holds possible handled
        exact ⟨_, play_append moves _ played (moved_move _ moved)⟩
  · rintro ⟨moves, played⟩
    exact play_serves start moves .start played

end Playing

-- A message that was handled to the end: it is the one that a call was asked to queue, and what was
-- written tells the user how its handling went.
structure Replied (worlds : Ticket → World σ) (run : List Step) (ticket : Ticket)
    (turn : Served σ) : Prop where
  asked : .request ticket turn.message ∈ run
  handled : turn.run =
    (worlds ticket).run (handle turn.conversation turn.message) turn.outside
  told : Told (worlds ticket) turn.conversation turn.message.content turn.outside
    (written turn.run.trace)

theorem handled_replied (worlds : Ticket → World σ) (service : Service σ)
    (before rest : List Step) (envelope : Envelope) (run : Run σ Conversation)
    (intact : envelope.Intact before) (ran : run = service.handling worlds envelope)
    (delivered : ¬ Undelivered run.trace) :
    Replied worlds (before ++ rest) envelope.ticket
      ⟨envelope.message, service.conversation, service.outside, run⟩ where
  asked := List.mem_append_left rest ((intact envelope.message).mpr rfl)
  handled := ran
  told := by
    rw [ran] at delivered ⊢
    exact handle_told envelope.message service.outside delivered

theorem unfinished_entry (state : State) (action : Step) (unfinished : action ≠ .finish) :
    arrivals .finished (state.entry action).toList = [] := by
  cases action with
  | finish => exact absurd rfl unfinished
  | receive =>
      rw [State.entry]
      cases state.queue <;> rfl
  | check | invoke =>
      rw [State.entry]
      cases state.worker <;> rfl
  | _ => rfl

-- By induction on the moves: what the dispatcher finishes is what is served.
theorem play_replied (worlds : Ticket → World σ) (service last : Service σ)
    (moves : List (Move σ)) (served : List (Served σ)) (before : List Step)
    (intact : service.dispatcher.Intact before)
    (played : service.play worlds moves = some (served, last))
    (delivered : ∀ turn ∈ served, ¬ Undelivered turn.run.trace) :
    service.dispatcher.steps (moves.map Move.action) = some last.dispatcher ∧
      List.Forall₂ (Replied worlds (before ++ moves.map Move.action))
        (arrivals .finished (service.dispatcher.journal (moves.map Move.action))) served := by
  induction moves generalizing service served before with
  | nil =>
      cases played
      exact ⟨rfl, .nil⟩
  | cons move rest ih =>
      obtain ⟨now, next, more, begun, onward, rfl⟩ := (play_cons move rest).mp played
      have moved := move_moved move begun
      have step : service.dispatcher.step move.action = some next.dispatcher := by
        cases moved with
        | other state unfinished possible => exact possible
        | handled envelope state run finish holds possible ran => exact finish ▸ possible
      have held := step_intact before service.dispatcher next.dispatcher move.action intact step
      obtain ⟨steps, replied⟩ := ih next more _ held onward
        fun turn member => delivered turn (List.mem_append_right _ member)
      rw [List.append_assoc] at replied
      simp only [List.map_cons, State.steps, State.journal, step, Option.bind_some,
        arrivals_append]
      refine ⟨steps, List.rel_append ?_ replied⟩
      cases moved with
      | other state unfinished possible =>
          rw [unfinished_entry _ _ unfinished]
          exact .nil
      | handled envelope state run finish holds possible ran =>
          have entry : service.dispatcher.entry move.action =
              some (.finished envelope.ticket) := by
            rw [finish, State.entry, holds]
          rw [entry]
          have asked : envelope.Intact before := intact.worker envelope (by rw [holds]; rfl)
          exact .cons (handled_replied worlds service before _ envelope run asked ran
            (delivered _ (List.mem_append_left _ (List.mem_singleton_self _)))) .nil

theorem finished_fresh (journal : Journal) (state : State) (inv : Accounted journal state) :
    (arrivals .finished journal).Nodup ∧
      ∀ ticket, .checked ticket false ∈ journal → ticket ∉ arrivals .finished journal := by
  have judged := checked_once journal state inv
  have fresh := judged.sublist (fresh_sublist journal)
  rw [inv.conveyed.passed, inv.conveyed.finished, List.append_assoc] at fresh
  refine ⟨(List.nodup_append.mp fresh).1, ?_⟩
  intro ticket stale finished
  have passed : ticket ∈ arrivals .passed journal := by
    rw [inv.conveyed.finished]
    exact List.mem_append_left _ finished
  have accepted := passed_fresh journal state inv ticket ((passed_iff ticket journal).mp passed)
  exact one_verdict journal ticket judged accepted stale

structure Move.Matches (states : σ → τ → Prop) (move : Move σ) (other : Move τ) : Prop where
  action : move.action = other.action
  meanwhile : ∀ state also, states state also →
    states (move.meanwhile state) (other.meanwhile also)

structure Service.Matches (states : σ → τ → Prop) (service : Service σ) (other : Service τ) :
    Prop where
  dispatcher : service.dispatcher = other.dispatcher
  conversation : service.conversation = other.conversation
  outside : states service.outside other.outside

def Served.texts (turn : Served σ) : List String := written turn.run.trace

theorem written_effects {first second : List Event}
    (same : first.map (·.effect) = second.map (·.effect)) : written first = written second := by
  have effects : ∀ trace, written trace = (trace.map (·.effect)).filterMap Effect.text? := by
    intro trace
    rw [List.filterMap_map]
    rfl
  rw [effects, effects, same]

section Matching

variable {states : σ → τ → Prop} {worlds : Ticket → World σ} {others : Ticket → World τ}

theorem handling_matches (alike : ∀ ticket, World.Reworded states (worlds ticket) (others ticket))
    (service : Service σ) (other : Service τ) (related : service.Matches states other)
    (envelope : Envelope) :
    written (service.handling worlds envelope).trace =
        written (other.handling others envelope).trace ∧
      (service.handling worlds envelope).value = (other.handling others envelope).value ∧
      states (service.handling worlds envelope).state (other.handling others envelope).state := by
  have discreet := worker_discreet service.conversation envelope.message
  obtain ⟨effects, values, onward⟩ := run_discreet (alike envelope.ticket) discreet
    service.outside other.outside related.outside
  rw [Service.handling, Service.handling, ← related.conversation]
  exact ⟨written_effects effects, values, onward⟩

theorem move_matches (alike : ∀ ticket, World.Reworded states (worlds ticket) (others ticket))
    (service next : Service σ) (other : Service τ) (related : service.Matches states other)
    (move : Move σ) (also : Move τ) (moves : move.Matches states also) (now : List (Served σ))
    (moved : Moved worlds service move now next) :
    ∃ served after, other.move others also = some (served, after) ∧
      served.map Served.texts = now.map Served.texts ∧ next.Matches states after := by
  obtain ⟨dispatcher, conversation, outside⟩ := related
  cases moved with
  | other state unfinished possible =>
      rw [moves.action, dispatcher] at possible
      rw [moves.action] at unfinished
      exact ⟨[], _, moved_move also (.other state unfinished possible), rfl, rfl, conversation,
        moves.meanwhile _ _ outside⟩
  | handled envelope state run finish holds possible ran =>
      have served := handling_matches alike service other ⟨dispatcher, conversation, outside⟩
        envelope
      rw [← ran] at served
      generalize handled : other.handling others envelope = second at served
      obtain ⟨texts, values, onward⟩ := served
      rw [moves.action] at finish
      rw [dispatcher] at holds possible
      refine ⟨_, _, moved_move also
        (.handled envelope state second finish holds possible handled.symm), ?_, rfl, values,
        onward⟩
      rw [List.map_singleton, List.map_singleton, Served.texts, Served.texts, texts]

theorem play_matches (alike : ∀ ticket, World.Reworded states (worlds ticket) (others ticket))
    (service last : Service σ) (other : Service τ) (related : service.Matches states other)
    (moves : List (Move σ)) (also : List (Move τ))
    (matching : List.Forall₂ (Move.Matches states) moves also) (served : List (Served σ))
    (played : service.play worlds moves = some (served, last)) :
    ∃ second final, other.play others also = some (second, final) ∧
      second.map Served.texts = served.map Served.texts := by
  induction matching generalizing service other served with
  | nil =>
      cases played
      exact ⟨[], other, rfl, rfl⟩
  | @cons move another rest more first _ ih =>
      obtain ⟨now, next, later, begun, onward, rfl⟩ := (play_cons move rest).mp played
      obtain ⟨turns, after, stepped, same, relates⟩ := move_matches alike service next other
        related move another first now (move_moved move begun)
      obtain ⟨others, final, continued, texts⟩ := ih next after relates later onward
      refine ⟨turns ++ others, final, ?_, ?_⟩
      · exact (play_cons another more).mpr ⟨_, _, _, stepped, continued, rfl⟩
      · rw [List.map_append, List.map_append, same, texts]

end Matching

structure RepliesInOrder (worlds : Ticket → World σ) (run : List Step) (journal : Journal)
    (served : List (Served σ)) : Prop where
  replied : List.Forall₂ (Replied worlds run) (arrivals .finished journal) served
  handledOnce : (arrivals .finished journal).Nodup
  discarded : ∀ ticket, .checked ticket false ∈ journal → ticket ∉ arrivals .finished journal
  single : ∀ turn ∈ served, turn.texts.length ≤ 1

theorem replied_single (worlds : Ticket → World σ) (run : List Step) (tickets : List Ticket)
    (served : List (Served σ)) (replied : List.Forall₂ (Replied worlds run) tickets served) :
    ∀ turn ∈ served, turn.texts.length ≤ 1 := by
  induction replied with
  | nil => simp
  | cons first _ ih => exact List.forall_mem_cons.mpr ⟨told_once first.told, ih⟩

def Service.starting (capacity : Nat) (conversation : Conversation) (outside : σ) : Service σ where
  dispatcher := .initial capacity
  conversation := conversation
  outside := outside

structure DifferInWording (states : σ → τ → Prop) (worlds : Ticket → World σ)
    (others : Ticket → World τ) (outside : σ) (also : τ) (moves : List (Move σ))
    (matching : List (Move τ)) : Prop where
  worlds : ∀ ticket, World.Reworded states (worlds ticket) (others ticket)
  outside : states outside also
  moves : List.Forall₂ (Move.Matches states) moves matching

theorem replies_follow_messages (worlds : Ticket → World σ) (capacity : Nat)
    (conversation : Conversation) (outside : σ) (moves : List (Move σ)) (served : List (Served σ))
    (last : Service σ)
    (played : (Service.starting capacity conversation outside).play worlds moves =
      some (served, last))
    (delivered : ∀ turn ∈ served, ¬ Undelivered turn.run.trace) :
    RepliesInOrder worlds (moves.map Move.action)
        ((State.initial capacity).journal (moves.map Move.action)) served ∧
      ∀ (τ : Type) (states : σ → τ → Prop) (others : Ticket → World τ) (also : τ)
        (matching : List (Move τ)),
        DifferInWording states worlds others outside also moves matching →
          ∃ second final, (Service.starting capacity conversation also).play others matching =
              some (second, final) ∧
            second.map Served.texts = served.map Served.texts := by
  obtain ⟨steps, replied⟩ := play_replied worlds _ last moves served [] (initial_intact capacity)
    played delivered
  have inv := run_accounted capacity _ last.dispatcher steps
  obtain ⟨once, discarded⟩ := finished_fresh _ last.dispatcher inv
  refine ⟨⟨replied, once, discarded, replied_single worlds _ _ served replied⟩, ?_⟩
  intro τ states others also matching differ
  exact play_matches differ.worlds _ last (Service.starting capacity conversation also)
    ⟨rfl, rfl, differ.outside⟩ moves matching differ.moves served played

inductive SameReply : Effect.Reply → Effect.Reply → Prop where
  | same (reply : Effect.Reply) : SameReply reply reply
  | failed (e other : ProviderError) (looks : e = .cancelled ↔ other = .cancelled) :
      SameReply (.error e) (.error other)

structure Script.Reworded (script other : Script) : Prop where
  replies : List.Forall₂ SameReply script.replies other.replies
  rest : { other with replies := script.replies } = script

theorem scripted_reworded : World.Reworded Script.Reworded scripted scripted where
  cancelled := by
    intro script other same
    rw [← same.rest]
    rfl
  respond := by
    intro effect script other same
    obtain ⟨replies, rest⟩ := same
    obtain ⟨_, _, _, _, _, _, _⟩ := script
    obtain ⟨_, _, _, _, _, _, _⟩ := other
    cases rest
    cases effect with
    | chat provider request =>
        cases replies with
        | nil => exact ⟨.same _ _, .nil, rfl⟩
        | cons first later =>
            cases first with
            | same reply => exact ⟨.same _ _, later, rfl⟩
            | failed e other looks => exact ⟨.failed provider request e other looks, later, rfl⟩
    | chatWithin limit provider request =>
        cases replies with
        | nil => exact ⟨.same _ _, .nil, rfl⟩
        | cons first later =>
            cases first with
            | same reply => exact ⟨.same _ _, later, rfl⟩
            | failed e other looks =>
                exact ⟨.failedInTime limit provider request e other looks, later, rfl⟩
    | _ => exact ⟨.same _ _, replies, rfl⟩

def Event.isLost : Event → Bool
  | ⟨.write _, .error _⟩ => true
  | _ => false

theorem undelivered_lost (trace : List Event) (lost : Undelivered trace) :
    trace.any Event.isLost = true := by
  obtain ⟨text, e, member⟩ := lost
  exact List.any_eq_true.mpr ⟨_, member, rfl⟩

def failedRun : List Step :=
  let message := Inbound.ofText "local" "hi"
  .request 0 message :: sending 0 ++ .request 1 message :: sending 1 ++
    takingOver ++ [.invoke, .finish, .clear] ++ stopping 0 ++ takingOver ++ [.clear] ++
    .request 2 (.ofText "local" "/reset") :: sending 2 ++ takingOver ++ [.invoke, .finish]

def failedMoves : List (Move Script) := failedRun.map fun action => ⟨action, id⟩

def down : Script where
  replies := [.error (.network "down")]

def denied : Script where
  replies := [.error (.authenticationFailed "key")]

theorem failure_wording_untold :
    ∃ served last, (Service.starting 2 reader down).play (fun _ => scripted) failedMoves =
        some (served, last) ∧
      (∀ turn ∈ served, ¬ Undelivered turn.run.trace) ∧
      served.map Served.texts = [[genericFailure], [resetAcknowledgement]] ∧
      RepliesInOrder (fun _ => scripted) (failedMoves.map Move.action)
        ((State.initial 2).journal (failedMoves.map Move.action)) served ∧
      DifferInWording Script.Reworded (fun _ => scripted) (fun _ => scripted) down denied
        failedMoves failedMoves ∧
      ∃ second final, (Service.starting 2 reader denied).play (fun _ => scripted) failedMoves =
          some (second, final) ∧
        second.map Served.texts = [[genericFailure], [resetAcknowledgement]] := by
  have played : ∃ served last, (Service.starting 2 reader down).play (fun _ => scripted)
      failedMoves = some (served, last) ∧
        served.all (fun turn => !turn.run.trace.any Event.isLost) = true ∧
        served.map Served.texts = [[genericFailure], [resetAcknowledgement]] :=
    ⟨_, _, rfl, rfl, rfl⟩
  obtain ⟨served, last, played, kept, texts⟩ := played
  have delivered : ∀ turn ∈ served, ¬ Undelivered turn.run.trace := by
    intro turn member lost
    have found := undelivered_lost _ lost
    have held := List.all_eq_true.mp kept turn member
    rw [found] at held
    cases held
  have same : List.Forall₂ (Move.Matches Script.Reworded) failedMoves failedMoves := by
    rw [failedMoves, List.forall₂_map_left_iff, List.forall₂_map_right_iff, List.forall₂_same]
    exact fun action _ => ⟨rfl, fun _ _ related => related⟩
  have differ : DifferInWording Script.Reworded (fun _ => scripted) (fun _ => scripted) down
      denied failedMoves failedMoves :=
    ⟨fun _ => scripted_reworded, ⟨.cons (.failed _ _ (by simp)) .nil, rfl⟩, same⟩
  obtain ⟨inOrder, unseen⟩ := replies_follow_messages (fun _ => scripted) 2 reader down
    failedMoves served last played delivered
  obtain ⟨second, final, again, told⟩ := unseen Script Script.Reworded _ denied failedMoves differ
  exact ⟨served, last, played, delivered, texts, inOrder, differ, second, final, again,
    told.trans texts⟩

end Dialogue.Dispatch
