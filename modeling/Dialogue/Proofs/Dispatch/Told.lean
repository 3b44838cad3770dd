import Dialogue.Proofs.Session.Atomicity

set_option autoImplicit false

namespace Dialogue

variable {σ : Type}

def Effect.text? : Effect → Option String
  | .write text => some text
  | _ => none

def written (trace : List Event) : List String := trace.filterMap fun event => event.effect.text?

theorem written_append (first second : List Event) :
    written (first ++ second) = written first ++ written second :=
  List.filterMap_append

theorem written_outward (trace : List Event) :
    written trace = (outward trace).filterMap Effect.text? := by
  induction trace with
  | nil => rfl
  | cons event rest ih =>
      obtain ⟨effect, answer⟩ := event
      have onward : written (⟨effect, answer⟩ :: rest) =
          effect.text?.toList ++ written rest := by
        cases effect <;> rfl
      rw [onward, ih]
      cases effect <;> rfl

theorem quiet_unwritten (trace : List Event) (quiet : ∀ event ∈ trace, event.effect.Quiet) :
    written trace = [] := by
  rw [written_outward, quiet_inward trace quiet]
  rfl

namespace Dispatch

theorem undelivered_append (first second : List Event) :
    Undelivered (first ++ second) ↔ Undelivered first ∨ Undelivered second := by
  constructor
  · rintro ⟨text, e, member⟩
    exact (List.mem_append.mp member).imp (fun early => ⟨text, e, early⟩)
      fun late => ⟨text, e, late⟩
  · rintro (⟨text, e, member⟩ | ⟨text, e, member⟩)
    · exact ⟨text, e, List.mem_append_left _ member⟩
    · exact ⟨text, e, List.mem_append_right _ member⟩

inductive Told (world : World σ) (conversation : Conversation) (content : String) (state : σ) :
    List String → Prop where
  | acknowledged (reset : conversation.isReset content = true)
      (succeeded : (world.run (conversation.handle content) state).value.outcome = .ok ()) :
      Told world conversation content state [resetAcknowledgement]
  | answered (looped : Conversation.Looped σ) (response : ChatResponse)
      (ordinary : conversation.isReset content = false)
      (ran : conversation.looped? world content state = some looped)
      (obtained : looped.Obtains response)
      (succeeded : (world.run (conversation.handle content) state).value.outcome = .ok ()) :
      Told world conversation content state
        (if response.content.isEmpty then [] else [response.content])
  | reported (e : Error)
      (failed : (world.run (conversation.handle content) state).value.outcome = .error e)
      (other : e.isCancelled = false)
      (running : world.cancelled (world.run (conversation.handle content) state).state = false) :
      Told world conversation content state [genericFailure]
  | hushed (e : Error)
      (failed : (world.run (conversation.handle content) state).value.outcome = .error e)
      (cancelled : e.isCancelled = true ∨
        world.cancelled (world.run (conversation.handle content) state).state = true) :
      Told world conversation content state []

variable {world : World σ} {conversation : Conversation}

theorem reply_delivered (text : String) (state : σ)
    (delivered : ¬ Undelivered (world.run (conversation.reply text) state).trace) :
    written (world.run (conversation.reply text) state).trace = [text] ∧
      (world.run (conversation.reply text) state).value = ⟨conversation, .ok ()⟩ := by
  obtain ⟨answer, trace, value⟩ := run_reply conversation world text state
  rw [trace] at delivered ⊢
  refine ⟨rfl, ?_⟩
  cases answer with
  | ok _ => exact value
  | error e => exact absurd ⟨text, e, List.mem_singleton_self _⟩ delivered

theorem persist_unwritten (state : σ) :
    written (world.run conversation.persist state).trace = [] := by
  rw [written_outward, Conversation.persist_outward]
  split <;> rfl

theorem reset_acknowledged (state : σ)
    (delivered : ¬ Undelivered (world.run conversation.reset state).trace) :
    written (world.run conversation.reset state).trace = [resetAcknowledgement] ∧
      (world.run conversation.reset state).value.outcome = .ok () := by
  rw [Conversation.reset, World.run_bind] at delivered ⊢
  simp only [Run.andThen, undelivered_append, written_append, persist_unwritten,
    List.nil_append] at delivered ⊢
  cases archives : conversation.archives conversation.history with
  | false =>
      simp only [archives, Bool.false_eq_true, if_false] at delivered ⊢
      obtain ⟨told, value⟩ := reply_delivered _ _ fun lost => delivered (.inr lost)
      exact ⟨told, by rw [value]⟩
  | true =>
      simp only [archives, if_true, World.run_bind, Run.andThen, undelivered_append,
        written_append] at delivered ⊢
      obtain ⟨told, value⟩ := reply_delivered _ _ fun lost => delivered (.inr (.inr lost))
      exact ⟨by rw [told]; rfl, by rw [value]⟩

theorem answer_succeeds (prepared : List Message) (state : σ) (response : ChatResponse)
    (obtained : (conversation.looped world prepared state).Obtains response)
    (delivered : ¬ Undelivered (world.run (conversation.answer prepared) state).trace) :
    (world.run (conversation.answer prepared) state).value.outcome = .ok () := by
  obtain ⟨member, final⟩ := obtained
  obtain ⟨outcome, _⟩ := loop_answered world conversation.settings.agent
    conversation.settings.systemPrompt prepared state response member final
  rw [Conversation.answer, World.run_bind] at delivered ⊢
  generalize world.run (conversation.settings.agent.run _ prepared) state = loop at *
  obtain ⟨trace, ⟨history, usage, ended⟩, after⟩ := loop
  dsimp only at outcome
  subst outcome
  simp only [Run.andThen, World.run_bind, undelivered_append] at delivered ⊢
  cases empty : response.content.isEmpty with
  | true =>
      simp only [if_true]
      rfl
  | false =>
      simp only [empty, Bool.false_eq_true, if_false] at delivered ⊢
      obtain ⟨_, value⟩ := reply_delivered _ _ fun lost => delivered (.inr (.inr lost))
      rw [value]

theorem turn_succeeds (content : String) (state : σ) (looped : Conversation.Looped σ)
    (response : ChatResponse) (ran : conversation.looped? world content state = some looped)
    (obtained : looped.Obtains response)
    (delivered : ¬ Undelivered (world.run (conversation.turn content) state).trace) :
    (world.run (conversation.turn content) state).value.outcome = .ok () := by
  rw [Conversation.looped?] at ran
  rw [Conversation.run_turn] at delivered ⊢
  generalize conversation.preparation world content state = preparation at *
  obtain ⟨trace, prepared, after⟩ := preparation
  cases prepared with
  | error e => cases ran
  | ok compacted =>
      cases ran
      rw [Run.andThen, undelivered_append] at delivered
      exact answer_succeeds _ after response obtained fun lost => delivered (.inr lost)

theorem turn_written (content : String) (state : σ) (looped : Conversation.Looped σ)
    (response : ChatResponse) (ran : conversation.looped? world content state = some looped)
    (obtained : looped.Obtains response) :
    written (world.run (conversation.turn content) state).trace =
      if response.content.isEmpty then [] else [response.content] := by
  have adopts := (Conversation.turn_adopts content state looped ran).2 response obtained
  rw [written_outward, adopts.outward, List.filterMap_append]
  cases conversation.settings.stored <;> cases response.content.isEmpty <;> rfl

theorem turn_unanswered (content : String) (state : σ)
    (unanswered : ∀ looped response, conversation.looped? world content state = some looped →
      ¬ looped.Obtains response) :
    written (world.run (conversation.turn content) state).trace = [] ∧
      ∃ e, (world.run (conversation.turn content) state).value.outcome = .error e := by
  have back := Conversation.turn_rolled_back content state (fun _ => []) (fun _ _ _ => rfl)
    unanswered
  exact ⟨by rw [written_outward, back.nothing]; rfl, back.failed⟩

theorem conclude_succeeded (state : σ) :
    written (world.run (conclude (.ok ())) state).trace = [] := rfl

theorem conclude_hushed (e : Error) (state : σ)
    (cancelled : e.isCancelled = true ∨ world.cancelled state = true) :
    written (world.run (conclude (.error e)) state).trace = [] := by
  rw [conclude]
  cases expected : e.isCancelled with
  | true => rfl
  | false =>
      have late : world.cancelled state = true := by simpa [expected] using cancelled
      simp only [Bool.false_eq_true, if_false, World.run_bind, World.run_look, Run.andThen, late]
      rfl

theorem conclude_reports (e : Error) (state : σ) (other : e.isCancelled = false)
    (running : world.cancelled state = false) :
    written (world.run (conclude (.error e)) state).trace = [genericFailure] := by
  obtain ⟨told, after, report, quiet⟩ :=
    run_report_failure world (world.respond .cancelled state).2
  rw [conclude, other]
  simp only [Bool.false_eq_true, if_false, World.run_bind, World.run_look, Run.andThen, running,
    List.nil_append, report]
  change genericFailure :: written after = [genericFailure]
  rw [quiet_unwritten after quiet]

-- A failure is reported after everything else, or not at all.
theorem failure_told (content : String) (state : σ) (e : Error)
    (failed : (world.run (conversation.handle content) state).value.outcome = .error e) :
    Told world conversation content state
      (written (world.run (conclude (.error e))
        (world.run (conversation.handle content) state).state).trace) := by
  cases other : e.isCancelled with
  | true =>
      rw [conclude_hushed e _ (.inl other)]
      exact .hushed e failed (.inl other)
  | false =>
      cases running : world.cancelled (world.run (conversation.handle content) state).state with
      | true =>
          rw [conclude_hushed e _ (.inr running)]
          exact .hushed e failed (.inr running)
      | false =>
          rw [conclude_reports e _ other running]
          exact .reported e failed other running

theorem handle_told (message : Inbound) (state : σ)
    (delivered : ¬ Undelivered (world.run (handle conversation message) state).trace) :
    Told world conversation message.content state
      (written (world.run (handle conversation message) state).trace) := by
  have parts := (run_handle world conversation message state).2
  rw [parts, undelivered_append] at delivered
  rw [parts, written_append]
  have early : ¬ Undelivered (world.run (conversation.handle message.content) state).trace :=
    fun lost => delivered (.inl lost)
  cases kind : conversation.isReset message.content with
  | true =>
      have same : conversation.handle message.content = conversation.reset := by
        rw [Conversation.handle, kind, if_pos rfl]
      rw [same] at early
      obtain ⟨told, succeeded⟩ := reset_acknowledged state early
      rw [← same] at told succeeded
      rw [told, succeeded, conclude_succeeded, List.append_nil]
      exact .acknowledged kind succeeded
  | false =>
      have same : conversation.handle message.content = conversation.turn message.content := by
        rw [Conversation.handle, kind, if_neg Bool.false_ne_true]
      by_cases answered : ∃ looped response,
          conversation.looped? world message.content state = some looped ∧ looped.Obtains response
      · obtain ⟨looped, response, ran, obtained⟩ := answered
        rw [same] at early
        have succeeded := turn_succeeds message.content state looped response ran obtained early
        have told := turn_written message.content state looped response ran obtained
        rw [← same] at succeeded told
        rw [told, succeeded, conclude_succeeded, List.append_nil]
        exact .answered looped response kind ran obtained succeeded
      · obtain ⟨told, e, failed⟩ := turn_unanswered message.content state
          fun looped response ran obtained => answered ⟨looped, response, ran, obtained⟩
        rw [← same] at told failed
        rw [told, failed, List.nil_append]
        exact failure_told message.content state e failed

theorem told_once {content : String} {state : σ} {texts : List String}
    (told : Told world conversation content state texts) : texts.length ≤ 1 := by
  cases told with
  | answered looped response => cases response.content.isEmpty <;> simp
  | acknowledged | reported | hushed => simp

end Dispatch

end Dialogue
