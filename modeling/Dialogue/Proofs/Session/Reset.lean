import Dialogue.Proofs.Dispatch.Told
import Dialogue.Proofs.Session.Opening
import Dialogue.Proofs.Text.Trim
import Dialogue.Session.Wire

set_option autoImplicit false

namespace Dialogue

variable {σ : Type}

structure Attachments where
  sessionId : String
  approver : Option Approver := none
  stored : Bool := false
  archived : Bool := false

def Settings.attach (settings : Settings) (provider : Provider) (tools : ToolRegistry)
    (attached : Attachments) : ConversationSettings :=
  let made := settings.conversation provider tools attached.sessionId
  { made with
    agent := { made.agent with approver := attached.approver.or made.agent.approver }
    stored := attached.stored
    archived := attached.archived }

namespace Conversation

variable (conversation : Conversation) (world : World σ)

structure Resets (content : String) (state : σ) : Prop where
  cleared : (world.run (conversation.handle content) state).value.conversation =
    { conversation with history := [] }
  acknowledged : written (world.run (conversation.handle content) state).trace =
    [resetAcknowledgement]
  unlooped : ∀ moment ∈ world.timeline (conversation.handle content) state,
    moment.effect.isAction = false

def TakesIn (content : String) (state : σ) : Prop :=
  (world.run (conversation.handle content) state).value.conversation = conversation ∨
    ∃ before stamp after,
      (world.run (conversation.handle content) state).value.conversation =
        { conversation with history := before ++ .user stamp content :: after }

theorem run_reset (state : σ) :
    (world.run conversation.reset state).value.conversation = { conversation with history := [] } ∧
      written (world.run conversation.reset state).trace = [resetAcknowledgement] := by
  have acknowledged : ∀ after,
      (world.run ({ conversation with history := [] }.reply resetAcknowledgement)
          after).value.conversation = { conversation with history := [] } ∧
        written (world.run ({ conversation with history := [] }.reply resetAcknowledgement)
          after).trace = [resetAcknowledgement] := by
    intro after
    obtain ⟨answer, trace, value⟩ :=
      run_reply { conversation with history := [] } world resetAcknowledgement after
    rw [trace, value]
    exact ⟨rfl, rfl⟩
  rw [Conversation.reset, World.run_bind]
  simp only [Run.andThen, written_append, Dispatch.persist_unwritten, List.nil_append]
  cases conversation.archives conversation.history with
  | false => exact acknowledged _
  | true =>
      simp only [if_true, World.run_bind, Run.andThen, written_append]
      obtain ⟨cleared, told⟩ := acknowledged (world.run (Proc.archive _) _).state
      exact ⟨cleared, by rw [told]; rfl⟩

theorem command_resets (content : String) (state : σ)
    (command : conversation.isReset content = true) :
    conversation.Resets world content state := by
  have same : conversation.handle content = conversation.reset := by
    rw [Conversation.handle, if_pos command]
  obtain ⟨cleared, acknowledged⟩ := conversation.run_reset world state
  constructor
  · rw [same]
    exact cleared
  · rw [same]
    exact acknowledged
  · rw [same]
    intro moment member
    exact Effect.heedless_inactive _
      (Proc.ensures_timeline world _ state (reset_heedless conversation) moment member)

theorem answer_adopts_or_fails (prepared : List Message) (state : σ) :
    (world.run (conversation.answer prepared) state).value.conversation = conversation ∨
      ∃ appended, (world.run (conversation.answer prepared) state).value.conversation =
        { conversation with history := prepared ++ appended } := by
  by_cases obtained : ∃ response, (conversation.looped world prepared state).Obtains response
  · obtain ⟨response, obtains⟩ := obtained
    obtain ⟨appended, _, _, adopted⟩ := (answer_adopts prepared state response obtains).history
    exact .inr ⟨appended, adopted⟩
  · obtain ⟨e, failed⟩ := (answer_fails prepared state (not_exists.mp obtained)).1
    exact .inl (by rw [failed])

theorem turn_takes_in (content : String) (state : σ)
    (ordinary : conversation.isReset content = false) :
    conversation.TakesIn world content state := by
  have opens := conversation.preparation_opens world content state
  rw [TakesIn, Conversation.handle, ordinary, if_neg Bool.false_ne_true, run_turn]
  generalize conversation.preparation world content state = preparation at *
  obtain ⟨trace, prepared, after⟩ := preparation
  cases prepared with
  | error e => exact .inl rfl
  | ok compacted =>
      obtain ⟨valid, before, stamp, _, ends⟩ := opens compacted rfl
      rcases conversation.answer_adopts_or_fails world (sanitize compacted).messages after with
        same | ⟨appended, adopted⟩
      · exact .inl same
      · refine .inr ⟨before, stamp, appended, adopted.trans ?_⟩
        rw [valid, ends, List.append_assoc, List.singleton_append]

theorem command_of_reset (content : String) (reset : conversation.isReset content = true) :
    Text.trim conversation.settings.resetCommand = conversation.settings.resetCommand ∧
      Text.trim content = Text.trim conversation.settings.resetCommand := by
  rw [isReset, decide_eq_true_eq] at reset
  rw [← reset, Text.trim_trim]
  exact ⟨rfl, rfl⟩

theorem reset_of_padded (before after : String) (blankBefore : Text.isBlank before = true)
    (blankAfter : Text.isBlank after = true)
    (trimmed : Text.trim conversation.settings.resetCommand = conversation.settings.resetCommand) :
    conversation.isReset (before ++ conversation.settings.resetCommand ++ after) = true := by
  rw [isReset, decide_eq_true_eq, Text.trim_padded _ _ _ blankBefore blankAfter, trimmed]

theorem other_takes_in (content : String) (state : σ)
    (other : Text.trim conversation.settings.resetCommand ≠ conversation.settings.resetCommand ∨
      Text.trim content ≠ Text.trim conversation.settings.resetCommand) :
    conversation.TakesIn world content state := by
  apply conversation.turn_takes_in world content state
  rw [Bool.eq_false_iff]
  intro reset
  obtain ⟨trimmed, same⟩ := conversation.command_of_reset content reset
  rcases other with padded | different
  · exact padded trimmed
  · exact different same

end Conversation

theorem accepted_command_told (settings : Settings)
    (accepted : settings.validate = .ok settings) :
    Text.isBlank settings.reset.command = false := by
  cases blank : Text.isBlank settings.reset.command with
  | false => rfl
  | true =>
      have faulty : ∃ reason, settings.fault? = some reason := by
        simp only [Settings.fault?, blank, if_true]
        repeat' split
        all_goals exact ⟨_, rfl⟩
      obtain ⟨reason, found⟩ := faulty
      rw [Settings.validate, found] at accepted
      cases accepted

-- Of accepted settings, a trimmed command resets the conversation with any blanks around it, and
-- one that is not trimmed never does. Nothing else does, not even a message without any text.
theorem trimmed_command_resets (settings : Settings) (accepted : settings.validate = .ok settings)
    (provider : Provider) (tools : ToolRegistry) (attached : Attachments) (history : List Message)
    (world : World σ) (state : σ) :
    (Text.trim settings.reset.command = settings.reset.command →
      ∀ before after, Text.isBlank before = true → Text.isBlank after = true →
        Conversation.Resets ⟨settings.attach provider tools attached, history⟩ world
          (before ++ settings.reset.command ++ after) state) ∧
    (∀ content, Text.trim settings.reset.command ≠ settings.reset.command ∨
        Text.trim content ≠ Text.trim settings.reset.command ∨ Text.isBlank content = true →
      Conversation.TakesIn ⟨settings.attach provider tools attached, history⟩ world content
        state) := by
  constructor
  · intro trimmed before after blankBefore blankAfter
    exact Conversation.command_resets _ world _ state
      (Conversation.reset_of_padded _ before after blankBefore blankAfter trimmed)
  · rintro content (padded | different | blank)
    · exact Conversation.other_takes_in _ world content state (.inl padded)
    · exact Conversation.other_takes_in _ world content state (.inr different)
    · refine Conversation.other_takes_in _ world content state (.inr ?_)
      rw [(Text.trim_empty_iff content).mpr blank]
      intro empty
      have told := accepted_command_told settings accepted
      rw [(Text.trim_empty_iff settings.reset.command).mp empty.symm] at told
      cases told

def begun (settings : Settings) : Conversation where
  settings := settings.attach ⟨"model"⟩ {} { sessionId := "s" }
  history := [question]

theorem padded_command_clears :
    ({} : Settings).validate = .ok {} ∧ Text.trim "/reset" = "/reset" ∧
      Text.isBlank "\u3000" = true ∧ Text.isBlank "\n" = true ∧
      (begun {}).Resets scripted ("\u3000" ++ "/reset" ++ "\n") {} ∧
      Text.trim "/reset now" ≠ Text.trim "/reset" ∧
      (begun {}).TakesIn scripted "/reset now" {} := by
  have accepted : ({} : Settings).validate = .ok {} := by decide
  have trimmed : Text.trim "/reset" = "/reset" := by decide
  have different : Text.trim "/reset now" ≠ Text.trim "/reset" := by decide
  obtain ⟨resets, takesIn⟩ := trimmed_command_resets {} accepted ⟨"model"⟩ {} { sessionId := "s" }
    [question] scripted {}
  exact ⟨accepted, trimmed, by decide, by decide,
    resets trimmed "\u3000" "\n" (by decide) (by decide), different,
    takesIn "/reset now" (.inr (.inl different))⟩

def spaced : Settings := { reset := { command := "/reset " } }

def puzzled : Script where
  replies := [.ok (.ofText "What?")]

theorem spaced_command_unknown :
    spaced.validate = .ok spaced ∧
      written (scripted.run ((begun spaced).handle "/reset ") puzzled).trace = ["What?"] ∧
      (scripted.run ((begun spaced).handle "/reset ") puzzled).value.conversation.history =
        [question, .user puzzled.stamp "/reset ", .assistant puzzled.stamp "What?"] ∧
      ¬ (begun spaced).Resets scripted "/reset " puzzled := by
  have told : written (scripted.run ((begun spaced).handle "/reset ") puzzled).trace = ["What?"] :=
    rfl
  refine ⟨by decide, told, rfl, fun resets => ?_⟩
  have acknowledged := told.symm.trans resets.acknowledged
  exact absurd acknowledged (by decide)

end Dialogue
