import Dialogue.Proofs.Agent.Rounds
import Dialogue.Session.Conversation
import Dialogue.Session.Store

set_option autoImplicit false

namespace Dialogue

structure Script where
  -- The answers of the model, which fails when they are used up.
  replies : List Effect.Reply := []
  -- What becomes of the texts that are written; afterwards all are delivered.
  deliveries : List (Except ChannelError Unit) := []
  store : SessionStore := {}
  supply : Nat → String := fun index => "call_" ++ toString index
  stamp : Stamp := ⟨"message", .epoch⟩
  cancelled : Bool := false
  toolsCancel : Bool := false

namespace Script

def reply (script : Script) : Effect.Reply := script.replies.headD (.error (.network "down"))

def respond (effect : Effect) (script : Script) : effect.Answer × Script :=
  match effect with
  | .stamp => (script.stamp, script)
  | .callIds => (script.supply, script)
  | .cancelled => (script.cancelled, script)
  | .chat _ _ => (.finished script.reply, { script with replies := script.replies.tail })
  | .chatWithin _ _ _ =>
    (.inTime (.finished script.reply), { script with replies := script.replies.tail })
  | .rule _ _ => (.finished (), script)
  | .approve _ _ => (.finished (.ok .approved), script)
  | .execute _ _ =>
    (.finished (.ok "done"), { script with cancelled := script.cancelled || script.toolsCancel })
  | .load session => (.finished (.ok (script.store.load session)), script)
  | .save session messages => (.ok (), { script with store := script.store.save session messages })
  | .write _ =>
    (script.deliveries.headD (.ok ()), { script with deliveries := script.deliveries.tail })
  | .remember _ => (.ok (), script)
  | .archive _ => ((), script)
  | .reportUsage _ => ((), script)
  | .log _ => ((), script)

end Script

def scripted : World Script where
  cancelled := Script.cancelled
  respond := Script.respond
  cancelled_stays := by
    intro effect script cancelled
    cases effect with
    | execute tool arguments =>
        change script.cancelled = true at cancelled
        change (script.cancelled || script.toolsCancel) = true
        rw [cancelled, Bool.true_or]
    | _ => exact cancelled
  interrupted_cancelled := by
    intro effect script interrupted
    cases effect <;> cases interrupted

def reader : Conversation where
  settings :=
    { sessionId := "s"
      systemPrompt := ""
      agent := { provider := some ⟨"model"⟩, tools := some (.ofTools [⟨⟨"read", "", Json.empty⟩, 0⟩]) }
      compactor := { provider := ⟨"model"⟩, maxContextTokens := 0, recentMessageCount := 20 }
      stored := true }

structure Script.After (first later : Script) : Prop where
  replies : ∀ reply ∈ later.replies, reply ∈ first.replies
  supply : later.supply = first.supply

theorem script_after (first later : Script) (effect : Effect) (after : first.After later) :
    first.After (later.respond effect).2 := by
  obtain ⟨replies, supply⟩ := after
  cases effect with
  | chat | chatWithin =>
      exact ⟨fun reply member => replies reply (List.mem_of_mem_tail member), supply⟩
  | _ => exact ⟨replies, supply⟩

def Script.Answers (script : Script) : Event → Prop
  | ⟨.callIds, supply⟩ => supply = script.supply
  | ⟨.chat _ _, .finished (.ok response)⟩ => .ok response ∈ script.replies
  | _ => True

theorem scripted_answers {α : Type} (script : Script) (process : Proc α) :
    ∀ event ∈ (scripted.run process script).trace, script.Answers event := by
  apply World.run_answers scripted script.After script.Answers
    (fun effect later => script_after script later effect) _ process script
    ⟨fun _ member => member, rfl⟩
  intro effect later after
  cases effect with
  | callIds => exact after.supply
  | chat provider request =>
      change script.Answers ⟨.chat provider request, .finished later.reply⟩
      rw [Script.reply]
      cases left : later.replies with
      | nil => trivial
      | cons reply rest =>
          cases reply with
          | error e => trivial
          | ok response => exact after.replies _ (left ▸ List.mem_cons_self)
  | _ => trivial

theorem scripted_fresh {α : Type} (script : Script) (process : Proc α)
    (fresh : ∀ response, .ok response ∈ script.replies →
      FreshSupply script.supply response.toolCalls) :
    FreshIds (scripted.run process script).trace := by
  intro before provider request response supply after split
  have answers := scripted_answers script process
  have supplied : supply = script.supply := answers ⟨.callIds, supply⟩ (by simp [split])
  have replied : .ok response ∈ script.replies :=
    answers ⟨.chat provider request, .finished (.ok response)⟩ (by simp [split])
  rw [supplied]
  exact fresh response replied

end Dialogue
