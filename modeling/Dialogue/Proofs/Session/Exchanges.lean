import Dialogue.Process.World
import Dialogue.Session.Conversation

set_option autoImplicit false

namespace Dialogue

variable {σ : Type}

structure Exchange (σ : Type) where
  content : String
  world : World σ
  meanwhile : σ → σ

structure Exchanged (σ : Type) where
  exchange : Exchange σ
  conversation : Conversation
  state : σ

namespace Exchanged

def run (done : Exchanged σ) : Run σ Handled :=
  done.exchange.world.run (done.conversation.handle done.exchange.content) done.state

def next (done : Exchanged σ) : Conversation := done.run.value.conversation

end Exchanged

def Conversation.converse (conversation : Conversation) :
    List (Exchange σ) → σ → List (Exchanged σ)
  | [], _ => []
  | exchange :: rest, state =>
    let done : Exchanged σ := ⟨exchange, conversation, exchange.meanwhile state⟩
    done :: done.next.converse rest done.run.state

def Conversation.leaves (conversation : Conversation) : List (Exchange σ) → σ → Conversation × σ
  | [], state => (conversation, state)
  | exchange :: rest, state =>
    let done : Exchanged σ := ⟨exchange, conversation, exchange.meanwhile state⟩
    done.next.leaves rest done.run.state

theorem converse_keeps (inv : Conversation → σ → Prop) (exchanges : List (Exchange σ))
    (outside : ∀ exchange ∈ exchanges, ∀ conversation state, inv conversation state →
      inv conversation (exchange.meanwhile state))
    (handled : ∀ done : Exchanged σ, done.exchange ∈ exchanges → inv done.conversation done.state →
      inv done.next done.run.state)
    (conversation : Conversation) (state : σ) (starts : inv conversation state) :
    (∀ done ∈ conversation.converse exchanges state,
        done.exchange ∈ exchanges ∧ inv done.conversation done.state) ∧
      inv (conversation.leaves exchanges state).1 (conversation.leaves exchanges state).2 := by
  induction exchanges generalizing conversation state with
  | nil => exact ⟨by simp [Conversation.converse], starts⟩
  | cons exchange rest ih =>
      rw [Conversation.converse, Conversation.leaves, List.forall_mem_cons]
      have comes := outside exchange List.mem_cons_self conversation state starts
      obtain ⟨later, last⟩ := ih
        (fun other later => outside other (List.mem_cons_of_mem _ later))
        (fun other later => handled other (List.mem_cons_of_mem _ later)) _ _
        (handled ⟨exchange, conversation, exchange.meanwhile state⟩ List.mem_cons_self comes)
      refine ⟨⟨⟨List.mem_cons_self, comes⟩, ?_⟩, last⟩
      intro done member
      obtain ⟨known, kept⟩ := later done member
      exact ⟨List.mem_cons_of_mem _ known, kept⟩

end Dialogue
