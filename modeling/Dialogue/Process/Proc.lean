import Dialogue.Process.Effect

set_option autoImplicit false

namespace Dialogue

inductive Proc (α : Type) where
  | done (value : α)
  | perform (effect : Effect) (next : effect.Answer → Proc α)

namespace Proc

variable {α β γ : Type}

def bind : Proc α → (α → Proc β) → Proc β
  | done value, f => f value
  | perform effect next, f => perform effect fun answer => (next answer).bind f

instance : Monad Proc where
  pure := done
  bind := bind

theorem bind_done (p : Proc α) : p.bind done = p := by
  induction p with
  | done value => rfl
  | perform effect next ih => simp only [bind, ih]

theorem bind_assoc (p : Proc α) (f : α → Proc β) (g : β → Proc γ) :
    (p.bind f).bind g = p.bind fun value => (f value).bind g := by
  induction p with
  | done value => rfl
  | perform effect next ih => simp only [bind, ih]

instance : LawfulMonad Proc := LawfulMonad.mk' Proc bind_done (fun _ _ => rfl) bind_assoc

def effect (e : Effect) : Proc e.Answer := perform e done

def stamp : Proc Stamp := effect .stamp
def callIds : Proc (Nat → String) := effect .callIds
def cancelled : Proc Bool := effect .cancelled
def chat (provider : Provider) (request : ChatRequest) : Proc (Raced Effect.Reply) :=
  effect (.chat provider request)
def chatWithin (limit : Nat) (provider : Provider) (request : ChatRequest) :
    Proc (Timed (Raced Effect.Reply)) :=
  effect (.chatWithin limit provider request)
def rule (decision : ApprovalDecision) (request : ApprovalRequest) : Proc (Raced Unit) :=
  effect (.rule decision request)
def approve (desk : Nat) (request : ApprovalRequest) :
    Proc (Raced (Except ToolError ApprovalDecision)) :=
  effect (.approve desk request)
def execute (tool : Tool) (arguments : Json) : Proc (Raced (Except ToolError String)) :=
  effect (.execute tool arguments)
def load (session : String) : Proc (Raced (Except SessionError (List Message))) :=
  effect (.load session)
def save (session : String) (messages : List Message) : Proc (Except SessionError Unit) :=
  effect (.save session messages)
def write (text : String) : Proc (Except ChannelError Unit) := effect (.write text)
def remember (entry : MemoryEntry) : Proc (Except MemoryError Unit) := effect (.remember entry)
def archive (job : ArchiveJob) : Proc Unit := effect (.archive job)
def reportUsage (total : TokenUsage) : Proc Unit := effect (.reportUsage total)
def warn (text : String) : Proc Unit := effect (.log ⟨.warning, text⟩)
def logError (text : String) : Proc Unit := effect (.log ⟨.error, text⟩)

end Proc

end Dialogue
