import Dialogue.Context.Compact
import Dialogue.Proofs.Process.Run

set_option autoImplicit false

namespace Dialogue

namespace Compactor

variable (compactor : Compactor) (systemPrompt : String) (messages : List Message)

def summaryRequest (start : Nat) (asked : Stamp) : ChatRequest :=
  Summary.request asked (messages.take start) compactor.summaryMaxTokens

def summaryReply (start : Nat) (asked : Stamp) (reply : Raced Effect.Reply) : Event :=
  ⟨.chat compactor.provider (compactor.summaryRequest messages start asked), reply⟩

inductive Compaction : List Event → Except Error (List Message) → Prop where
  | untouched (within : compactor.cut? systemPrompt messages = none) :
      Compaction [] (.ok messages)
  | summarized {start : Nat} (asked made : Stamp) (response : ChatResponse)
      (cut : compactor.cut? systemPrompt messages = some start)
      (told : (Text.trim response.content).isEmpty = false) :
      Compaction
        [⟨.stamp, asked⟩, compactor.summaryReply messages start asked (.finished (.ok response)),
          ⟨.stamp, made⟩]
        (.ok (.summary made (Text.trim response.content) :: messages.drop start))
  | dropped {start : Nat} (asked : Stamp) (reply : Raced Effect.Reply) (e : Error)
      (cut : compactor.cut? systemPrompt messages = some start)
      (failed : Summary.ofReply reply = .error e) (other : e.isCancelled = false) :
      Compaction
        [⟨.stamp, asked⟩, compactor.summaryReply messages start asked reply,
          ⟨.log ⟨.warning, "Summarization failed, keeping only the recent window"⟩, ()⟩]
        (.ok (messages.drop start))
  | cancelled {start : Nat} (asked : Stamp) (reply : Option (Raced Effect.Reply))
      (cut : compactor.cut? systemPrompt messages = some start) :
      Compaction
        (⟨.stamp, asked⟩ :: reply.toList.map (compactor.summaryReply messages start asked))
        (.error .cancelled)

end Compactor

-- A cut is made where the recent window begins, unless that is the whole history.
theorem cut_at_window (compactor : Compactor) (systemPrompt : String) (messages : List Message)
    (start : Nat) (cut : compactor.cut? systemPrompt messages = some start) :
    start = recentWindowStart messages compactor.recentMessageCount ∧ start ≠ 0 := by
  rw [Compactor.cut?] at cut
  split at cut
  · cases cut
  · split at cut
    · cases cut
    · dsimp only at cut
      split at cut
      · cases cut
      · cases cut
        exact ⟨rfl, ‹_›⟩

theorem uncut_whole_window (compactor : Compactor) (systemPrompt : String)
    (messages : List Message)
    (whole : recentWindowStart messages compactor.recentMessageCount = 0) :
    compactor.cut? systemPrompt messages = none := by
  cases cut : compactor.cut? systemPrompt messages with
  | none => rfl
  | some start =>
      obtain ⟨rfl, positive⟩ := cut_at_window compactor systemPrompt messages start cut
      exact absurd whole positive

theorem uncut_compaction (compactor : Compactor) (systemPrompt : String)
    (messages : List Message) (trace : List Event) (value : Except Error (List Message))
    (uncut : compactor.cut? systemPrompt messages = none)
    (compaction : compactor.Compaction systemPrompt messages trace value) :
    trace = [] ∧ value = .ok messages := by
  cases compaction with
  | untouched within => exact ⟨rfl, rfl⟩
  | summarized asked made response cut told => simp [uncut] at cut
  | dropped asked reply e cut failed other => simp [uncut] at cut
  | cancelled asked reply cut => simp [uncut] at cut

-- What is left is the whole history or the part behind the cut, with a summary in front or without.
theorem compaction_keeps (compactor : Compactor) (systemPrompt : String)
    (messages : List Message) (trace : List Event) (kept : List Message)
    (compaction : compactor.Compaction systemPrompt messages trace (.ok kept)) :
    kept = messages ∨ ∃ start, compactor.cut? systemPrompt messages = some start ∧
      (kept = messages.drop start ∨ ∃ made text, kept = .summary made text :: messages.drop start) := by
  cases compaction with
  | untouched within => exact .inl rfl
  | summarized asked made response cut told => exact .inr ⟨_, cut, .inr ⟨made, _, rfl⟩⟩
  | dropped asked reply e cut failed other => exact .inr ⟨_, cut, .inl rfl⟩

theorem compaction_requests (compactor : Compactor) (systemPrompt : String)
    (messages : List Message) (trace : List Event) (value : Except Error (List Message))
    (compaction : compactor.Compaction systemPrompt messages trace value) :
    ∀ request ∈ requests trace, ∃ start asked, compactor.cut? systemPrompt messages = some start ∧
      request = compactor.summaryRequest messages start asked := by
  intro request member
  cases compaction with
  | untouched within => cases member
  | summarized asked made response cut told => exact ⟨_, asked, cut, List.mem_singleton.mp member⟩
  | dropped asked reply e cut failed other => exact ⟨_, asked, cut, List.mem_singleton.mp member⟩
  | cancelled asked reply cut =>
      cases reply with
      | none => cases member
      | some reply => exact ⟨_, asked, cut, List.mem_singleton.mp member⟩

theorem of_reply_ok (reply : Raced Effect.Reply) (text : String)
    (told : Summary.ofReply reply = .ok text) :
    ∃ response, reply = .finished (.ok response) ∧ text = Text.trim response.content ∧
      text.isEmpty = false := by
  match reply with
  | .interrupted => cases told
  | .finished (.error e) => cases told
  | .finished (.ok response) =>
      rw [Summary.ofReply] at told
      split at told <;> rename_i blank
      · cases told
      · cases told
        exact ⟨response, rfl, rfl, by simpa using blank⟩

variable {σ : Type} (world : World σ) (compactor : Compactor) (systemPrompt : String)

def Compactor.settle (recent : List Message) :
    Except Error String → Proc (Except Error (List Message))
  | .ok summary => do
    let stamp ← Proc.stamp
    return .ok (.summary stamp summary :: recent)
  | .error e =>
    if e.isCancelled then return .error .cancelled
    else do
      if ← Proc.cancelled then return .error .cancelled
      else
        Proc.warn "Summarization failed, keeping only the recent window"
        return .ok recent

theorem compact_settles (messages : List Message) (start : Nat)
    (cut : compactor.cut? systemPrompt messages = some start) :
    compactor.compact systemPrompt messages = (do
      let stamp ← Proc.stamp
      let reply ← Proc.chat compactor.provider (compactor.summaryRequest messages start stamp)
      Compactor.settle (messages.drop start) (Summary.ofReply reply)) := by
  rw [Compactor.compact, cut]
  simp only [summarize, bind_assoc, pure_bind]
  refine congrArg _ (funext fun stamp => congrArg _ (funext fun reply => ?_))
  cases Summary.ofReply reply <;> rfl

theorem settle_failed (recent : List Message) (e : Error) (state : σ) :
    ((world.run (Compactor.settle recent (.error e)) state).trace = [] ∧
      (world.run (Compactor.settle recent (.error e)) state).value = .error .cancelled) ∨
    e.isCancelled = false ∧
      (world.run (Compactor.settle recent (.error e)) state).trace =
        [⟨.log ⟨.warning, "Summarization failed, keeping only the recent window"⟩, ()⟩] ∧
      (world.run (Compactor.settle recent (.error e)) state).value = .ok recent := by
  rw [Compactor.settle]
  cases e.isCancelled with
  | true => exact .inl ⟨rfl, rfl⟩
  | false =>
      simp only [Bool.false_eq_true, if_false, World.run_bind, World.run_look, Run.andThen,
        List.nil_append]
      cases world.cancelled state with
      | true => exact .inl ⟨rfl, rfl⟩
      | false => exact .inr ⟨trivial, rfl, rfl⟩

theorem run_compact (messages : List Message) (state : σ) :
    compactor.Compaction systemPrompt messages
      (world.run (compactor.compact systemPrompt messages) state).trace
      (world.run (compactor.compact systemPrompt messages) state).value := by
  cases cut : compactor.cut? systemPrompt messages with
  | none =>
      rw [Compactor.compact, cut]
      exact .untouched cut
  | some start =>
      rw [compact_settles compactor systemPrompt messages start cut, World.run_bind, Proc.stamp,
        World.run_heedless world .stamp state rfl (by simp)]
      simp only [Run.andThen, World.run_bind]
      generalize (world.respond .stamp state).1 = asked
      generalize (world.respond .stamp state).2 = asking
      have raced := World.run_racing world
        (.chat compactor.provider (compactor.summaryRequest messages start asked)) asking
        .interrupted rfl
      rw [Proc.chat, raced]
      cases world.cancelled asking with
      | true => exact .cancelled asked none cut
      | false =>
          simp only [Bool.false_eq_true, if_false]
          generalize (world.respond _ asking).1 = reply
          generalize (world.respond _ asking).2 = replied
          cases outcome : Summary.ofReply reply with
          | ok text =>
              obtain ⟨response, rfl, rfl, told⟩ := of_reply_ok reply text outcome
              exact .summarized asked _ response cut told
          | error e =>
              rcases settle_failed world (messages.drop start) e replied with
                ⟨silent, value⟩ | ⟨other, warned, value⟩
              · rw [silent, value]
                exact .cancelled asked (some reply) cut
              · rw [warned, value]
                exact .dropped asked reply e cut outcome other

end Dialogue
