import Dialogue.Proofs.Agent.Approval

set_option autoImplicit false

namespace Dialogue

variable {σ : Type}

structure Errand (σ : Type) where
  call : ToolCall
  attempts : List (Moment σ)

variable (world : World σ) (setup : LoopSetup)

structure Errand.Settled (errand : Errand σ) (result : Message) : Prop where
  answers : ResultOf errand.call result
  walked : Walked world setup errand.call errand.attempts (some result.content)

-- The results settle the first of the calls, one by one and in the order of the attempts. What is
-- left of these was made for a call that has no result.
structure Accounts (calls : List ToolCall) (attempts : List (Moment σ)) (results : List Message)
    (errands : List (Errand σ)) (left : List (Moment σ)) : Prop where
  called : SameButIds (errands.map Errand.call) (calls.take errands.length)
  attempted : attempts = errands.flatMap Errand.attempts ++ left
  settled : List.Forall₂ (Errand.Settled world setup) errands results

def Abandoned (left : List (Moment σ)) : Prop :=
  left = [] ∨ ∃ call, Walked world setup call left none

variable {world setup}

theorem accounts_nothing (calls : List ToolCall) (left : List (Moment σ)) :
    Accounts world setup calls left [] [] left :=
  ⟨.nil, rfl, .nil⟩

theorem accounts_append {calls more : List ToolCall} {attempts others left : List (Moment σ)}
    {results later : List Message} {errands further : List (Errand σ)}
    (first : Accounts world setup calls attempts results errands [])
    (whole : errands.length = calls.length)
    (rest : Accounts world setup more others later further left) :
    Accounts world setup (calls ++ more) (attempts ++ others) (results ++ later)
      (errands ++ further) left := by
  refine ⟨?_, ?_, List.rel_append first.settled rest.settled⟩
  · have same := first.called
    rw [whole, List.take_length] at same
    rw [List.map_append, List.length_append, whole, List.take_length_add_append]
    exact List.rel_append same rest.called
  · rw [first.attempted, rest.attempted, List.append_nil, List.flatMap_append, List.append_assoc]

-- By induction on the walk, for calls that were given other IDs for it.
theorem walk_accounts {calls requested : List ToolCall} {attempts : List (Moment σ)}
    {texts : List String} {all : Bool} (walk : Walk world setup calls attempts texts all)
    (assigned : SameButIds calls requested) (results : List Message)
    (same : results.map (·.content) = texts)
    (answers : List.Forall₂ ResultOf (calls.take results.length) results) :
    ∃ errands left, Accounts world setup requested attempts results errands left ∧
      Abandoned world setup left ∧
      (all = true → left = [] ∧ errands.length = requested.length) := by
  induction walk generalizing requested results with
  | done =>
      cases assigned
      obtain rfl := List.map_eq_nil_iff.mp same
      exact ⟨[], [], accounts_nothing [] [], .inl rfl, fun _ => ⟨rfl, rfl⟩⟩
  | @onward call calls attempts later text texts all first rest ih =>
      cases results with
      | nil => cases same
      | cons result results =>
          obtain ⟨rfl, texts⟩ := List.cons.inj same
          rw [List.length_cons, List.take_succ_cons, List.forall₂_cons] at answers
          cases assigned with
          | @cons _ asked _ others one more =>
              obtain ⟨errands, left, accounts, abandoned, whole⟩ := ih more results texts answers.2
              have settled : Accounts world setup [asked] attempts [result] [⟨call, attempts⟩] [] :=
                ⟨.cons one .nil, by simp, .cons ⟨answers.1, first⟩ .nil⟩
              refine ⟨⟨call, attempts⟩ :: errands, left, accounts_append settled rfl accounts,
                abandoned, ?_⟩
              intro complete
              exact ⟨(whole complete).1, congrArg Nat.succ (whole complete).2⟩
  | @stopped call calls attempts last =>
      obtain rfl := List.map_eq_nil_iff.mp same
      exact ⟨[], attempts, accounts_nothing requested attempts, .inr ⟨call, last⟩, by simp⟩

theorem course_accounts {replies : List ChatResponse} {attempts : List (Moment σ)}
    {appended : List Message} {outcome : Except Error ChatResponse}
    (course : Course world setup replies attempts appended outcome) :
    ∃ errands left, Accounts world setup (replies.flatMap (·.toolCalls)) attempts
        (appended.filter Message.isTool) errands left ∧
      Abandoned world setup left := by
  induction course with
  | unanswered e => exact ⟨[], [], accounts_nothing _ [], .inl rfl⟩
  | answered stamp response final =>
      refine ⟨[], [], ?_, .inl rfl⟩
      rw [answer_no_results]
      exact accounts_nothing _ []
  | stopped stamp called assigned answers walk =>
      obtain ⟨supply, rfl⟩ := assigned
      obtain ⟨errands, left, accounts, abandoned, _⟩ :=
        walk_accounts walk (assigned_same supply 0 [] _) _ rfl answers
      rw [results_of_round stamp _ _ _ _ answers, List.flatMap_cons, List.flatMap_nil,
        List.append_nil]
      exact ⟨errands, left, accounts, abandoned⟩
  | onward stamp called assigned answers walk rest ih =>
      obtain ⟨supply, rfl⟩ := assigned
      obtain ⟨further, left, later, abandoned⟩ := ih
      obtain ⟨errands, nothing, accounts, _, whole⟩ :=
        walk_accounts walk (assigned_same supply 0 [] _) _ rfl
          (by rwa [← answers.length_eq, List.take_length])
      obtain ⟨rfl, all⟩ := whole rfl
      rw [List.filter_append, results_of_round stamp _ _ _ _ answers, List.flatMap_cons]
      exact ⟨errands ++ further, left, accounts_append accounts all later, abandoned⟩

variable (world setup)

theorem loop_accounts (loop : ConversationLoop) (systemPrompt : String) (history : List Message)
    (state : σ) (configured : loop.setup systemPrompt = .ok setup) :
    ∃ appended errands left,
      (world.run (loop.run systemPrompt history) state).value.history = history ++ appended ∧
        Accounts world setup (requested (world.run (loop.run systemPrompt history) state).trace)
          (world.attempts (loop.run systemPrompt history) state)
          (appended.filter Message.isTool) errands left ∧
        Abandoned world setup left := by
  obtain ⟨appended, outcome, kept, course, _⟩ :=
    loop_course world setup loop systemPrompt history state configured
  obtain ⟨errands, left, accounts, abandoned⟩ := course_accounts course
  exact ⟨appended, errands, left, kept, accounts, abandoned⟩

end Dialogue
