import Dialogue.Chat.Message

set_option autoImplicit false

namespace Dialogue

structure SessionStore where
  sessions : List (String × List Message) := []

namespace SessionStore

def load (store : SessionStore) (session : String) : List Message :=
  (store.sessions.lookup session).getD []

def save (store : SessionStore) (session : String) (messages : List Message) : SessionStore :=
  ⟨(session, messages) :: store.sessions.filter fun entry => entry.1 ≠ session⟩

theorem lookup_other (session other : String) (different : other ≠ session)
    (sessions : List (String × List Message)) :
    (sessions.filter fun entry => entry.1 ≠ session).lookup other = sessions.lookup other := by
  induction sessions with
  | nil => rfl
  | cons entry rest ih =>
      obtain ⟨key, value⟩ := entry
      by_cases kept : key = session
      · have unequal : (other == key) = false := by simp [kept, different]
        simp only [List.filter_cons, kept, ne_eq, not_true, decide_false, Bool.false_eq_true,
          if_false, List.lookup_cons]
        rw [← kept, unequal]
        simpa [kept] using ih
      · simp only [List.filter_cons, ne_eq, kept, not_false_iff, decide_true, if_true,
          List.lookup_cons]
        simp only [ne_eq] at ih
        rw [ih]

theorem load_save (store : SessionStore) (session other : String) (messages : List Message) :
    (store.save session messages).load other =
      if other = session then messages else store.load other := by
  by_cases same : other = session
  · simp [load, save, same]
  · have unequal : (other == session) = false := by simp [same]
    simp only [load, save, List.lookup_cons, unequal, if_neg same]
    rw [lookup_other session other same]

end SessionStore

end Dialogue
