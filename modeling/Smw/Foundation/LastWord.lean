import Mathlib.Data.List.Induction

/-! The last word said about a subject in a sequence of messages, and folds whose
observations are decided by it. `speak` is partial: most messages say nothing
about a given subject, and such a message leaves it alone. -/
namespace Foundation.LastWord
variable {M A S : Type}

def lastWord (speak : M → Option A) (messages : List M) : Option A :=
  (messages.filterMap speak).getLast?

@[simp] theorem lastWord_nil (speak : M → Option A) : lastWord speak [] = none := rfl

theorem lastWord_snoc (speak : M → Option A) (messages : List M) (message : M) :
    lastWord speak (messages ++ [message]) = (speak message).or (lastWord speak messages) := by
  cases said : speak message with
  | none => simp [lastWord,said]
  | some word => simp [lastWord,said]

theorem lastWord_append (speak : M → Option A) (first second : List M) :
    lastWord speak (first ++ second) = (lastWord speak second).or (lastWord speak first) := by
  simp [lastWord]

theorem lastWord_eq_none_iff (speak : M → Option A) (messages : List M) :
    lastWord speak messages = none ↔ ∀ message ∈ messages, speak message = none := by
  simp [lastWord]

theorem lastWord_map {B : Type} (speak : M → Option A) (change : A → B) (messages : List M) :
    lastWord (fun message => (speak message).map change) messages =
      (lastWord speak messages).map change := by
  induction messages using List.reverseRecOn with
  | nil => rfl
  | append_singleton messages message ih =>
    rw [lastWord_snoc,lastWord_snoc,ih]
    cases speak message <;> rfl

theorem lastWord_uniform (speak : M → Option A) (messages : List M) (word : A)
    (uniform : ∀ message ∈ messages, ∀ other, speak message = some other → other = word) :
    lastWord speak messages = some word ↔ ∃ message ∈ messages, speak message = some word := by
  constructor
  · intro last
    exact List.mem_filterMap.mp (List.mem_of_getLast? last)
  · intro spoken
    obtain ⟨message,member,said⟩ := spoken
    cases last : lastWord speak messages with
    | none =>
      rw [(lastWord_eq_none_iff speak messages).mp last message member] at said
      cases said
    | some other =>
      obtain ⟨speaker,inside,heard⟩ := List.mem_filterMap.mp (List.mem_of_getLast? last)
      rw [uniform speaker inside other heard]

/-- A fold whose every step sets an observation to what the message speaks of it, and
leaves it alone otherwise, observes the last word said. -/
theorem fold_observes (step : S → M → S) (observe : S → A) (speak : M → Option A)
    (local_step : ∀ state message, observe (step state message) = (speak message).getD (observe state))
    (messages : List M) (state : S) :
    observe (messages.foldl step state) = (lastWord speak messages).getD (observe state) := by
  induction messages using List.reverseRecOn with
  | nil => rfl
  | append_singleton messages message ih =>
    rw [List.foldl_append,List.foldl_cons,List.foldl_nil,local_step,ih,lastWord_snoc]
    cases speak message <;> rfl

theorem fold_settled (step : S → M → S) (observe : S → A) (speak : M → Option A)
    (local_step : ∀ state message, observe (step state message) = (speak message).getD (observe state))
    (messages : List M) (state : S)
    (settled : ∀ message ∈ messages, ∀ word, speak message = some word → word = observe state) :
    observe (messages.foldl step state) = observe state := by
  rw [fold_observes step observe speak local_step]
  cases last : lastWord speak messages with
  | none => rfl
  | some word =>
    obtain ⟨message,member,said⟩ := List.mem_filterMap.mp (List.mem_of_getLast? last)
    exact settled message member word said

theorem observe_repeat (step : S → M → S) (observe : S → A) (speak : M → Option A)
    (local_step : ∀ state message, observe (step state message) = (speak message).getD (observe state))
    (state : S) (message : M) :
    observe (step (step state message) message) = observe (step state message) := by
  rw [local_step,local_step]
  cases speak message <;> rfl

/-- Two messages of which at most one speaks of the subject may be exchanged. -/
theorem observe_swap (step : S → M → S) (observe : S → A) (speak : M → Option A)
    (local_step : ∀ state message, observe (step state message) = (speak message).getD (observe state))
    (state : S) (first second : M) (apart : speak first = none ∨ speak second = none) :
    observe (step (step state first) second) = observe (step (step state second) first) := by
  simp only [local_step]
  rcases apart with silent | silent
  · rw [silent]
    rfl
  · rw [silent]
    rfl

end Foundation.LastWord
