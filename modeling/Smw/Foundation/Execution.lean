import Mathlib.Data.List.Induction

/-! Executions of a partial labelled step, and the rules that carry a step fact
to a whole run. A label fixes every choice of a step, so a run is its labels. -/
namespace Foundation.Execution
variable {S L : Type}

def exec (step : S → L → Option S) : S → List L → Option S
  | state, [] => some state
  | state, label :: rest => (step state label).bind (fun next => exec step next rest)

@[simp] theorem exec_nil (step : S → L → Option S) (state : S) : exec step state [] = some state := rfl

theorem exec_cons (step : S → L → Option S) (state final : S) (label : L) (rest : List L) :
    exec step state (label :: rest) = some final ↔
      ∃ next, step state label = some next ∧ exec step next rest = some final :=
  Option.bind_eq_some_iff

theorem exec_append (step : S → L → Option S) (state final : S) (first second : List L) :
    exec step state (first ++ second) = some final ↔
      ∃ middle, exec step state first = some middle ∧ exec step middle second = some final := by
  induction first generalizing state with
  | nil => simp
  | cons label rest ih =>
    simp only [List.cons_append,exec_cons,ih]
    constructor
    · intro ran
      obtain ⟨next,stepped,middle,left,right⟩ := ran
      exact ⟨middle,⟨next,stepped,left⟩,right⟩
    · intro ran
      obtain ⟨middle,⟨next,stepped,left⟩,right⟩ := ran
      exact ⟨next,stepped,middle,left,right⟩

theorem exec_snoc (step : S → L → Option S) (state final : S) (labels : List L) (label : L) :
    exec step state (labels ++ [label]) = some final ↔
      ∃ middle, exec step state labels = some middle ∧ step middle label = some final := by
  simp [exec_append,exec_cons]

theorem exec_invariant (step : S → L → Option S) (inv : S → Prop)
    (preserved : ∀ state label next, step state label = some next → inv state → inv next)
    (labels : List L) (state final : S) (ran : exec step state labels = some final)
    (start : inv state) : inv final := by
  induction labels generalizing state with
  | nil =>
    cases ran
    exact start
  | cons label rest ih =>
    obtain ⟨next,stepped,remaining⟩ := (exec_cons step state final label rest).mp ran
    exact ih next remaining (preserved state label next stepped start)

theorem exec_allowed (step : S → L → Option S) (allowed : L → Prop) (inv : S → Prop)
    (preserved : ∀ state label next, allowed label → step state label = some next →
      inv state → inv next)
    (labels : List L) (permitted : ∀ label ∈ labels, allowed label) (state final : S)
    (ran : exec step state labels = some final) (start : inv state) : inv final := by
  induction labels generalizing state with
  | nil =>
    cases ran
    exact start
  | cons label rest ih =>
    obtain ⟨next,stepped,remaining⟩ := (exec_cons step state final label rest).mp ran
    have first := preserved state label next (permitted label (by simp)) stepped start
    exact ih (fun other member => permitted other (by simp [member])) next remaining first

/-- The rule for invariants that relate a state to the labels that led to it. -/
theorem exec_history (step : S → L → Option S) (inv : List L → S → Prop) (initial : S)
    (start : inv [] initial)
    (extend : ∀ past state label next, step state label = some next → inv past state →
      inv (past ++ [label]) next)
    (labels : List L) (final : S) (ran : exec step initial labels = some final) :
    inv labels final := by
  induction labels using List.reverseRecOn generalizing final with
  | nil =>
    cases ran
    exact start
  | append_singleton past label ih =>
    obtain ⟨middle,before,stepped⟩ := (exec_snoc step initial final past label).mp ran
    exact extend past middle label final stepped (ih middle before)

/-- Two systems that answer every label alike have the same runs. -/
theorem exec_lockstep {T : Type} (first : S → L → Option S) (second : T → L → Option T)
    (related : S → T → Prop)
    (alike : ∀ state other label, related state other →
      Option.Rel related (first state label) (second other label))
    (labels : List L) (state : S) (other : T) (start : related state other) :
    Option.Rel related (exec first state labels) (exec second other labels) := by
  induction labels generalizing state other with
  | nil => exact .some start
  | cons label rest ih =>
    have answers := alike state other label start
    unfold exec
    cases left : first state label with
    | none =>
      rw [left] at answers
      cases right : second other label with
      | none => exact .none
      | some next =>
        rw [right] at answers
        cases answers
    | some next =>
      rw [left] at answers
      cases right : second other label with
      | none =>
        rw [right] at answers
        cases answers
      | some matching =>
        rw [right] at answers
        cases answers with
        | some same => exact ih next matching same

/-- The run takes a step of the given kind. -/
def Sometime (step : S → L → Option S) (event : S → L → Prop) (initial : S) (labels : List L) : Prop :=
  ∃ before label after state, labels = before ++ label :: after ∧
    exec step initial before = some state ∧ event state label

theorem not_sometime_nil (step : S → L → Option S) (event : S → L → Prop) (initial : S) :
    ¬ Sometime step event initial [] := by
  intro sometime
  obtain ⟨before,label,after,state,split,_⟩ := sometime
  simp at split

theorem sometime_snoc (step : S → L → Option S) (event : S → L → Prop) (initial state : S)
    (past : List L) (label : L) (ran : exec step initial past = some state) :
    Sometime step event initial (past ++ [label]) ↔ Sometime step event initial past ∨ event state label := by
  constructor
  · intro sometime
    obtain ⟨before,happened,after,middle,split,reached,occurs⟩ := sometime
    rcases List.eq_nil_or_concat after with rfl | ⟨rest,last,rfl⟩
    · obtain ⟨rfl,same⟩ := List.append_inj' split rfl
      cases same
      cases Option.some.inj (ran.symm.trans reached)
      exact .inr occurs
    · have longer : past ++ [label] = (before ++ happened :: rest) ++ [last] := by simp [split]
      have same := (List.append_inj' longer rfl).1
      exact .inl ⟨before,happened,rest,middle,same,reached,occurs⟩
  · intro either
    rcases either with sometime | occurs
    · obtain ⟨before,happened,after,middle,split,reached,occurs⟩ := sometime
      exact ⟨before,happened,after ++ [label],middle,by simp [split],reached,occurs⟩
    · exact ⟨past,label,[],state,rfl,ran,occurs⟩

/-- The run takes a step of the given kind and no resetting one after that. -/
def SinceLast (step : S → L → Option S) (event : S → L → Prop) (reset : L → Prop) (initial : S)
    (labels : List L) : Prop :=
  ∃ before label after state, labels = before ++ label :: after ∧
    exec step initial before = some state ∧ event state label ∧ ∀ other ∈ after, ¬ reset other

theorem sinceLast_snoc (step : S → L → Option S) (event : S → L → Prop) (reset : L → Prop) (initial state : S)
    (past : List L) (label : L) (ran : exec step initial past = some state) :
    SinceLast step event reset initial (past ++ [label]) ↔
      event state label ∨ ¬ reset label ∧ SinceLast step event reset initial past := by
  constructor
  · intro since
    obtain ⟨before,happened,after,middle,split,reached,occurs,kept⟩ := since
    rcases List.eq_nil_or_concat after with rfl | ⟨rest,last,rfl⟩
    · obtain ⟨rfl,same⟩ := List.append_inj' split rfl
      cases same
      cases Option.some.inj (ran.symm.trans reached)
      exact .inl occurs
    · have longer : past ++ [label] = (before ++ happened :: rest) ++ [last] := by simp [split]
      obtain ⟨same,final⟩ := List.append_inj' longer rfl
      cases final
      exact .inr ⟨kept label (by simp),before,happened,rest,middle,same,reached,occurs,
        fun other member => kept other (by simp [member])⟩
  · intro either
    rcases either with occurs | ⟨kept,before,happened,after,middle,split,reached,occurs,quiet⟩
    · exact ⟨past,label,[],state,rfl,ran,occurs,by simp⟩
    · refine ⟨before,happened,after ++ [label],middle,by simp [split],reached,occurs,?_⟩
      intro other member
      rcases List.mem_append.mp member with earlier | last
      · exact quiet other earlier
      · rw [List.mem_singleton.mp last]
        exact kept

def Throughout (step : S → L → Option S) (good : S → Prop) : S → List L → Prop
  | state, [] => good state
  | state, label :: rest =>
    good state ∧ ∀ next, step state label = some next → Throughout step good next rest

/-- Every step that the run takes meets the guard at the state it is taken in. -/
def Along (step : S → L → Option S) (guard : S → L → Prop) : S → List L → Prop
  | _, [] => True
  | state, label :: rest =>
    ∀ next, step state label = some next → guard state label ∧ Along step guard next rest

theorem not_sometime_of_along (step : S → L → Option S) (event : S → L → Prop) (labels : List L)
    (initial final : S) (ran : exec step initial labels = some final)
    (calm : Along step (fun state label => ¬ event state label) initial labels) :
    ¬ Sometime step event initial labels := by
  intro sometime
  obtain ⟨before,label,after,state,split,reached,occurs⟩ := sometime
  subst split
  induction before generalizing initial with
  | nil =>
    cases reached
    obtain ⟨next,stepped,_⟩ := (exec_cons step _ final label after).mp ran
    exact (calm next stepped).1 occurs
  | cons first rest ih =>
    obtain ⟨next,stepped,remaining⟩ := (exec_cons step initial final first _).mp ran
    obtain ⟨next',stepped',earlier⟩ := (exec_cons step initial state first rest).mp reached
    cases Option.some.inj (stepped.symm.trans stepped')
    exact ih next earlier remaining (calm next stepped).2

theorem Throughout.start (step : S → L → Option S) (good : S → Prop) (state : S) (labels : List L)
    (all : Throughout step good state labels) : good state := by
  cases labels with
  | nil => exact all
  | cons label rest => exact all.1

theorem Throughout.final (step : S → L → Option S) (good : S → Prop) (labels : List L)
    (state final : S) (all : Throughout step good state labels)
    (ran : exec step state labels = some final) : good final := by
  induction labels generalizing state with
  | nil =>
    cases ran
    exact all
  | cons label rest ih =>
    obtain ⟨next,stepped,remaining⟩ := (exec_cons step state final label rest).mp ran
    exact ih next (all.2 next stepped) remaining

theorem Throughout.imp (step : S → L → Option S) (good better : S → Prop)
    (implied : ∀ state, good state → better state) (labels : List L) (state : S)
    (all : Throughout step good state labels) : Throughout step better state labels := by
  induction labels generalizing state with
  | nil => exact implied state all
  | cons label rest ih => exact ⟨implied state all.1,fun next stepped => ih next (all.2 next stepped)⟩

theorem throughout_of_along (step : S → L → Option S) (guard : S → L → Prop) (inv : S → Prop)
    (preserved : ∀ state label next, step state label = some next → guard state label →
      inv state → inv next)
    (labels : List L) (state : S) (guarded : Along step guard state labels) (start : inv state) :
    Throughout step inv state labels := by
  induction labels generalizing state with
  | nil => exact start
  | cons label rest ih =>
    refine ⟨start,?_⟩
    intro next stepped
    obtain ⟨allowed,remaining⟩ := guarded next stepped
    exact ih next remaining (preserved state label next stepped allowed start)

/-- Where a step out of a good state is good exactly under the guard, the good
runs are exactly the guarded ones; `aux` holds as long as the states are good. -/
theorem throughout_iff_along_within (step : S → L → Option S) (aux good : S → Prop)
    (guard : S → L → Prop)
    (kept : ∀ state label next, step state label = some next → aux state → good state → good next →
      aux next)
    (exact_guard : ∀ state label next, step state label = some next → aux state → good state →
      (good next ↔ guard state label))
    (labels : List L) (state : S) (sound : aux state) (start : good state) :
    Throughout step good state labels ↔ Along step guard state labels := by
  induction labels generalizing state with
  | nil => exact iff_of_true start trivial
  | cons label rest ih =>
    constructor
    · intro all next stepped
      have reached := Throughout.start step good next rest (all.2 next stepped)
      exact ⟨(exact_guard state label next stepped sound start).mp reached,
        (ih next (kept state label next stepped sound start reached) reached).mp (all.2 next stepped)⟩
    · intro guarded
      refine ⟨start,?_⟩
      intro next stepped
      obtain ⟨allowed,remaining⟩ := guarded next stepped
      have reached := (exact_guard state label next stepped sound start).mpr allowed
      exact (ih next (kept state label next stepped sound start reached) reached).mpr remaining

/-- The rule for an `aux` that holds in every state in any case. -/
theorem throughout_iff_along (step : S → L → Option S) (aux good : S → Prop)
    (guard : S → L → Prop)
    (kept : ∀ state label next, step state label = some next → aux state → aux next)
    (exact_guard : ∀ state label next, step state label = some next → aux state → good state →
      (good next ↔ guard state label))
    (labels : List L) (state : S) (sound : aux state) (start : good state) :
    Throughout step good state labels ↔ Along step guard state labels :=
  throughout_iff_along_within step aux good guard
    (fun state label next stepped held _ _ => kept state label next stepped held)
    exact_guard labels state sound start

end Foundation.Execution
