import Smw.Foundation.Execution
import Mathlib.Order.WellFounded

/-! Infinite runs of a partial labelled step in which a moment may pass without one, what
it means for a run to be fair to a kind of step, and ranks that get a run to an event. -/
namespace Foundation.Execution
variable {S L : Type}

structure Run (step : S → L → Option S) where
  state : Nat → S
  label : Nat → Option L
  taken : ∀ time, (label time).elim (some (state time)) (step (state time)) = some (state (time + 1))

namespace Run
variable {step : S → L → Option S}

def past (run : Run step) (time : Nat) : List L := (List.range time).filterMap run.label

def Takes (run : Run step) (event : S → L → Prop) (start : Nat) : Prop :=
  ∃ time ≥ start, ∃ label, run.label time = some label ∧ event (run.state time) label

/-- Where some helpful step can be taken at every moment from one on, one is taken. -/
def Fair (run : Run step) (helpful : L → Prop) : Prop :=
  ∀ start, (∀ time ≥ start, ∃ label, helpful label ∧ (step (run.state time) label).isSome = true) →
    run.Takes (fun _ label => helpful label) start

theorem Takes.earlier {run : Run step} {event : S → L → Prop} {start moment : Nat} (takes : run.Takes event start)
    (before : moment ≤ start) : run.Takes event moment := by
  obtain ⟨time,later,label,labelled,occurs⟩ := takes
  exact ⟨time,by omega,label,labelled,occurs⟩

theorem mem_past (run : Run step) (time : Nat) (label : L) :
    label ∈ run.past time ↔ ∃ moment < time, run.label moment = some label := by
  simp [past]

theorem step_of_label (run : Run step) (time : Nat) (label : L) (labelled : run.label time = some label) :
    step (run.state time) label = some (run.state (time + 1)) := by
  have taken := run.taken time
  rw [labelled] at taken
  exact taken

theorem next_cases (run : Run step) (time : Nat) :
    (run.label time = none ∧ run.state (time + 1) = run.state time) ∨
      ∃ label, run.label time = some label ∧ step (run.state time) label = some (run.state (time + 1)) := by
  cases labelled : run.label time with
  | none =>
    have taken := run.taken time
    rw [labelled] at taken
    exact .inl ⟨rfl,(Option.some.inj taken).symm⟩
  | some label => exact .inr ⟨label,rfl,run.step_of_label time label labelled⟩

theorem exec_past (run : Run step) (time : Nat) :
    exec step (run.state 0) (run.past time) = some (run.state time) := by
  induction time with
  | zero => rfl
  | succ time ih =>
    rw [past,List.range_succ,List.filterMap_append]
    rcases run.next_cases time with ⟨silent,same⟩ | ⟨label,labelled,stepped⟩
    · simp only [List.filterMap_cons,silent,List.filterMap_nil,List.append_nil]
      rw [same]
      exact ih
    · simp only [List.filterMap_cons,labelled,List.filterMap_nil]
      exact (exec_snoc _ _ _ _ _).mpr ⟨run.state time,ih,stepped⟩

/-- The rule for what the allowed steps preserve, where only such steps are taken. -/
theorem invariant (run : Run step) (allowed : L → Prop) (inv : S → Prop)
    (preserved : ∀ state label next, allowed label → step state label = some next → inv state → inv next)
    (start : Nat) (permitted : ∀ time ≥ start, ∀ label, run.label time = some label → allowed label)
    (held : inv (run.state start)) : ∀ time ≥ start, inv (run.state time) := by
  intro time later
  induction time, later using Nat.le_induction with
  | base => exact held
  | succ time later ih =>
    rcases run.next_cases time with ⟨_,same⟩ | ⟨label,labelled,stepped⟩
    · rw [same]
      exact ih
    · exact preserved _ label _ (permitted time later label labelled) stepped ih

/-- Helpful steps are taken again and again. Where no step raises the rank and each helpful
one lowers it, unless it is the event itself, the event takes place. -/
theorem takes_of_rank {A : Type} [Preorder A] [WellFoundedLT A] (run : Run step) (inv : S → Prop)
    (helpful event : S → L → Prop) (rank : S → A)
    (kept : ∀ state label next, step state label = some next → inv state → ¬ event state label →
      rank next ≤ rank state)
    (lowered : ∀ state label next, step state label = some next → inv state → helpful state label →
      ¬ event state label → rank next < rank state)
    (start : Nat) (holds : ∀ time ≥ start, inv (run.state time))
    (often : ∀ time ≥ start, run.Takes helpful time) : run.Takes event start := by
  generalize ranked : rank (run.state start) = bound
  induction bound using WellFoundedLT.induction generalizing start with
  | ind bound ih =>
    by_contra missed
    have away (time : Nat) (later : time ≥ start) (label : L) (labelled : run.label time = some label) :
        ¬ event (run.state time) label :=
      fun occurs => missed ⟨time,later,label,labelled,occurs⟩
    have unraised : ∀ time ≥ start, rank (run.state time) ≤ rank (run.state start) := by
      intro time later
      induction time, later using Nat.le_induction with
      | base => exact le_refl _
      | succ time later earlier =>
        rcases run.next_cases time with ⟨_,same⟩ | ⟨label,labelled,stepped⟩
        · rw [same]
          exact earlier
        · exact (kept _ label _ stepped (holds time later) (away time later label labelled)).trans earlier
    obtain ⟨time,later,label,labelled,helps⟩ := often start (le_refl _)
    have below := lowered _ label _ (run.step_of_label time label labelled) (holds time later) helps
      (away time later label labelled)
    obtain ⟨moment,after,other,taken,occurs⟩ := ih _ (ranked ▸ below.trans_le (unraised time later)) (time + 1)
      (fun later_time passed => holds later_time (by omega)) (fun later_time passed => often later_time (by omega)) rfl
    exact away moment (by omega) other taken occurs

/-- The rule for a goal that a fair run reaches, if helpful steps can be taken until then. -/
theorem eventually_of_rank {A : Type} [Preorder A] [WellFoundedLT A] (run : Run step) (inv goal : S → Prop)
    (helpful : L → Prop) (rank : S → A)
    (enabled : ∀ state, inv state → ¬ goal state →
      ∃ label, helpful label ∧ (step state label).isSome = true)
    (kept : ∀ state label next, step state label = some next → inv state → ¬ goal next →
      rank next ≤ rank state)
    (lowered : ∀ state label next, step state label = some next → inv state → helpful label → ¬ goal next →
      rank next < rank state)
    (fair : run.Fair helpful) (start : Nat) (holds : ∀ time ≥ start, inv (run.state time)) :
    ∃ time ≥ start, goal (run.state time) := by
  by_contra missed
  have away (time : Nat) (later : time ≥ start) : ¬ goal (run.state time) :=
    fun reached => missed ⟨time,later,reached⟩
  have reaches : run.Takes (fun state label => ∃ next, step state label = some next ∧ goal next) start := by
    refine run.takes_of_rank inv (fun _ label => helpful label) _ rank ?_ ?_ start holds ?_
    · intro state label next stepped held short
      exact kept state label next stepped held (fun reached => short ⟨next,stepped,reached⟩)
    · intro state label next stepped held helps short
      exact lowered state label next stepped held helps (fun reached => short ⟨next,stepped,reached⟩)
    · intro time later
      exact fair time (fun moment after => enabled _ (holds moment (by omega)) (away moment (by omega)))
  obtain ⟨time,later,label,labelled,next,stepped,reached⟩ := reaches
  rw [run.step_of_label time label labelled] at stepped
  cases stepped
  exact away (time + 1) (by omega) reached

section Construction
variable (run : Run step) (initial : S) (labels : List L)

/-- A prefix of a run that exists takes its next label to the next prefix. -/
theorem exec_take_succ {final : S} (ran : exec step initial labels = some final) (time : Nat)
    (within : time < labels.length) :
    (some labels[time]).elim (some ((exec step initial (labels.take time)).getD initial))
        (step ((exec step initial (labels.take time)).getD initial)) =
      some ((exec step initial (labels.take (time + 1))).getD initial) := by
  have split := List.take_append_getElem within
  have whole : exec step initial (labels.take (time + 1) ++ labels.drop (time + 1)) = some final := by
    rw [List.take_append_drop]
    exact ran
  obtain ⟨next,reached,_⟩ := (exec_append _ _ _ _ _).mp whole
  have before := reached
  rw [← split] at before
  obtain ⟨state,earlier,stepped⟩ := (exec_snoc _ _ _ _ _).mp before
  rw [reached,earlier]
  exact stepped

def idle (state : S) : Run step := ⟨fun _ => state,fun _ => none,fun _ => rfl⟩

def precede (ran : exec step initial labels = some (run.state 0)) : Run step where
  state time :=
    if time < labels.length then (exec step initial (labels.take time)).getD initial
    else run.state (time - labels.length)
  label time := if time < labels.length then labels[time]? else run.label (time - labels.length)
  taken := by
    intro time
    by_cases within : time < labels.length
    · have stepped := exec_take_succ initial labels ran time within
      simp only [within,if_true,List.getElem?_eq_getElem within]
      by_cases last : time + 1 < labels.length
      · simp only [last,if_true]
        exact stepped
      · have beyond : labels.length = time + 1 := by omega
        rw [List.take_of_length_le (by omega : labels.length ≤ time + 1),ran] at stepped
        simpa [last,beyond] using stepped
    · have later : ¬ time + 1 < labels.length := by omega
      have shifted : time + 1 - labels.length = time - labels.length + 1 := by omega
      simp only [within,later,if_false,shifted]
      exact run.taken (time - labels.length)

/-- A block of steps without end, each round of it from one state to the next. -/
def repeated (block : List L) (round : Nat → S) (some_steps : 0 < block.length)
    (turns : ∀ count, exec step (round count) block = some (round (count + 1))) : Run step where
  state time :=
    (exec step (round (time / block.length)) (block.take (time % block.length))).getD (round (time / block.length))
  label time := block[time % block.length]?
  taken := by
    intro time
    have within : time % block.length < block.length := Nat.mod_lt _ some_steps
    have stepped := exec_take_succ _ block (turns (time / block.length)) _ within
    rw [List.getElem?_eq_getElem within]
    have whole := Nat.div_add_mod time block.length
    by_cases last : time % block.length + 1 = block.length
    · obtain ⟨next_round,start⟩ : (time + 1) / block.length = time / block.length + 1 ∧
          (time + 1) % block.length = 0 := by
        rw [Nat.div_mod_unique some_steps,Nat.mul_add]
        omega
      rw [last,List.take_length,turns] at stepped
      rw [next_round,start]
      exact stepped
    · obtain ⟨same_round,next⟩ : (time + 1) / block.length = time / block.length ∧
          (time + 1) % block.length = time % block.length + 1 := by
        rw [Nat.div_mod_unique some_steps]
        omega
      rw [same_round,next]
      exact stepped

end Construction

theorem precede_before (run : Run step) (initial : S) (labels : List L)
    (ran : exec step initial labels = some (run.state 0)) (time : Nat) (within : time < labels.length) :
    (run.precede initial labels ran).state time = (exec step initial (labels.take time)).getD initial ∧
      (run.precede initial labels ran).label time = labels[time]? := by
  simp only [precede,if_pos within,and_self]

theorem precede_after (run : Run step) (initial : S) (labels : List L)
    (ran : exec step initial labels = some (run.state 0)) (time : Nat) :
    (run.precede initial labels ran).state (time + labels.length) = run.state time ∧
      (run.precede initial labels ran).label (time + labels.length) = run.label time := by
  have beyond : ¬ time + labels.length < labels.length := by omega
  simp only [precede,if_neg beyond,Nat.add_sub_cancel,and_self]

theorem precede_past (run : Run step) (initial : S) (labels : List L)
    (ran : exec step initial labels = some (run.state 0)) (time : Nat) (within : time ≤ labels.length) :
    (run.precede initial labels ran).past time = labels.take time := by
  induction time with
  | zero => rfl
  | succ time ih =>
    have inside : time < labels.length := within
    rw [past,List.range_succ,List.filterMap_append]
    change (run.precede initial labels ran).past time ++ _ = _
    rw [ih (by omega)]
    simp [(run.precede_before initial labels ran time inside).2,List.getElem?_eq_getElem inside]

theorem precede_takes (run : Run step) (initial : S) (labels : List L)
    (ran : exec step initial labels = some (run.state 0)) (event : S → L → Prop)
    (often : ∀ start, run.Takes event start) (start : Nat) : (run.precede initial labels ran).Takes event start := by
  obtain ⟨time,later,label,labelled,occurs⟩ := often start
  obtain ⟨state,next⟩ := run.precede_after initial labels ran time
  refine ⟨time + labels.length,by omega,label,next.trans labelled,?_⟩
  rw [state]
  exact occurs

theorem repeated_start (block : List L) (round : Nat → S) (some_steps : 0 < block.length)
    (turns : ∀ count, exec step (round count) block = some (round (count + 1))) :
    (repeated block round some_steps turns).state 0 = round 0 := by
  simp [repeated]

/-- What occurs at one place of the block occurs again and again. -/
theorem repeated_takes (block : List L) (round : Nat → S) (some_steps : 0 < block.length)
    (turns : ∀ count, exec step (round count) block = some (round (count + 1))) (event : S → L → Prop)
    (index : Nat) (label : L) (placed : block[index]? = some label)
    (occurs : ∀ count state, exec step (round count) (block.take index) = some state → event state label)
    (start : Nat) : (repeated block round some_steps turns).Takes event start := by
  have within : index < block.length := (List.getElem?_eq_some_iff.mp placed).1
  obtain ⟨count,place⟩ : (index + block.length * start) / block.length = start ∧
      (index + block.length * start) % block.length = index := by
    rw [Nat.div_mod_unique some_steps]
    exact ⟨rfl,within⟩
  have later : start ≤ index + block.length * start :=
    (Nat.le_mul_of_pos_left start some_steps).trans (Nat.le_add_left _ _)
  have whole : exec step (round start) (block.take index ++ block.drop index) = some (round (start + 1)) := by
    rw [List.take_append_drop]
    exact turns start
  obtain ⟨state,reached,_⟩ := (exec_append _ _ _ _ _).mp whole
  refine ⟨index + block.length * start,later,label,?_,?_⟩
  · simpa [repeated,place] using placed
  · simp only [repeated,count,place,reached,Option.getD_some]
    exact occurs start state reached

/-- A finite run that comes to rest is fair to every kind of step that cannot be taken at its end. -/
theorem precede_idle_fair (initial final : S) (labels : List L) (ran : exec step initial labels = some final)
    (helpful : L → Prop) (ended : ∀ label, helpful label → step final label = none) :
    ((idle final).precede initial labels ran).Fair helpful := by
  intro start always
  obtain ⟨label,helps,enabled⟩ := always (start + labels.length) (by omega)
  rw [((idle final).precede_after initial labels ran start).1] at enabled
  have stuck : step ((idle final : Run step).state start) label = none := ended label helps
  rw [stuck] at enabled
  cases enabled

end Run
end Foundation.Execution
