import Mathlib.Data.List.Basic

/-! Reading from the front of a list. A reader is self-delimiting where the prefix that it
consumes alone decides what it reads; a loop of such a reader runs until the list is empty. -/
namespace Foundation.Reading
variable {A X Y S : Type}

abbrev Reader (A X : Type) := List A → Option (X × List A)

def SelfDelimiting (read : Reader A X) : Prop :=
  ∀ input value rest, read input = some (value,rest) →
    ∃ consumed, input = consumed ++ rest ∧ ∀ more, read (consumed ++ more) = some (value,more)

/-- Every read takes something from the list. -/
def Advances (read : Reader A X) : Prop :=
  ∀ input value rest, read input = some (value,rest) → rest.length < input.length

def andThen (read : Reader A X) (next : X → Reader A Y) : Reader A Y :=
  fun input => (read input).bind (fun (value,rest) => next value rest)

theorem andThen_eq_some (read : Reader A X) (next : X → Reader A Y) (input rest : List A) (value : Y) :
    andThen read next input = some (value,rest) ↔
      ∃ first middle, read input = some (first,middle) ∧ next first middle = some (value,rest) := by
  simp [andThen,Option.bind_eq_some_iff]

theorem andThen_of_read (read : Reader A X) (next : X → Reader A Y) (input middle : List A) (first : X)
    (done : read input = some (first,middle)) : andThen read next input = next first middle := by
  simp [andThen,done]

theorem SelfDelimiting.shortens (read : Reader A X) (delimited : SelfDelimiting read)
    (input rest : List A) (value : X) (done : read input = some (value,rest)) :
    rest.length ≤ input.length := by
  obtain ⟨consumed,split,_⟩ := delimited input value rest done
  rw [split,List.length_append]
  exact Nat.le_add_left _ _

theorem SelfDelimiting.extend (read : Reader A X) (delimited : SelfDelimiting read)
    (input rest more : List A) (value : X) (done : read input = some (value,rest)) :
    read (input ++ more) = some (value,rest ++ more) := by
  obtain ⟨consumed,split,reads⟩ := delimited input value rest done
  rw [split,List.append_assoc]
  exact reads (rest ++ more)

theorem SelfDelimiting.andThen (read : Reader A X) (next : X → Reader A Y)
    (delimited : SelfDelimiting read) (each : ∀ value, SelfDelimiting (next value)) :
    SelfDelimiting (andThen read next) := by
  intro input value rest done
  obtain ⟨first,middle,read_first,read_next⟩ := (andThen_eq_some read next input rest value).mp done
  obtain ⟨consumed,split,reads⟩ := delimited input first middle read_first
  obtain ⟨more_consumed,more_split,more_reads⟩ := each first middle value rest read_next
  refine ⟨consumed ++ more_consumed,?_,?_⟩
  · rw [split,more_split,List.append_assoc]
  · intro more
    rw [List.append_assoc,andThen_of_read read next _ _ first (reads (more_consumed ++ more))]
    exact more_reads more

theorem Advances.andThen (read : Reader A X) (next : X → Reader A Y) (advances : Advances read)
    (each : ∀ value, SelfDelimiting (next value)) : Advances (andThen read next) := by
  intro input value rest done
  obtain ⟨first,middle,read_first,read_next⟩ := (andThen_eq_some read next input rest value).mp done
  have shorter := advances input first middle read_first
  have further := SelfDelimiting.shortens (next first) (each first) middle rest value read_next
  omega

def refuse : Reader A X := fun _ => none

def give (value : X) : Reader A X := fun input => some (value,input)

theorem selfDelimiting_refuse : SelfDelimiting (refuse (A := A) (X := X)) := by
  intro input value rest done
  cases done

/-- What a reader gives that only builds its value from another one's. -/
theorem built_of_andThen (read : Reader A X) (build : X → Y) (input rest : List A) (value : Y)
    (done : andThen read (fun first => give (build first)) input = some (value,rest)) :
    ∃ first, build first = value := by
  obtain ⟨first,middle,_,given⟩ := (andThen_eq_some _ _ _ _ _).mp done
  cases given
  exact ⟨first,rfl⟩

theorem selfDelimiting_give (value : X) : SelfDelimiting (give (A := A) value) := by
  intro input other rest done
  cases done
  exact ⟨[],rfl,fun more => rfl⟩

/-- Takes exactly `size` elements. -/
def exactly (size : Nat) : Reader A (List A) := fun input =>
  if size ≤ input.length then some (input.take size,input.drop size) else none

theorem exactly_append (block rest : List A) : exactly block.length (block ++ rest) = some (block,rest) := by
  simp [exactly]

theorem selfDelimiting_exactly (size : Nat) : SelfDelimiting (exactly (A := A) size) := by
  intro input value rest done
  unfold exactly at done
  split at done
  next room =>
    obtain ⟨rfl,rfl⟩ := Prod.mk.inj (Option.some.inj done)
    refine ⟨input.take size,(List.take_append_drop size input).symm,?_⟩
    intro more
    have whole : (input.take size).length = size := List.length_take_of_le room
    have reads := exactly_append (input.take size) more
    rw [whole] at reads
    exact reads
  next => cases done

section Loop
variable (step : S → Reader A S)

def loop : Nat → S → List A → Option S
  | _, state, [] => some state
  | 0, _, _ :: _ => none
  | fuel + 1, state, head :: tail => (step state (head :: tail)).bind (fun (next,rest) => loop fuel next rest)

/-- The loop with a turn for every element, which is enough where every turn consumes. -/
def run (state : S) (input : List A) : Option S := loop step input.length state input

@[simp] theorem run_nil (state : S) : run step state [] = some state := rfl

variable {step} (advances : ∀ state, Advances (step state))
include advances

theorem loop_enough (fuel : Nat) (state : S) (input : List A) (enough : input.length ≤ fuel) :
    loop step fuel state input = run step state input := by
  induction fuel using Nat.strongRecOn generalizing state input with
  | ind fuel ih =>
    cases input with
    | nil => simp [loop]
    | cons head tail =>
      obtain ⟨turns,rfl⟩ : ∃ turns, fuel = turns + 1 := ⟨fuel - 1,by simp at enough; omega⟩
      rw [run,List.length_cons,loop,loop]
      cases done : step state (head :: tail) with
      | none => rfl
      | some result =>
        obtain ⟨next,rest⟩ := result
        have shorter := advances state (head :: tail) next rest done
        simp only [List.length_cons] at enough shorter
        simp only [Option.bind_some]
        rw [ih turns (by omega) next rest (by omega),ih tail.length (by omega) next rest (by omega)]

theorem run_step (state : S) (input : List A) (nonempty : input ≠ []) :
    run step state input = (step state input).bind (fun (next,rest) => run step next rest) := by
  cases input with
  | nil => exact absurd rfl nonempty
  | cons head tail =>
    rw [run,List.length_cons,loop]
    cases done : step state (head :: tail) with
    | none => rfl
    | some result =>
      obtain ⟨next,rest⟩ := result
      have shorter := advances state (head :: tail) next rest done
      simp only [List.length_cons] at shorter
      exact loop_enough advances tail.length next rest (by omega)

theorem run_of_step (state next : S) (input rest : List A) (done : step state input = some (next,rest)) :
    run step state input = run step next rest := by
  have shorter := advances state input next rest done
  have nonempty : input ≠ [] := by
    intro empty
    simp [empty] at shorter
  rw [run_step advances state input nonempty,done]
  rfl

/-- What every turn keeps, the whole loop keeps. -/
theorem run_invariant (inv : S → Prop)
    (kept : ∀ state input next rest, step state input = some (next,rest) → inv state → inv next)
    (state final : S) (input : List A) (ran : run step state input = some final) (start : inv state) :
    inv final := by
  induction size : input.length using Nat.strongRecOn generalizing state input with
  | ind size ih =>
    rcases eq_or_ne input [] with rfl | nonempty
    · cases ran
      exact start
    · rw [run_step advances state input nonempty] at ran
      obtain ⟨⟨next,rest⟩,done,remaining⟩ := Option.bind_eq_some_iff.mp ran
      have shorter := advances state input next rest done
      exact ih rest.length (by omega) next rest remaining (kept state input next rest done start) rfl

/-- A loop that has read one list goes on with what follows it. -/
theorem run_append (delimited : ∀ state, SelfDelimiting (step state)) (state middle : S)
    (input more : List A) (ran : run step state input = some middle) :
    run step state (input ++ more) = run step middle more := by
  induction size : input.length using Nat.strongRecOn generalizing state input with
  | ind size ih =>
    rcases eq_or_ne input [] with rfl | nonempty
    · cases ran
      rfl
    · rw [run_step advances state input nonempty] at ran
      obtain ⟨⟨next,rest⟩,done,remaining⟩ := Option.bind_eq_some_iff.mp ran
      have extended := SelfDelimiting.extend (step state) (delimited state) input rest more next done
      have shorter := advances state input next rest done
      rw [run_of_step advances state next (input ++ more) (rest ++ more) extended]
      exact ih rest.length (by omega) next rest remaining rfl

end Loop
end Foundation.Reading
