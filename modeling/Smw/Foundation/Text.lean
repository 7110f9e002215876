import Mathlib.Data.String.Basic

/-! Texts that are put together from fields with a mark before or after each of them, and
numbers in decimal as such fields. -/
namespace Foundation.Text

/-- The mark does not occur in the field. -/
def Free (mark : Char) (field : String) : Prop := mark ∉ field.toList

def terminated (mark : Char) (fields : List String) : String :=
  String.join (fields.map (fun field => field ++ String.singleton mark))

def preceded (mark : Char) (fields : List String) : String :=
  String.join (fields.map (fun field => String.singleton mark ++ field))

theorem free_append (mark : Char) (first second : String) :
    Free mark (first ++ second) ↔ Free mark first ∧ Free mark second := by
  simp [Free]

section Cuts
variable {A : Type} (mark : A)

/-- What comes before the first mark is determined. -/
theorem cut_unique (first second rest others : List A) (free : mark ∉ first) (free_second : mark ∉ second)
    (same : first ++ mark :: rest = second ++ mark :: others) : first = second ∧ rest = others := by
  induction first generalizing second with
  | nil =>
    cases second with
    | nil => exact ⟨rfl,(List.cons.inj same).2⟩
    | cons head tail =>
      have equal : mark = head := (List.cons.inj same).1
      exact absurd (equal ▸ List.mem_cons_self) free_second
  | cons head tail ih =>
    cases second with
    | nil =>
      have equal : head = mark := (List.cons.inj same).1
      exact absurd (equal ▸ List.mem_cons_self) free
    | cons other remaining =>
      obtain ⟨equal,tails⟩ := List.cons.inj same
      have inside : mark ∉ tail := fun member => free (List.mem_cons_of_mem _ member)
      have outside : mark ∉ remaining := fun member => free_second (List.mem_cons_of_mem _ member)
      obtain ⟨matched,left⟩ := ih remaining inside outside tails
      exact ⟨by rw [equal,matched],left⟩

end Cuts

section Fields
variable (mark : Char)

@[simp] theorem terminated_nil : terminated mark [] = "" := rfl

theorem terminated_cons (field : String) (fields : List String) :
    (terminated mark (field :: fields)).toList = field.toList ++ mark :: (terminated mark fields).toList := by
  simp [terminated,String.toList_join]

theorem terminated_inj (first second : List String) (free : ∀ field ∈ first, Free mark field)
    (free_second : ∀ field ∈ second, Free mark field) :
    terminated mark first = terminated mark second ↔ first = second := by
  constructor
  · intro same
    induction first generalizing second with
    | nil =>
      cases second with
      | nil => rfl
      | cons field fields =>
        have lists := congrArg String.toList same
        rw [terminated_cons] at lists
        simp at lists
    | cons field fields ih =>
      have lists := congrArg String.toList same
      rw [terminated_cons] at lists
      cases second with
      | nil => simp at lists
      | cons other others =>
        rw [terminated_cons] at lists
        obtain ⟨heads,tails⟩ := cut_unique mark _ _ _ _ (free field List.mem_cons_self)
          (free_second other List.mem_cons_self) lists
        have rest := ih others (fun inner member => free inner (List.mem_cons_of_mem _ member))
          (fun inner member => free_second inner (List.mem_cons_of_mem _ member)) (String.toList_inj.mp tails)
        rw [String.toList_inj.mp heads,rest]
  · intro same
    rw [same]

theorem preceded_toList (fields : List String) :
    (preceded mark fields).toList ++ [mark] = mark :: (terminated mark fields).toList := by
  induction fields with
  | nil => rfl
  | cons field fields ih =>
    have unfolded : (preceded mark (field :: fields)).toList =
        mark :: (field.toList ++ (preceded mark fields).toList) := by
      simp [preceded,String.toList_join]
    rw [unfolded,terminated_cons,List.cons_append,List.append_assoc,ih]

theorem preceded_inj (first second : List String) (free : ∀ field ∈ first, Free mark field)
    (free_second : ∀ field ∈ second, Free mark field) :
    preceded mark first = preceded mark second ↔ first = second := by
  constructor
  · intro same
    apply (terminated_inj mark first second free free_second).mp
    apply String.toList_inj.mp
    have left := preceded_toList mark first
    rw [same,preceded_toList mark second] at left
    exact (List.cons.inj left).2.symm
  · intro same
    rw [same]

end Fields

section Decimal

theorem decimal_inj (first second : Nat) : Nat.repr first = Nat.repr second ↔ first = second := by
  constructor
  · intro same
    have digits : Nat.toDigits 10 first = Nat.toDigits 10 second := by
      rw [← Nat.toList_repr,← Nat.toList_repr,same]
    have read := congrArg (fun characters => Nat.ofDigitChars 10 characters 0) digits
    simpa using read
  · intro same
    rw [same]

theorem decimal_free (number : Nat) (mark : Char) (other : mark.isDigit = false) :
    Free mark (Nat.repr number) := by
  intro member
  rw [Nat.toList_repr] at member
  have digit := Nat.isDigit_of_mem_toDigits (by omega) (by omega) member
  rw [other] at digit
  cases digit

theorem decimal_length (number width : Nat) (positive : 0 < width) :
    (Nat.repr number).length ≤ width ↔ number < 10 ^ width := by
  rw [← String.length_toList,Nat.toList_repr]
  exact Nat.length_toDigits_le_iff (by omega) positive

end Decimal
end Foundation.Text
