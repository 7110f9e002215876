import Mathlib.Data.List.Induction

/-! The backlog of a queue that is served one item at a time. It is empty at the end of a
history exactly if no end of the history has more arrivals than services. -/
namespace Foundation.Backlog
variable {L : Type} (arrives serves : L → Bool)

def wait (waiting : Nat) (label : L) : Nat :=
  if arrives label then waiting + 1 else if serves label then waiting - 1 else waiting

def backlog (labels : List L) : Nat := labels.foldl (wait arrives serves) 0

/-- Every end of the history has at most the given number of arrivals more than services. -/
def ServedWithin (slack : Nat) (labels : List L) : Prop :=
  ∀ after, after <:+ labels → after.countP arrives ≤ after.countP serves + slack

@[simp] theorem backlog_nil : backlog arrives serves [] = 0 := rfl

theorem backlog_snoc (labels : List L) (label : L) :
    backlog arrives serves (labels ++ [label]) =
      wait arrives serves (backlog arrives serves labels) label := by
  simp [backlog]

theorem servedWithin_snoc (slack : Nat) (labels : List L) (label : L) :
    ServedWithin arrives serves slack (labels ++ [label]) ↔
      ∀ after, after <:+ labels → after.countP arrives + [label].countP arrives ≤
        after.countP serves + [label].countP serves + slack := by
  constructor
  · intro served after ending
    have longer : after ++ [label] <:+ labels ++ [label] := by
      obtain ⟨before,split⟩ := ending
      exact ⟨before,by rw [← split,List.append_assoc]⟩
    have bound := served (after ++ [label]) longer
    rw [List.countP_append,List.countP_append] at bound
    exact bound
  · intro served after ending
    rcases List.suffix_concat_iff.mp ending with empty | longer
    · simp [empty]
    · obtain ⟨rest,same,before⟩ := longer
      rw [same,List.countP_append,List.countP_append]
      exact served rest before

theorem backlog_le_iff (apart : ∀ label, arrives label = true → serves label = false)
    (labels : List L) (slack : Nat) :
    backlog arrives serves labels ≤ slack ↔ ServedWithin arrives serves slack labels := by
  induction labels using List.reverseRecOn generalizing slack with
  | nil =>
    apply iff_of_true (Nat.zero_le slack)
    intro after ending
    simp [List.suffix_nil.mp ending]
  | append_singleton labels label ih =>
    rw [backlog_snoc,servedWithin_snoc,wait]
    cases arriving : arrives label with
    | true =>
      have unserved := apart label arriving
      cases slack with
      | zero =>
        apply iff_of_false (by simp)
        intro served
        have bound := served [] (List.nil_suffix)
        simp [arriving,unserved] at bound
      | succ slack =>
        simp only [if_true,Nat.add_le_add_iff_right,ih,ServedWithin]
        refine forall_congr' (fun after => forall_congr' (fun _ => ?_))
        simp [arriving,unserved]
        omega
    | false =>
      cases serving : serves label with
      | true =>
        simp only [Bool.false_eq_true,if_false,if_true,Nat.sub_le_iff_le_add,ih,ServedWithin]
        refine forall_congr' (fun after => forall_congr' (fun _ => ?_))
        simp [arriving,serving]
        omega
      | false =>
        simp only [Bool.false_eq_true,if_false,ih,ServedWithin]
        refine forall_congr' (fun after => forall_congr' (fun _ => ?_))
        simp [arriving,serving]

theorem backlog_eq_zero_iff (apart : ∀ label, arrives label = true → serves label = false)
    (labels : List L) :
    backlog arrives serves labels = 0 ↔
      ∀ after, after <:+ labels → after.countP arrives ≤ after.countP serves := by
  rw [← Nat.le_zero,backlog_le_iff arrives serves apart]
  rfl

end Foundation.Backlog
