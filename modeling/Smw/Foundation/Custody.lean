import Mathlib.Data.Set.Insert
import Mathlib.Data.List.Nodup
import Mathlib.Logic.Equiv.Basic
import Mathlib.Logic.Function.Basic

/-! Custody of resources. Every outstanding resource should have a holder; a resource is
held by one holder at most and is outstanding while it is held. -/
namespace Foundation

structure Custody (H R : Type) where
  held : H → Option R
  outstanding : Set R
  covered : ∀ holder resource, held holder = some resource → resource ∈ outstanding
  apart : ∀ first second resource, held first = some resource → held second = some resource →
    first = second

namespace Custody
variable {H R : Type}

def none : Custody H R where
  held := fun _ => .none
  outstanding := ∅
  covered := by
    intro holder resource held
    cases held
  apart := by
    intro first second resource held
    cases held

/-- No outstanding resource is without a holder. -/
def Balanced (custody : Custody H R) : Prop :=
  ∀ resource ∈ custody.outstanding, ∃ holder, custody.held holder = some resource

theorem none_balanced : Balanced (none : Custody H R) := by
  intro resource member
  cases member

def orphan (custody : Custody H R) (resource : R) : Custody H R where
  held := custody.held
  outstanding := insert resource custody.outstanding
  covered := fun holder other held => Set.mem_insert_of_mem _ (custody.covered holder other held)
  apart := custody.apart

theorem orphan_unbalanced (custody : Custody H R) (resource : R)
    (fresh : resource ∉ custody.outstanding) : ¬ Balanced (custody.orphan resource) := by
  intro balanced
  obtain ⟨holder,held⟩ := balanced resource (Set.mem_insert _ _)
  exact fresh (custody.covered holder resource held)

/-- What came is what went and what is outstanding, each outstanding resource once. -/
def Settled (custody : Custody H R) (came went : List R) : Prop :=
  ∃ here : List R, came.Perm (went ++ here) ∧ here.Nodup ∧
    ∀ resource, resource ∈ here ↔ resource ∈ custody.outstanding

theorem none_settled : Settled (none : Custody H R) [] [] := by
  refine ⟨[],List.Perm.nil,List.nodup_nil,?_⟩
  intro resource
  exact iff_of_false List.not_mem_nil (Set.notMem_empty resource)

/-- The parts of what came are those of what went, and once those of what is outstanding. -/
theorem Settled.parts {D : Type} [DecidableEq D] {custody : Custody H R} {came went : List R}
    (settled : Settled custody came went) (parts : R → List D)
    (once : ∀ resource ∈ custody.outstanding, (parts resource).Nodup)
    (disjoint : ∀ first ∈ custody.outstanding, ∀ second ∈ custody.outstanding, ∀ part,
      part ∈ parts first → part ∈ parts second → first = second) (part : D) :
    ((∃ resource ∈ custody.outstanding, part ∈ parts resource) →
      (came.flatMap parts).count part = (went.flatMap parts).count part + 1) ∧
    ((∀ resource ∈ custody.outstanding, part ∉ parts resource) →
      (came.flatMap parts).count part = (went.flatMap parts).count part) := by
  obtain ⟨here,same,distinct,exactly⟩ := settled
  have total : (came.flatMap parts).count part =
      (went.flatMap parts).count part + (here.flatMap parts).count part := by
    rw [(same.flatMap_right parts).count_eq,List.flatMap_append,List.count_append]
  have no_twice : (here.flatMap parts).Nodup := by
    refine List.nodup_flatMap.mpr ⟨fun resource member => once resource ((exactly resource).mp member),?_⟩
    apply distinct.imp_of_mem
    intro first second listed also different shared left right
    exact different (disjoint first ((exactly first).mp listed) second ((exactly second).mp also) shared left right)
  constructor
  · intro present
    obtain ⟨resource,outstanding,inside⟩ := present
    have member : part ∈ here.flatMap parts :=
      List.mem_flatMap.mpr ⟨resource,(exactly resource).mpr outstanding,inside⟩
    rw [total,List.count_eq_one_of_mem no_twice member]
  · intro absent
    have missing : part ∉ here.flatMap parts := by
      intro member
      obtain ⟨resource,listed,inside⟩ := List.mem_flatMap.mp member
      exact absent resource ((exactly resource).mp listed) inside
    rw [total,List.count_eq_zero_of_not_mem missing,Nat.add_zero]

variable [DecidableEq H]

/-- Two holders trade what they hold. -/
def exchange (custody : Custody H R) (first second : H) : Custody H R where
  held := custody.held ∘ Equiv.swap first second
  outstanding := custody.outstanding
  covered := fun holder resource held => custody.covered (Equiv.swap first second holder) resource held
  apart := by
    intro holder other resource left right
    apply (Equiv.swap first second).injective
    exact custody.apart _ _ resource left right

theorem exchange_balanced (custody : Custody H R) (first second : H) (balanced : Balanced custody) :
    Balanced (custody.exchange first second) := by
  intro resource member
  obtain ⟨holder,held⟩ := balanced resource member
  refine ⟨Equiv.swap first second holder,?_⟩
  change custody.held (Equiv.swap first second (Equiv.swap first second holder)) = some resource
  rw [Equiv.swap_apply_self]
  exact held

/-- What is read from slots stays so when one slot changes. -/
theorem update_read {P : Type} (held : H → Option R) (slots : H → Option P) (read : P → Option R)
    (same : ∀ holder, held holder = (slots holder).bind read) (changed : H) (value : Option P) (holder : H) :
    Function.update held changed (value.bind read) holder =
      (Function.update slots changed value holder).bind read := by
  by_cases here : holder = changed
  · subst here
    rw [Function.update_self,Function.update_self]
  · rw [Function.update_of_ne here,Function.update_of_ne here,same]

theorem update_some (held : H → Option R) (holder other : H) (value : Option R) (resource : R)
    (found : Function.update held holder value other = some resource) :
    other = holder ∧ value = some resource ∨ other ≠ holder ∧ held other = some resource := by
  by_cases same : other = holder
  · subst same
    rw [Function.update_self] at found
    exact .inl ⟨rfl,found⟩
  · rw [Function.update_of_ne same] at found
    exact .inr ⟨same,found⟩

theorem all_some {P : Type} {good : P → Prop} {given : P} (held : good given) (other : P)
    (same : some given = some other) : good other := by
  cases same
  exact held

/-- What holds of every full slot stays so when one slot changes to something it holds of. -/
theorem update_all {P : Type} (slots : H → Option P) (good : P → Prop)
    (all : ∀ holder value, slots holder = some value → good value) (changed : H) (value : Option P)
    (new : ∀ given, value = some given → good given) (holder : H) (found : P)
    (held : Function.update slots changed value holder = some found) : good found := by
  rcases update_some _ _ _ _ _ held with ⟨_,same⟩ | ⟨_,before⟩
  · exact new found same
  · exact all holder found before

def take (custody : Custody H R) (holder : H) (resource : R) (fresh : resource ∉ custody.outstanding) :
    Custody H R where
  held := Function.update custody.held holder (some resource)
  outstanding := insert resource custody.outstanding
  covered := by
    intro other found held
    rcases update_some _ _ _ _ _ held with ⟨_,same⟩ | ⟨_,before⟩
    · rw [← Option.some.inj same]
      exact Set.mem_insert _ _
    · have known := custody.covered other found before
      exact Set.mem_insert_of_mem _ known
  apart := by
    intro first second found left right
    rcases update_some _ _ _ _ _ left with ⟨here,same⟩ | ⟨_,before⟩
    · rcases update_some _ _ _ _ _ right with ⟨there,_⟩ | ⟨_,earlier⟩
      · exact here.trans there.symm
      · rw [← Option.some.inj same] at earlier
        have known := custody.covered second resource earlier
        exact absurd known fresh
    · rcases update_some _ _ _ _ _ right with ⟨_,same⟩ | ⟨_,earlier⟩
      · rw [← Option.some.inj same] at before
        have known := custody.covered first resource before
        exact absurd known fresh
      · exact custody.apart first second found before earlier

theorem take_balanced (custody : Custody H R) (holder : H) (resource : R)
    (fresh : resource ∉ custody.outstanding) (empty : custody.held holder = .none)
    (balanced : Balanced custody) : Balanced (custody.take holder resource fresh) := by
  intro found member
  rcases Set.mem_insert_iff.mp member with same | before
  · subst same
    exact ⟨holder,Function.update_self _ _ _⟩
  · obtain ⟨other,held⟩ := balanced found before
    have different : other ≠ holder := by
      intro same
      rw [same,empty] at held
      cases held
    exact ⟨other,(Function.update_of_ne different _ _).trans held⟩

/-- A holder lets go of what it holds, and it stays outstanding. -/
def abandon (custody : Custody H R) (holder : H) : Custody H R where
  held := Function.update custody.held holder .none
  outstanding := custody.outstanding
  covered := by
    intro other resource held
    rcases update_some _ _ _ _ _ held with ⟨_,same⟩ | ⟨_,before⟩
    · cases same
    · exact custody.covered other resource before
  apart := by
    intro first second resource left right
    rcases update_some _ _ _ _ _ left with ⟨_,same⟩ | ⟨_,before⟩
    · cases same
    · rcases update_some _ _ _ _ _ right with ⟨_,same⟩ | ⟨_,earlier⟩
      · cases same
      · exact custody.apart first second resource before earlier

theorem abandon_balanced_iff (custody : Custody H R) (holder : H) (balanced : Balanced custody) :
    Balanced (custody.abandon holder) ↔ custody.held holder = .none := by
  constructor
  · intro after
    cases held : custody.held holder with
    | none => rfl
    | some resource =>
      have known := custody.covered holder resource held
      obtain ⟨other,found⟩ := after resource known
      rcases update_some _ _ _ _ _ found with ⟨_,same⟩ | ⟨different,before⟩
      · cases same
      · have equal := custody.apart other holder resource before held
        exact absurd equal different
  · intro empty
    have unchanged : Function.update custody.held holder .none = custody.held := by
      rw [← empty,Function.update_eq_self]
    intro resource member
    obtain ⟨other,held⟩ := balanced resource member
    exact ⟨other,(congrFun unchanged other).trans held⟩

def giveBack (custody : Custody H R) (holder : H) : Custody H R where
  held := Function.update custody.held holder .none
  outstanding := {resource | resource ∈ custody.outstanding ∧ custody.held holder ≠ some resource}
  covered := by
    intro other resource held
    rcases update_some _ _ _ _ _ held with ⟨_,same⟩ | ⟨different,before⟩
    · cases same
    · refine ⟨custody.covered other resource before,?_⟩
      intro also
      have equal := custody.apart other holder resource before also
      exact different equal
  apart := (custody.abandon holder).apart

theorem giveBack_balanced (custody : Custody H R) (holder : H) (balanced : Balanced custody) :
    Balanced (custody.giveBack holder) := by
  intro resource member
  obtain ⟨outstanding,unheld⟩ := member
  obtain ⟨other,held⟩ := balanced resource outstanding
  have different : other ≠ holder := by
    intro same
    exact unheld (same ▸ held)
  exact ⟨other,(Function.update_of_ne different _ _).trans held⟩

/-- One holder hands what it holds to another, which lets go of its own. -/
def hand (custody : Custody H R) (target source : H) : Custody H R where
  held := Function.update (Function.update custody.held source .none) target (custody.held source)
  outstanding := custody.outstanding
  covered := by
    intro other resource held
    rcases update_some _ _ _ _ _ held with ⟨_,same⟩ | ⟨_,before⟩
    · exact custody.covered source resource same
    · exact (custody.abandon source).covered other resource before
  apart := by
    intro first second resource left right
    rcases update_some _ _ _ _ _ left with ⟨here,same⟩ | ⟨_,before⟩
    · rcases update_some _ _ _ _ _ right with ⟨there,_⟩ | ⟨_,earlier⟩
      · exact here.trans there.symm
      · rcases update_some _ _ _ _ _ earlier with ⟨_,gone⟩ | ⟨different,held⟩
        · cases gone
        · have equal := custody.apart second source resource held same
          exact absurd equal different
    · rcases update_some _ _ _ _ _ right with ⟨_,same⟩ | ⟨_,earlier⟩
      · rcases update_some _ _ _ _ _ before with ⟨_,gone⟩ | ⟨different,held⟩
        · cases gone
        · have equal := custody.apart first source resource held same
          exact absurd equal different
      · exact (custody.abandon source).apart first second resource before earlier

/-- Where what is held is read from slots, to hand it over is to move the slot. -/
theorem hand_read {P : Type} (custody : Custody H R) (slots : H → Option P) (read : P → Option R)
    (same : ∀ holder, custody.held holder = (slots holder).bind read) (target source : H) (left : Option P)
    (empty : left.bind read = .none) (holder : H) : (custody.hand target source).held holder =
      (Function.update (Function.update slots source left) target (slots source) holder).bind read := by
  change Function.update (Function.update custody.held source .none) target (custody.held source) holder = _
  have emptied := update_read custody.held slots read same source left
  rw [empty] at emptied
  rw [same source]
  exact update_read _ _ read emptied target (slots source) holder

theorem hand_balanced_iff (custody : Custody H R) (target source : H) (different : target ≠ source)
    (balanced : Balanced custody) :
    Balanced (custody.hand target source) ↔ custody.held target = .none := by
  constructor
  · intro after
    cases held : custody.held target with
    | none => rfl
    | some resource =>
      have known := custody.covered target resource held
      obtain ⟨other,found⟩ := after resource known
      rcases update_some _ _ _ _ _ found with ⟨_,same⟩ | ⟨away,before⟩
      · have equal := custody.apart target source resource held same
        exact absurd equal different
      · rcases update_some _ _ _ _ _ before with ⟨_,gone⟩ | ⟨_,kept⟩
        · cases gone
        · have equal := custody.apart other target resource kept held
          exact absurd equal away
  · intro empty resource member
    obtain ⟨other,held⟩ := balanced resource member
    by_cases same : other = source
    · subst same
      exact ⟨target,(Function.update_self _ _ _).trans held⟩
    · have away : other ≠ target := by
        intro equal
        rw [equal,empty] at held
        cases held
      refine ⟨other,?_⟩
      change Function.update (Function.update custody.held source .none) target _ other = _
      rw [Function.update_of_ne away,Function.update_of_ne same]
      exact held

theorem take_settled (custody : Custody H R) (holder : H) (resource : R)
    (fresh : resource ∉ custody.outstanding) (came went : List R) (settled : Settled custody came went) :
    Settled (custody.take holder resource fresh) (came ++ [resource]) went := by
  obtain ⟨here,same,distinct,exactly⟩ := settled
  refine ⟨resource :: here,?_,List.nodup_cons.mpr ⟨?_,distinct⟩,?_⟩
  · have added := (List.perm_append_singleton resource came).trans (same.cons resource)
    exact added.trans List.perm_middle.symm
  · exact fun member => fresh ((exactly resource).mp member)
  · intro other
    change other ∈ resource :: here ↔ other ∈ insert resource custody.outstanding
    rw [List.mem_cons,Set.mem_insert_iff,exactly]

theorem giveBack_settled [DecidableEq R] (custody : Custody H R) (holder : H) (came went : List R)
    (settled : Settled custody came went) :
    Settled (custody.giveBack holder) came (went ++ (custody.held holder).toList) := by
  obtain ⟨here,same,distinct,exactly⟩ := settled
  have given (other : R) : other ∈ (custody.giveBack holder).outstanding ↔
      other ∈ custody.outstanding ∧ custody.held holder ≠ some other := Iff.rfl
  cases held : custody.held holder with
  | none =>
    refine ⟨here,by simpa using same,distinct,?_⟩
    intro other
    rw [given,held,exactly]
    simp
  | some resource =>
    have member := (exactly resource).mpr (custody.covered holder resource held)
    refine ⟨here.erase resource,?_,distinct.erase resource,?_⟩
    · have split := (List.perm_cons_erase member).append_left went
      rw [Option.toList_some,List.append_assoc,List.singleton_append]
      exact same.trans split
    · intro other
      rw [given,held,distinct.mem_erase_iff,exactly,and_comm]
      simp [eq_comm]

end Custody
end Foundation
