import Smw.Publisher
import Mathlib.Data.List.Flatten

/-! The two overloads of publish compared: one publisher that is given values, and one that
loans a sample for each value, under the same environments. -/
namespace Smw.PublisherOverloads
open Foundation IceoryxWriter Publisher
variable {T : Type}

structure Round (T : Type) where
  value : T
  env : Environment

/-- Whether a round reports an error, and what it hands to DDS and to iceoryx. -/
structure Outcome (T : Type) where
  error : Bool
  dds : List T
  iceoryx : List (Payload T)

def outcome [Inhabited T] (before : IoxState T) (done : Published T) : Outcome T where
  error := done.error.isSome
  dds := done.dds
  iceoryx := done.iox.published.drop before.published.length

def byValue [Inhabited T] (type : DataType T) : IoxState T → List (Round T) → List (Outcome T)
  | _, [] => []
  | iox, round :: rest =>
    let done := publishValue type round.env round.value iox
    outcome iox done :: byValue type done.iox rest

/-- A round that dereferences a null sample has no outcome. -/
def byLoan [Inhabited T] (type : DataType T) : IoxState T → List (Round T) → List (Option (Outcome T))
  | _, [] => []
  | iox, round :: rest =>
    match publishLoaned type round.env round.value iox with
    | some done => some (outcome iox done) :: byLoan type done.iox rest
    | none => none :: byLoan type iox rest

/-- The pool refuses the loan that the round makes. A sample of a dynamic type is loaned from
the heap, and its chunk is loaned when it is written. -/
def loanFails (type : DataType T) (env : Environment) : Bool :=
  match type with
  | .fixed => env.granted.isNone
  | .dynamic _ => env.localQuery.hasLocalConsumer && env.granted.isNone

def compared (type : DataType T) (env : Environment) : Bool :=
  !loanFails type env || env.localQuery.hasLocalConsumer

def comparedOnly {A : Type} (type : DataType T) (rounds : List (Round T)) (outcomes : List A) : List A :=
  ((rounds.zip outcomes).filter (fun pair => compared type pair.1.env)).map Prod.snd

/-- The rounds agree on their errors, and the runs hand over the same values in order. -/
structure Agree (values loans : List (Outcome T)) : Prop where
  errors : values.map Outcome.error = loans.map Outcome.error
  dds : values.flatMap Outcome.dds = loans.flatMap Outcome.dds
  iceoryx : values.flatMap Outcome.iceoryx = loans.flatMap Outcome.iceoryx

/-- Two publishers, each with a pool of its own, agree in the compared rounds. -/
def OverloadsAgree [Inhabited T] (type : DataType T) (first second : IoxState T) (rounds : List (Round T)) : Prop :=
  ∃ loans, comparedOnly type rounds (byLoan type second rounds) = loans.map some ∧
    Agree (comparedOnly type rounds (byValue type first rounds)) loans

/-- Loaning gives a sample that can be assigned to. -/
def sampled (type : DataType T) (env : Environment) : Bool :=
  match type with
  | .fixed => env.granted.isSome
  | .dynamic _ => true

def remoteFails (env : Environment) : Bool := env.remoteQuery.hasRemoteConsumer && !env.ddsWrite

/-- A round with a local consumer has a sample, and does not fail to write to DDS while it
has a chunk. -/
def Steady (type : DataType T) (env : Environment) : Prop :=
  env.localQuery.hasLocalConsumer = true →
    sampled type env = true ∧ ¬ (remoteFails env = true ∧ env.granted.isSome = true)

section Outcomes
variable (type : DataType T) (round : Round T)

def handedToDds : List T := if round.env.remoteQuery.hasRemoteConsumer then [round.value] else []

def handedToIceoryx : List (Payload T) :=
  if round.env.localQuery.hasLocalConsumer then
    round.env.granted.toList.map (fun grant => payloadOf type grant.before round.value)
  else []

def reportsError : Bool :=
  remoteFails round.env || round.env.localQuery.hasLocalConsumer && round.env.granted.isNone

def valueOutcome : Outcome T where
  error := reportsError round
  dds := handedToDds round
  iceoryx := if remoteFails round.env then [] else handedToIceoryx type round

def loanOutcome : Outcome T where
  error := reportsError round
  dds := handedToDds round
  iceoryx := handedToIceoryx type round

theorem publishValue_outcome [Inhabited T] (iox : IoxState T) :
    outcome iox (publishValue type round.env round.value iox) = valueOutcome type round := by
  unfold publishValue writeRemote valueOutcome outcome reportsError remoteFails handedToDds handedToIceoryx
  cases type <;> cases remote : round.env.remoteQuery.hasRemoteConsumer <;>
    cases near : round.env.localQuery.hasLocalConsumer <;> cases granted : round.env.granted <;>
    cases written : round.env.ddsWrite <;>
    simp [loan,write,SamplePtr.ofPtr,SamplePtr.markAsNoHeapAllocated,IoxState.store,IoxState.serialized,
      IoxState.publish,IoxState.dispose,payloadOf]

theorem publishLoaned_unsampled [Inhabited T] (iox : IoxState T) (unsampled : sampled type round.env = false) :
    publishLoaned type round.env round.value iox = none := by
  cases type with
  | dynamic serializer => cases unsampled
  | fixed =>
    have refused : round.env.granted = none := by simpa [sampled] using unsampled
    simp [publishLoaned,loanSample,loan,refused]

theorem publishLoaned_outcome [Inhabited T] (iox : IoxState T) (has_sample : sampled type round.env = true) :
    ∃ done, publishLoaned type round.env round.value iox = some done ∧
      outcome iox done = loanOutcome type round := by
  unfold loanOutcome outcome reportsError remoteFails handedToDds handedToIceoryx publishLoaned loanSample
    publishSample writeRemote
  cases type <;> cases remote : round.env.remoteQuery.hasRemoteConsumer <;>
    cases near : round.env.localQuery.hasLocalConsumer <;> cases granted : round.env.granted <;>
    cases written : round.env.ddsWrite <;>
    simp_all [sampled,loan,write,SamplePtr.ofPtr,SamplePtr.markAsNoHeapAllocated,SamplePtr.release,
      IoxState.store,IoxState.serialized,IoxState.publish,IoxState.dispose,payloadOf]

def loanResult : Option (Outcome T) :=
  if sampled type round.env then some (loanOutcome type round) else none

theorem byValue_eq_map [Inhabited T] (rounds : List (Round T)) (iox : IoxState T) :
    byValue type iox rounds = rounds.map (valueOutcome type) := by
  induction rounds generalizing iox with
  | nil => rfl
  | cons round rest ih => rw [byValue,List.map_cons,publishValue_outcome,ih]

theorem byLoan_eq_map [Inhabited T] (rounds : List (Round T)) (iox : IoxState T) :
    byLoan type iox rounds = rounds.map (loanResult type) := by
  induction rounds generalizing iox with
  | nil => rfl
  | cons round rest ih =>
    rw [byLoan,List.map_cons]
    cases has_sample : sampled type round.env with
    | false =>
      rw [publishLoaned_unsampled type round iox has_sample,loanResult,has_sample]
      simp only [ih,Bool.false_eq_true,if_false]
    | true =>
      obtain ⟨done,returned,same⟩ := publishLoaned_outcome type round iox has_sample
      rw [returned,loanResult,has_sample]
      simp only [ih,same,if_true]

theorem comparedOnly_map {A : Type} (rounds : List (Round T)) (result : Round T → A) :
    comparedOnly type rounds (rounds.map result) =
      (rounds.filter (fun round => compared type round.env)).map result := by
  induction rounds with
  | nil => rfl
  | cons round rest ih =>
    unfold comparedOnly at ih ⊢
    rw [List.map_cons,List.zip_cons_cons,List.filter_cons,List.filter_cons]
    cases compared type round.env with
    | false => exact ih
    | true => exact congrArg (result round :: ·) ih

theorem loanResults_iff (rounds : List (Round T)) (loans : List (Outcome T)) :
    rounds.map (loanResult type) = loans.map some ↔
      (∀ round ∈ rounds, sampled type round.env = true) ∧ loans = rounds.map (loanOutcome type) := by
  constructor
  · intro defined
    induction rounds generalizing loans with
    | nil => simpa using defined.symm
    | cons round rest ih =>
      cases loans with
      | nil => cases defined
      | cons loaned others =>
        obtain ⟨head,tail⟩ := List.cons.inj defined
        unfold loanResult at head
        split at head
        next has_sample =>
          obtain ⟨all_sampled,same⟩ := ih others tail
          refine ⟨List.forall_mem_cons.mpr ⟨has_sample,all_sampled⟩,?_⟩
          rw [List.map_cons,Option.some.inj head,same]
        next => cases head
  · intro defined
    obtain ⟨all_sampled,rfl⟩ := defined
    rw [List.map_map]
    exact List.map_congr_left (fun round member => if_pos (all_sampled round member))

theorem iceoryx_same_iff :
    (valueOutcome type round).iceoryx = (loanOutcome type round).iceoryx ↔
      (round.env.localQuery.hasLocalConsumer = true →
        ¬ (remoteFails round.env = true ∧ round.env.granted.isSome = true)) := by
  unfold valueOutcome loanOutcome handedToIceoryx
  cases remoteFails round.env <;> cases round.env.localQuery.hasLocalConsumer <;>
    cases round.env.granted <;> simp

end Outcomes

/-- Pieces that are left out of a concatenation make it shorter. -/
theorem flatMap_eq_iff {A B : Type} (items : List A) (first second : A → List B)
    (part : ∀ item, (first item).Sublist (second item)) :
    items.flatMap first = items.flatMap second ↔ ∀ item ∈ items, first item = second item := by
  constructor
  · intro same
    induction items with
    | nil => simp
    | cons item rest ih =>
      rw [List.flatMap_cons,List.flatMap_cons] at same
      have lengths := congrArg List.length same
      have shorter := (part item).length_le
      have rest_shorter := (List.Sublist.flatMap_right rest (fun other _ => part other)).length_le
      simp only [List.length_append] at lengths
      have head : first item = second item := (part item).eq_of_length (by omega)
      rw [head] at same
      have tail := ih (List.append_cancel_left same)
      intro other member
      rcases List.mem_cons.mp member with rfl | inside
      · exact head
      · exact tail other inside
  · intro same
    exact List.flatMap_congr same

theorem overloads_agree_iff [Inhabited T] (type : DataType T) (first second : IoxState T) (rounds : List (Round T)) :
    OverloadsAgree type first second rounds ↔ ∀ round ∈ rounds, Steady type round.env := by
  unfold OverloadsAgree
  rw [byLoan_eq_map,byValue_eq_map,comparedOnly_map,comparedOnly_map]
  have part (round : Round T) :
      ((valueOutcome type round).iceoryx).Sublist ((loanOutcome type round).iceoryx) := by
    unfold valueOutcome
    split
    next => exact List.nil_sublist _
    next => exact List.Sublist.refl _
  have iceoryx_iff := flatMap_eq_iff (rounds.filter (fun round => compared type round.env))
    (fun round => (valueOutcome type round).iceoryx) (fun round => (loanOutcome type round).iceoryx) part
  simp only [iceoryx_same_iff] at iceoryx_iff
  constructor
  · intro agree round listed near
    obtain ⟨loans,defined,_,_,iceoryx⟩ := agree
    obtain ⟨all_sampled,rfl⟩ := (loanResults_iff type _ loans).mp defined
    rw [List.flatMap_map,List.flatMap_map] at iceoryx
    have is_compared : compared type round.env = true := by simp [compared,near]
    have inside : round ∈ rounds.filter (fun round => compared type round.env) :=
      List.mem_filter.mpr ⟨listed,is_compared⟩
    exact ⟨all_sampled round inside,iceoryx_iff.mp iceoryx round inside near⟩
  · intro steady
    refine ⟨_,(loanResults_iff type _ _).mpr ⟨?_,rfl⟩,?_,?_,?_⟩
    · intro round member
      obtain ⟨listed,is_compared⟩ := List.mem_filter.mp member
      cases near : round.env.localQuery.hasLocalConsumer with
      | true => exact (steady round listed near).1
      | false =>
        cases type with
        | dynamic serializer => rfl
        | fixed => simpa [compared,loanFails,near,sampled,Option.isSome_iff_ne_none] using is_compared
    · rw [List.map_map,List.map_map]
      rfl
    · rw [List.flatMap_map,List.flatMap_map]
      rfl
    · rw [List.flatMap_map,List.flatMap_map]
      apply iceoryx_iff.mpr
      intro round member near
      exact (steady round (List.mem_filter.mp member).1 near).2

/-- Both consumers are known, the chunk is loaned and the DDS write fails: only the loaned
sample reaches the consumer on the host. -/
theorem failed_remote_write_diverges :
    ¬ OverloadsAgree (.fixed : DataType Nat) {} {} [⟨5,{
      remoteQuery := {remoteConsumers := OrderedSet.emplace OrderedMap.empty ⟨"10.0.0.2/","200"⟩}
      localQuery := {localConsumers := OrderedSet.emplace OrderedMap.empty ⟨"10.0.0.1/","100"⟩}
      ddsWrite := false
      granted := some ⟨0,fun _ => 0⟩}⟩] := by
  intro agree
  obtain ⟨loans,defined,_,_,iceoryx⟩ := agree
  cases loans with
  | nil => cases defined
  | cons loaned others =>
    cases others with
    | cons other rest => cases defined
    | nil =>
      cases defined
      cases iceoryx

end Smw.PublisherOverloads
