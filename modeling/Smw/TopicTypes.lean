import Smw.FastDDSParticipant
import Mathlib.Logic.Function.Basic

/-! The data types of the topics. A reader decodes with the type support of its topic, which
is the one that the topic was created with; the table knows a topic by its name alone. -/
namespace Smw.TopicTypes
open Foundation Foundation.Execution FastDDSParticipant

/-- The types that the participant of Fast-DDS knows. K stands for the instances of
FastDDSDataType, one for each data type with its serializer. -/
structure Types (K R : Type) where
  typeName : K → String
  initial : R
  registerType : R → K → R
  /-- The type support that a topic is created with, by the name of its type. -/
  findType : R → String → Option K
  /-- register_type leaves a name to the type that has it. -/
  first_stays : ∀ registered type, findType (registerType registered type) (typeName type) =
    some ((findType registered (typeName type)).getD type)

structure TypedState (K R : Type) where
  participant : Participant := {}
  registered : R
  /-- The type support of every topic that was created. -/
  support : Nat → Option K := fun _ => none
  /-- Every call of getTopic, as its type and the topic that it returned. -/
  returned : List (K × Nat) := []

variable {K R : Type} (types : Types K R)

def start : TypedState K R := {registered := types.initial}

def getTopic (type : K) (topicName : String) (state : TypedState K R) : TypedState K R :=
  let (topic,participant) := FastDDSParticipant.getTopic state.participant topicName
  let returned := (type,topic) :: state.returned
  match state.participant.topics.find topicName with
  | some _ => {state with participant := participant,returned := returned}
  | none =>
    let registered := types.registerType state.registered type
    {participant := participant
     registered := registered
     support := Function.update state.support topic (types.findType registered (types.typeName type))
     returned := returned}

def deleteTopic (topicName : String) (state : TypedState K R) : TypedState K R :=
  {state with participant := FastDDSParticipant.deleteTopic state.participant topicName}

inductive Label (K : Type)
  | getTopic (type : K) (topicName : String)
  | deleteTopic (topicName : String)

def step (state : TypedState K R) : Label K → Option (TypedState K R)
  | .getTopic type topicName => some (getTopic types type topicName state)
  | .deleteTopic topicName => some (deleteTopic topicName state)

def CarriesCallersType (state : TypedState K R) : Prop :=
  ∀ call ∈ state.returned, state.support call.2 = some call.1

/-- A call finds a topic of its own type, or none, with the name of its type free or its own. -/
def OneTypeEach (state : TypedState K R) : Label K → Prop
  | .getTopic type topicName =>
    match state.participant.topics.find topicName with
    | some entry => state.support entry.topic = some type
    | none => ∀ other, types.findType state.registered (types.typeName type) = some other → other = type
  | .deleteTopic _ => True

structure Created (state : TypedState K R) : Prop where
  tabled : ∀ topicName entry, state.participant.topics.find topicName = some entry →
    entry.topic < state.participant.created
  returned : ∀ call ∈ state.returned, call.2 < state.participant.created

section Participant
variable (participant : Participant) (topicName : String)

theorem getTopic_found (entry : TopicWithRefCount)
    (found : participant.topics.find topicName = some entry) :
    FastDDSParticipant.getTopic participant topicName = (entry.topic,{participant with
      topics := participant.topics.insert topicName {entry with refCount := entry.refCount + 1}}) := by
  simp only [FastDDSParticipant.getTopic,found]

theorem getTopic_missing (missing : participant.topics.find topicName = none) :
    FastDDSParticipant.getTopic participant topicName = (participant.created,{
      topics := participant.topics.insert topicName ⟨participant.created,1⟩
      created := participant.created + 1
      calls := participant.calls ++ [.createTopic topicName participant.created]}) := by
  simp only [FastDDSParticipant.getTopic,missing]
  rfl

theorem deleteTopic_tabled (other : String) (entry : TopicWithRefCount)
    (found : (FastDDSParticipant.deleteTopic participant topicName).topics.find other = some entry) :
    ∃ earlier, participant.topics.find other = some earlier ∧ earlier.topic = entry.topic := by
  unfold FastDDSParticipant.deleteTopic at found
  cases present : participant.topics.find topicName with
  | none =>
    rw [present] at found
    exact ⟨entry,found,rfl⟩
  | some before =>
    simp only [present] at found
    split at found
    next =>
      rw [OrderedMap.find_erase] at found
      split at found
      next => cases found
      next => exact ⟨entry,found,rfl⟩
    next =>
      rw [OrderedMap.find_insert] at found
      split at found
      next same =>
        cases found
        exact ⟨before,same ▸ present,rfl⟩
      next => exact ⟨entry,found,rfl⟩

theorem deleteTopic_created :
    (FastDDSParticipant.deleteTopic participant topicName).created = participant.created := by
  unfold FastDDSParticipant.deleteTopic
  split
  next => rfl
  next =>
    dsimp only
    split <;> rfl

end Participant

section Steps
variable (state : TypedState K R) (type : K) (topicName : String)

theorem shared_topic (entry : TopicWithRefCount)
    (found : state.participant.topics.find topicName = some entry) :
    getTopic types type topicName state = {state with
      participant := {state.participant with
        topics := state.participant.topics.insert topicName {entry with refCount := entry.refCount + 1}}
      returned := (type,entry.topic) :: state.returned} := by
  simp only [getTopic,getTopic_found _ _ _ found,found]

theorem created_topic (missing : state.participant.topics.find topicName = none) :
    getTopic types type topicName state = {
      participant := {
        topics := state.participant.topics.insert topicName ⟨state.participant.created,1⟩
        created := state.participant.created + 1
        calls := state.participant.calls ++ [.createTopic topicName state.participant.created]}
      registered := types.registerType state.registered type
      support := Function.update state.support state.participant.created
        (some ((types.findType state.registered (types.typeName type)).getD type))
      returned := (type,state.participant.created) :: state.returned} := by
  simp only [getTopic,getTopic_missing _ _ missing,missing,types.first_stays]

theorem step_created (next : TypedState K R) (label : Label K)
    (stepped : step types state label = some next) (created : Created state) : Created next := by
  cases label with
  | deleteTopic topicName =>
    cases stepped
    constructor
    · intro other entry found
      obtain ⟨earlier,before,same⟩ := deleteTopic_tabled _ _ other entry found
      rw [← same]
      exact (created.tabled other earlier before).trans_eq (deleteTopic_created _ _).symm
    · intro call member
      exact (created.returned call member).trans_eq (deleteTopic_created _ _).symm
  | getTopic type topicName =>
    cases stepped
    cases present : state.participant.topics.find topicName with
    | some entry =>
      rw [shared_topic types state type topicName entry present]
      constructor
      · intro other located found
        rw [OrderedMap.find_insert] at found
        split at found
        next =>
          cases found
          exact created.tabled topicName entry present
        next => exact created.tabled other located found
      · intro call member
        rcases List.mem_cons.mp member with rfl | earlier
        · exact created.tabled topicName entry present
        · exact created.returned call earlier
    | none =>
      rw [created_topic types state type topicName present]
      constructor
      · intro other located found
        rw [OrderedMap.find_insert] at found
        split at found
        next =>
          cases found
          exact Nat.lt_succ_self _
        next => exact Nat.lt_succ_of_lt (created.tabled other located found)
      · intro call member
        rcases List.mem_cons.mp member with rfl | earlier
        · exact Nat.lt_succ_self _
        · exact Nat.lt_succ_of_lt (created.returned call earlier)

theorem registered_own_iff (found : Option K) :
    some (found.getD type) = some type ↔ ∀ other, found = some other → other = type := by
  cases found with
  | none => simp
  | some other => simp [eq_comm]

theorem step_carries_iff (next : TypedState K R) (label : Label K)
    (stepped : step types state label = some next) (created : Created state)
    (carries : CarriesCallersType state) : CarriesCallersType next ↔ OneTypeEach types state label := by
  cases label with
  | deleteTopic topicName =>
    cases stepped
    exact iff_of_true carries trivial
  | getTopic type topicName =>
    cases stepped
    cases present : state.participant.topics.find topicName with
    | some entry =>
      rw [shared_topic types state type topicName entry present]
      simp only [CarriesCallersType,OneTypeEach,present,List.forall_mem_cons]
      exact and_iff_left carries
    | none =>
      rw [created_topic types state type topicName present]
      simp only [CarriesCallersType,OneTypeEach,present,List.forall_mem_cons,Function.update_self,
        registered_own_iff]
      -- The topics returned before are older than the one created here.
      refine and_iff_left ?_
      intro call member
      rw [Function.update_of_ne (created.returned call member).ne]
      exact carries call member

end Steps

/-- Every topic returned carries the type of its caller exactly in the runs where no call
finds a topic, or a type name, of another type. -/
theorem topics_carry_callers_type_iff (labels : List (Label K)) :
    Throughout (step types) CarriesCallersType (start types) labels ↔
      Along (step types) (OneTypeEach types) (start types) labels := by
  refine throughout_iff_along (step types) Created CarriesCallersType (OneTypeEach types) ?_ ?_ labels _ ?_ ?_
  · intro state label next stepped created
    exact step_created types state next label stepped created
  · intro state label next stepped created carries
    exact step_carries_iff types state next label stepped created carries
  · constructor
    · intro topicName entry found
      cases found
    · intro call member
      cases member
  · intro call member
    cases member

/-- Two types with the names that protobuf gives them. -/
def searchAndReply : Types Bool (String → Option Bool) where
  typeName := fun type => if type then "SearchRequest" else "SearchResponse"
  initial := fun _ => none
  registerType := fun registered type name =>
    if name = (if type then "SearchRequest" else "SearchResponse") then some ((registered name).getD type)
    else registered name
  findType := fun registered name => registered name
  first_stays := by
    intro registered type
    simp

/-- The name of a topic that was deleted is free for another type. -/
theorem name_taken_over : Throughout (step searchAndReply) CarriesCallersType (start searchAndReply)
    [.getTopic true "/10/1/1",.deleteTopic "/10/1/1",.getTopic false "/10/1/1"] := by
  refine (topics_carry_callers_type_iff searchAndReply _).mpr ?_
  intro first stepped
  cases stepped
  refine ⟨?_,?_⟩
  · intro other found
    cases found
  · intro second deleted
    cases deleted
    refine ⟨trivial,?_⟩
    intro third again
    cases again
    refine ⟨?_,trivial⟩
    intro other found
    cases found

/-- The second call gets the topic that was created for the type of the first. -/
theorem topic_of_another_type :
    ¬ Throughout (step searchAndReply) CarriesCallersType (start searchAndReply)
      [.getTopic true "/10/1/1",.getTopic false "/10/1/1"] := by
  intro all
  have carries := Throughout.final _ _ _ _ _ all rfl
  have second := carries (false,0) List.mem_cons_self
  cases second

end Smw.TopicTypes
