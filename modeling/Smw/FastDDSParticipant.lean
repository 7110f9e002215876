import Smw.Foundation.OrderedMap
import Smw.Foundation.Execution
import Mathlib.Data.String.Basic

/-! The topics of the participant, which readers and writers of Fast-DDS share. The table
counts the users of a topic in a signed integer of 16 bits. -/
namespace Smw.FastDDSParticipant
open Foundation Foundation.Execution

structure TopicWithRefCount where
  topic : Nat
  refCount : Int16 := 0
deriving DecidableEq

/-- A call to the participant of Fast-DDS. -/
inductive Call
  | createTopic (topicName : String) (topic : Nat)
  | deleteTopic (topicName : String) (topic : Nat)
deriving DecidableEq

/-- Every topic that Fast-DDS creates is a new one. -/
structure Participant where
  topics : OrderedMap String TopicWithRefCount := OrderedMap.empty
  created : Nat := 0
  calls : List Call := []

def getTopic (participant : Participant) (topicName : String) : Nat × Participant :=
  match participant.topics.find topicName with
  | some entry =>
    (entry.topic,{participant with
      topics := participant.topics.insert topicName {entry with refCount := entry.refCount + 1}})
  | none =>
    let entry : TopicWithRefCount := ⟨participant.created,0⟩
    (entry.topic,{
      topics := participant.topics.insert topicName {entry with refCount := entry.refCount + 1}
      created := participant.created + 1
      calls := participant.calls ++ [.createTopic topicName entry.topic]})

def deleteTopic (participant : Participant) (topicName : String) : Participant :=
  match participant.topics.find topicName with
  | none => participant
  | some entry =>
    let refCount := entry.refCount - 1
    if refCount ≤ 0 then
      {participant with
        topics := participant.topics.erase topicName
        calls := participant.calls ++ [.deleteTopic topicName entry.topic]}
    else {participant with topics := participant.topics.insert topicName {entry with refCount := refCount}}

inductive Endpoint
  | reader
  | writer
deriving DecidableEq

/-- A live FastDDSReader or FastDDSWriter, with the topic that it got. -/
structure User where
  endpoint : Endpoint
  topicName : String
  topic : Nat
deriving DecidableEq

structure TopicState where
  participant : Participant := {}
  users : List User := []

inductive Label
  | construct (endpoint : Endpoint) (topicName : String)
  | destroy (user : User)
deriving DecidableEq

/-- None where the object to destroy is not alive. -/
def step (state : TopicState) : Label → Option TopicState
  | .construct endpoint topicName =>
    let (topic,participant) := getTopic state.participant topicName
    some {participant := participant,users := ⟨endpoint,topicName,topic⟩ :: state.users}
  | .destroy user =>
    if user ∈ state.users then
      some {participant := deleteTopic state.participant user.topicName,users := state.users.erase user}
    else none

/-- What a step does, by what the table has under the name. -/
inductive Move (state next : TopicState) : Label → Prop
  | shared (endpoint topicName entry)
      (found : state.participant.topics.find topicName = some entry)
      (topics : next.participant.topics =
        state.participant.topics.insert topicName {entry with refCount := entry.refCount + 1})
      (calls : next.participant.calls = state.participant.calls)
      (users : next.users = ⟨endpoint,topicName,entry.topic⟩ :: state.users) :
      Move state next (.construct endpoint topicName)
  | created (endpoint topicName topic) (missing : state.participant.topics.find topicName = none)
      (topics : next.participant.topics = state.participant.topics.insert topicName ⟨topic,1⟩)
      (calls : next.participant.calls = state.participant.calls ++ [.createTopic topicName topic])
      (users : next.users = ⟨endpoint,topicName,topic⟩ :: state.users) :
      Move state next (.construct endpoint topicName)
  | ignored (user) (live : user ∈ state.users)
      (missing : state.participant.topics.find user.topicName = none) : Move state next (.destroy user)
  | deleted (user entry) (live : user ∈ state.users)
      (found : state.participant.topics.find user.topicName = some entry)
      (exhausted : entry.refCount - 1 ≤ 0)
      (topics : next.participant.topics = state.participant.topics.erase user.topicName)
      (calls : next.participant.calls =
        state.participant.calls ++ [.deleteTopic user.topicName entry.topic])
      (users : next.users = state.users.erase user) : Move state next (.destroy user)
  | kept (user entry) (live : user ∈ state.users)
      (found : state.participant.topics.find user.topicName = some entry)
      (positive : ¬ entry.refCount - 1 ≤ 0)
      (topics : next.participant.topics =
        state.participant.topics.insert user.topicName {entry with refCount := entry.refCount - 1})
      (calls : next.participant.calls = state.participant.calls)
      (users : next.users = state.users.erase user) : Move state next (.destroy user)

theorem step_move (state next : TopicState) (label : Label) (stepped : step state label = some next) :
    Move state next label := by
  cases label with
  | construct endpoint topicName =>
    cases found : state.participant.topics.find topicName with
    | some entry =>
      simp only [step,getTopic,found] at stepped
      cases stepped
      exact .shared endpoint topicName entry found rfl rfl rfl
    | none =>
      simp only [step,getTopic,found] at stepped
      cases stepped
      exact .created endpoint topicName _ found rfl rfl rfl
  | destroy user =>
    simp only [step,deleteTopic] at stepped
    split at stepped
    next live =>
      cases found : state.participant.topics.find user.topicName with
      | none => exact .ignored user live found
      | some entry =>
        simp only [found] at stepped
        split at stepped
        next exhausted =>
          cases stepped
          exact .deleted user entry live found exhausted rfl rfl rfl
        next positive =>
          cases stepped
          exact .kept user entry live found positive rfl rfl rfl
    next => cases stepped

section Property

def usersOf (users : List User) (topicName : String) : Nat :=
  users.countP (fun user => user.topicName = topicName)

/-- The topic of a name that is created and not deleted; no result where the calls do not
create and delete the topics of the name in turn. -/
def turn (topicName : String) : Option (Option Nat) → Call → Option (Option Nat)
  | some none,.createTopic name topic => if name = topicName then some (some topic) else some none
  | some (some topic),.createTopic name _ => if name = topicName then none else some (some topic)
  | some none,.deleteTopic name _ => if name = topicName then none else some none
  | some (some topic),.deleteTopic name deleted =>
    if name = topicName then if deleted = topic then some none else none else some (some topic)
  | none,_ => none

def openTopic (topicName : String) (calls : List Call) : Option (Option Nat) :=
  calls.foldl (turn topicName) (some none)

/-- The life of every topic follows its users. -/
structure FollowsUsers (state : TopicState) : Prop where
  entry_iff : ∀ topicName, (state.participant.topics.find topicName).isSome = true ↔
    ∃ user ∈ state.users, user.topicName = topicName
  shared : ∀ first ∈ state.users, ∀ second ∈ state.users, first.topicName = second.topicName →
    first.topic = second.topic
  in_turn : ∀ topicName, openTopic topicName state.participant.calls =
    some ((state.participant.topics.find topicName).map TopicWithRefCount.topic)
  alive : ∀ user ∈ state.users, openTopic user.topicName state.participant.calls = some (some user.topic)

/-- A destruction leaves no other user of the topic, or a number of them that the counter
shows as positive. -/
def Countable (state : TopicState) : Label → Prop
  | .construct _ _ => True
  | .destroy user =>
    let remaining := usersOf (state.users.erase user) user.topicName
    remaining = 0 ∨ 1 ≤ remaining % 65536 ∧ remaining % 65536 ≤ 32767

def Counted (state : TopicState) : Prop :=
  ∀ topicName entry, state.participant.topics.find topicName = some entry →
    entry.refCount = Int16.ofNat (usersOf state.users topicName)

end Property

theorem refCount_down (remaining : Nat) : Int16.ofNat (remaining + 1) - 1 = Int16.ofNat remaining := by
  rw [Int16.ofNat_add]
  exact Int16.add_sub_cancel _ _

theorem refCount_exhausted (remaining : Nat) :
    Int16.ofNat remaining ≤ 0 ↔ remaining % 65536 = 0 ∨ 32768 ≤ remaining % 65536 := by
  rw [Int16.le_iff_toInt_le,Int16.toInt_ofNat']
  simp only [Int.bmod,Int16.size,Int16.toInt_zero]
  omega

@[simp] theorem openTopic_snoc (topicName : String) (calls : List Call) (call : Call) :
    openTopic topicName (calls ++ [call]) = turn topicName (openTopic topicName calls) call := by
  simp [openTopic]

theorem usersOf_cons (users : List User) (user : User) (topicName : String) :
    usersOf (user :: users) topicName = usersOf users topicName + if user.topicName = topicName then 1 else 0 := by
  simp [usersOf,List.countP_cons]

theorem usersOf_erase (users : List User) (user : User) (member : user ∈ users) (topicName : String) :
    usersOf users topicName =
      usersOf (users.erase user) topicName + if user.topicName = topicName then 1 else 0 := by
  rw [← usersOf_cons]
  exact (List.perm_cons_erase member).countP_eq _

theorem usersOf_pos_iff (users : List User) (topicName : String) :
    0 < usersOf users topicName ↔ ∃ user ∈ users, user.topicName = topicName := by
  simp [usersOf,List.countP_pos_iff]

theorem followsUsers_of_alive (state : TopicState)
    (entry_iff : ∀ topicName, (state.participant.topics.find topicName).isSome = true ↔
      ∃ user ∈ state.users, user.topicName = topicName)
    (in_turn : ∀ topicName, openTopic topicName state.participant.calls =
      some ((state.participant.topics.find topicName).map TopicWithRefCount.topic))
    (alive : ∀ user ∈ state.users,
      openTopic user.topicName state.participant.calls = some (some user.topic)) :
    FollowsUsers state where
  entry_iff := entry_iff
  shared := by
    intro first listed second also same
    have left := alive first listed
    rw [same,alive second also] at left
    exact (Option.some.inj (Option.some.inj left)).symm
  in_turn := in_turn
  alive := alive

section Construction
variable (state next : TopicState) (user : User) (entry : TopicWithRefCount)
variable (topics : next.participant.topics = state.participant.topics.insert user.topicName entry)
variable (users : next.users = user :: state.users)
include topics users

theorem constructed_entries (follows : FollowsUsers state) (name : String) :
    (next.participant.topics.find name).isSome = true ↔ ∃ other ∈ next.users, other.topicName = name := by
  have before := follows.entry_iff name
  rw [topics,users,OrderedMap.find_insert]
  split
  next equal => simp [equal]
  next different => simp [before,Ne.symm different]

theorem constructed_counted (counted : Counted state)
    (one_more : entry.refCount = Int16.ofNat (usersOf state.users user.topicName + 1)) : Counted next := by
  intro name other located
  rw [topics,OrderedMap.find_insert] at located
  rw [users,usersOf_cons]
  split at located
  next equal =>
    cases located
    rw [if_pos equal.symm,equal]
    exact one_more
  next different =>
    rw [if_neg (Ne.symm different)]
    exact counted name other located

end Construction

section Steps
variable (state : TopicState) (follows : FollowsUsers state) (counted : Counted state)
include follows counted

theorem shared_follows (endpoint : Endpoint) (topicName : String) (entry : TopicWithRefCount)
    (found : state.participant.topics.find topicName = some entry) (next : TopicState)
    (topics : next.participant.topics =
      state.participant.topics.insert topicName {entry with refCount := entry.refCount + 1})
    (calls : next.participant.calls = state.participant.calls)
    (users : next.users = ⟨endpoint,topicName,entry.topic⟩ :: state.users) :
    FollowsUsers next ∧ Counted next := by
  have entries := constructed_entries state next ⟨endpoint,topicName,entry.topic⟩ _ topics users follows
  refine ⟨followsUsers_of_alive next entries ?_ ?_,?_⟩
  · intro name
    rw [calls,follows.in_turn,topics,OrderedMap.find_insert]
    split
    next equal => simp [equal,found]
    next => rfl
  · intro user member
    rw [calls]
    rw [users] at member
    rcases List.mem_cons.mp member with rfl | listed
    · simp [follows.in_turn,found]
    · exact follows.alive user listed
  · refine constructed_counted state next ⟨endpoint,topicName,entry.topic⟩ _ topics users counted ?_
    dsimp only
    rw [Int16.ofNat_add,← counted topicName entry found]
    rfl

theorem created_follows (endpoint : Endpoint) (topicName : String)
    (missing : state.participant.topics.find topicName = none) (next : TopicState) (topic : Nat)
    (topics : next.participant.topics = state.participant.topics.insert topicName ⟨topic,1⟩)
    (calls : next.participant.calls = state.participant.calls ++ [.createTopic topicName topic])
    (users : next.users = ⟨endpoint,topicName,topic⟩ :: state.users) :
    FollowsUsers next ∧ Counted next := by
  have unused : ∀ user ∈ state.users, user.topicName ≠ topicName := by
    intro user member same
    have present := (follows.entry_iff topicName).mpr ⟨user,member,same⟩
    rw [missing] at present
    cases present
  have nobody : usersOf state.users topicName = 0 := by
    by_contra somebody
    obtain ⟨user,member,same⟩ := (usersOf_pos_iff _ _).mp (Nat.pos_of_ne_zero somebody)
    exact unused user member same
  have closed := follows.in_turn topicName
  rw [missing] at closed
  have entries := constructed_entries state next ⟨endpoint,topicName,topic⟩ _ topics users follows
  refine ⟨followsUsers_of_alive next entries ?_ ?_,?_⟩
  · intro name
    rw [calls,openTopic_snoc,topics,OrderedMap.find_insert,follows.in_turn]
    split
    next equal => simp [equal,missing,turn]
    next different =>
      cases state.participant.topics.find name <;> simp [turn,Ne.symm different]
  · intro user member
    rw [users] at member
    rw [calls,openTopic_snoc]
    rcases List.mem_cons.mp member with rfl | listed
    · simp [closed,turn]
    · simp [follows.alive user listed,turn,Ne.symm (unused user listed)]
  · refine constructed_counted state next ⟨endpoint,topicName,topic⟩ _ topics users counted ?_
    dsimp only
    rw [nobody]
    rfl

theorem kept_follows (user : User) (live : user ∈ state.users) (entry : TopicWithRefCount)
    (found : state.participant.topics.find user.topicName = some entry) (next : TopicState)
    (remains : 0 < usersOf (state.users.erase user) user.topicName)
    (topics : next.participant.topics =
      state.participant.topics.insert user.topicName {entry with refCount := entry.refCount - 1})
    (calls : next.participant.calls = state.participant.calls)
    (users : next.users = state.users.erase user) : FollowsUsers next ∧ Counted next := by
  have fewer := usersOf_erase state.users user live
  refine ⟨followsUsers_of_alive next ?_ ?_ ?_,?_⟩
  · intro name
    rw [topics,users,OrderedMap.find_insert,← usersOf_pos_iff]
    split
    next equal => simp [equal,remains]
    next different =>
      have same := fewer name
      rw [if_neg (Ne.symm different)] at same
      rw [follows.entry_iff,← usersOf_pos_iff,same,Nat.add_zero]
  · intro name
    rw [calls,follows.in_turn,topics,OrderedMap.find_insert]
    split
    next equal => simp [equal,found]
    next => rfl
  · intro other member
    rw [users] at member
    rw [calls]
    exact follows.alive other (List.mem_of_mem_erase member)
  · intro name other located
    have same := fewer name
    rw [topics,OrderedMap.find_insert] at located
    rw [users]
    split at located
    next equal =>
      cases located
      have before := counted user.topicName entry found
      rw [if_pos equal.symm,equal] at same
      rw [same] at before
      rw [before,refCount_down,equal]
    next different =>
      rw [if_neg (Ne.symm different),Nat.add_zero] at same
      rw [← same]
      exact counted name other located

theorem deleted_follows (user : User) (live : user ∈ state.users) (entry : TopicWithRefCount)
    (found : state.participant.topics.find user.topicName = some entry) (next : TopicState)
    (last : usersOf (state.users.erase user) user.topicName = 0)
    (topics : next.participant.topics = state.participant.topics.erase user.topicName)
    (calls : next.participant.calls =
      state.participant.calls ++ [.deleteTopic user.topicName entry.topic])
    (users : next.users = state.users.erase user) : FollowsUsers next ∧ Counted next := by
  have fewer := usersOf_erase state.users user live
  refine ⟨followsUsers_of_alive next ?_ ?_ ?_,?_⟩
  · intro name
    rw [topics,users,OrderedMap.find_erase,← usersOf_pos_iff]
    split
    next equal => simp [equal,last]
    next different =>
      have same := fewer name
      rw [if_neg (Ne.symm different)] at same
      rw [follows.entry_iff,← usersOf_pos_iff,same,Nat.add_zero]
  · intro name
    rw [calls,openTopic_snoc,topics,OrderedMap.find_erase,follows.in_turn]
    split
    next equal => simp [equal,found,turn]
    next different =>
      cases state.participant.topics.find name <;> simp [turn,Ne.symm different]
  · intro other member
    rw [users] at member
    have different : user.topicName ≠ other.topicName := by
      intro same
      have counted_other := (usersOf_pos_iff _ _).mpr ⟨other,member,same.symm⟩
      omega
    rw [calls,openTopic_snoc,follows.alive other (List.mem_of_mem_erase member)]
    simp [turn,different]
  · intro name other located
    have same := fewer name
    rw [topics,OrderedMap.find_erase] at located
    rw [users]
    split at located
    next => cases located
    next different =>
      rw [if_neg (Ne.symm different),Nat.add_zero] at same
      rw [← same]
      exact counted name other located

/-- A step keeps the topics with their users exactly if the counter still shows the users
that remain. -/
theorem step_follows_iff (next : TopicState) (label : Label) (stepped : step state label = some next) :
    (FollowsUsers next ↔ Countable state label) ∧ (FollowsUsers next → Counted next) := by
  cases step_move state next label stepped with
  | shared endpoint topicName entry found topics calls users =>
    have both := shared_follows state follows counted endpoint topicName entry found next topics calls users
    exact ⟨iff_of_true both.1 trivial,fun _ => both.2⟩
  | created endpoint topicName topic missing topics calls users =>
    have both := created_follows state follows counted endpoint topicName missing next topic topics calls users
    exact ⟨iff_of_true both.1 trivial,fun _ => both.2⟩
  | ignored user live missing =>
    have present := (follows.entry_iff user.topicName).mpr ⟨user,live,rfl⟩
    rw [missing] at present
    cases present
  | deleted user entry live found exhausted topics calls users =>
    have remaining := usersOf_erase state.users user live user.topicName
    rw [if_pos rfl] at remaining
    rw [counted user.topicName entry found,remaining,refCount_down,refCount_exhausted] at exhausted
    by_cases last : usersOf (state.users.erase user) user.topicName = 0
    · have both := deleted_follows state follows counted user live entry found next last topics calls users
      exact ⟨iff_of_true both.1 (.inl last),fun _ => both.2⟩
    · have broken : ¬ FollowsUsers next := by
        intro after
        have orphaned := (usersOf_pos_iff _ _).mp (Nat.pos_of_ne_zero last)
        rw [← users] at orphaned
        have present := (after.entry_iff user.topicName).mpr orphaned
        rw [topics,OrderedMap.find_erase,if_pos rfl] at present
        cases present
      refine ⟨iff_of_false broken ?_,fun after => absurd after broken⟩
      intro countable
      rcases countable with none_left | shown
      · exact last none_left
      · omega
  | kept user entry live found positive topics calls users =>
    have remaining := usersOf_erase state.users user live user.topicName
    rw [if_pos rfl] at remaining
    rw [counted user.topicName entry found,remaining,refCount_down,refCount_exhausted] at positive
    have both := kept_follows state follows counted user live entry found next (by omega) topics calls users
    refine ⟨iff_of_true both.1 (.inr ?_),fun _ => both.2⟩
    omega

end Steps

theorem initial_follows : FollowsUsers {} where
  entry_iff := by
    intro topicName
    simp
  shared := by
    intro first listed
    cases listed
  in_turn := by
    intro topicName
    rfl
  alive := by
    intro user listed
    cases listed

theorem topics_follow_users_iff (labels : List Label) :
    Throughout step FollowsUsers {} labels ↔ Along step Countable {} labels := by
  refine throughout_iff_along_within step Counted FollowsUsers Countable ?_ ?_ labels {} ?_ initial_follows
  · intro state label next stepped counted follows reached
    exact (step_follows_iff state follows counted next label stepped).2 reached
  · intro state label next stepped counted follows
    exact (step_follows_iff state follows counted next label stepped).1
  · intro topicName entry located
    cases located

theorem crowd (topicName : String) (size : Nat) : ∃ state,
    exec step {} (List.replicate (size + 1) (.construct .reader topicName)) = some state ∧
      state.participant.topics.find topicName = some ⟨0,Int16.ofNat (size + 1)⟩ ∧
      state.users = List.replicate (size + 1) ⟨.reader,topicName,0⟩ := by
  induction size with
  | zero => exact ⟨_,rfl,OrderedMap.find_insert_self _ _ _,rfl⟩
  | succ size ih =>
    obtain ⟨state,ran,found,users⟩ := ih
    have stepped : step state (.construct .reader topicName) = some {
        participant := {state.participant with
          topics := state.participant.topics.insert topicName ⟨0,Int16.ofNat (size + 1) + 1⟩}
        users := ⟨.reader,topicName,0⟩ :: state.users} := by
      simp only [step,getTopic,found]
    rw [List.replicate_succ']
    refine ⟨_,(exec_snoc _ _ _ _ _).mpr ⟨state,ran,stepped⟩,?_,?_⟩
    · rw [OrderedMap.find_insert_self,Int16.ofNat_add (size + 1) 1]
      rfl
    · rw [users]
      rfl

/-- With 32769 readers the first that is destroyed takes the topic away from the others. -/
theorem crowded_topic_deleted : ¬ Throughout step FollowsUsers {}
    (List.replicate 32769 (.construct .reader "/10/1/1") ++ [.destroy ⟨.reader,"/10/1/1",0⟩]) := by
  intro all
  obtain ⟨state,ran,found,users⟩ := crowd "/10/1/1" 32768
  have live : (⟨.reader,"/10/1/1",0⟩ : User) ∈ state.users := by
    rw [users]
    exact List.mem_replicate.mpr ⟨Nat.succ_ne_zero _,rfl⟩
  have exhausted : Int16.ofNat (32768 + 1) - 1 ≤ 0 := by
    rw [refCount_down,refCount_exhausted]
    omega
  have stepped : step state (.destroy ⟨.reader,"/10/1/1",0⟩) = some {
      participant := {state.participant with
        topics := state.participant.topics.erase "/10/1/1"
        calls := state.participant.calls ++ [.deleteTopic "/10/1/1" 0]}
      users := state.users.erase ⟨.reader,"/10/1/1",0⟩} := by
    simp only [step,deleteTopic,found,if_pos live,if_pos exhausted]
  have follows := Throughout.final step FollowsUsers _ _ _ all ((exec_snoc _ _ _ _ _).mpr ⟨state,ran,stepped⟩)
  have remaining : ∃ user ∈ state.users.erase ⟨.reader,"/10/1/1",0⟩, user.topicName = "/10/1/1" := by
    refine ⟨⟨.reader,"/10/1/1",0⟩,?_,rfl⟩
    rw [users,List.replicate_succ,List.erase_cons_head]
    exact List.mem_replicate.mpr ⟨by omega,rfl⟩
  have present := (follows.entry_iff "/10/1/1").mpr remaining
  rw [OrderedMap.find_erase,if_pos rfl] at present
  cases present

end Smw.FastDDSParticipant
