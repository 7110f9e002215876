import Smw.Publisher
import Smw.Foundation.Custody

/-! Ownership of the chunks of a fixed data type: who keeps the chunk of every outstanding
loan while a program loans, moves, drops and publishes samples. -/
namespace Smw.ChunkOwnership
open Foundation Foundation.Execution IceoryxWriter Publisher
variable {T : Type} [Inhabited T]

def HoldsChunk (state : PublisherState T) (sample : Nat) : Prop :=
  ∃ pointer chunk, state.samples sample = some pointer ∧ pointer.dataPtr = some (.chunk chunk)

def Intact (iox : IoxState T) : Prop := ∀ chunk, .deleted (.chunk chunk) ∉ iox.disposed

/-- The outstanding chunks are those of the live samples, and none was deleted. -/
def Owned (state : PublisherState T) : Prop :=
  (∀ chunk, chunk ∈ state.iox.loaned ↔
    ∃ sample pointer, state.samples sample = some pointer ∧ pointer.dataPtr = some (.chunk chunk)) ∧
  Intact state.iox

/-- A sample with a chunk is never dropped or overwritten and is published only to a local
consumer; a value is not published to both after its DDS write failed, unless the loan fails too. -/
def Careful (state : PublisherState T) : Label T → Prop
  | .moveAssign target source => target = source ∨ ¬ HoldsChunk state target
  | .drop sample => ¬ HoldsChunk state sample
  | .publishSample sample env => env.localQuery.hasLocalConsumer = true ∨ ¬ HoldsChunk state sample
  | .publishValue _ env => env.remoteQuery.hasRemoteConsumer = true → env.ddsWrite = false →
      env.localQuery.hasLocalConsumer = true → env.granted = none
  | _ => True

def chunkOf (pointer : SamplePtr) : Option Nat :=
  match pointer.dataPtr with
  | some (.chunk chunk) => some chunk
  | _ => none

/-- A sample pointer of a fixed type: its address is a chunk, and its flag tells so. -/
structure Formed (pointer : SamplePtr) : Prop where
  deleter : pointer.deleter = .delete
  address : ∀ address, pointer.dataPtr = some address →
    pointer.isHeapAllocated = false ∧ ∃ chunk, address = .chunk chunk

/-- The custody that a state of the publisher represents. -/
structure Keeps (custody : Custody Nat Nat) (state : PublisherState T) : Prop where
  held : ∀ sample, custody.held sample = (state.samples sample).bind chunkOf
  outstanding : ∀ chunk, chunk ∈ custody.outstanding ↔ chunk ∈ state.iox.loaned
  formed : ∀ sample pointer, state.samples sample = some pointer → Formed pointer

section Pointers

theorem chunkOf_eq_some_iff (pointer : SamplePtr) (chunk : Nat) :
    chunkOf pointer = some chunk ↔ pointer.dataPtr = some (.chunk chunk) := by
  unfold chunkOf
  split
  next found => simp [found]
  next other =>
    apply iff_of_false nofun
    intro found
    exact other chunk found

theorem Formed.empty_of_chunkOf {pointer : SamplePtr} (formed : Formed pointer)
    (empty : chunkOf pointer = none) : pointer.dataPtr = none := by
  cases found : pointer.dataPtr with
  | none => rfl
  | some address =>
    obtain ⟨_,chunk,same⟩ := formed.address address found
    rw [same] at found
    rw [(chunkOf_eq_some_iff pointer chunk).mpr found] at empty
    cases empty

theorem formed_null : Formed {} := by
  refine ⟨rfl,?_⟩
  intro address found
  cases found

theorem formed_chunk (chunk : Nat) : Formed (SamplePtr.ofPtr (.chunk chunk)).markAsNoHeapAllocated := by
  refine ⟨rfl,?_⟩
  intro address found
  cases found
  exact ⟨rfl,chunk,rfl⟩

theorem Formed.emptied {pointer : SamplePtr} (formed : Formed pointer) :
    Formed {pointer with dataPtr := none} := by
  refine ⟨formed.deleter,?_⟩
  intro address found
  cases found

theorem dispose_intact_iff (iox : IoxState T) (pointer : SamplePtr) (formed : Formed pointer)
    (intact : Intact iox) : Intact (iox.dispose pointer) ↔ chunkOf pointer = none := by
  cases held : chunkOf pointer with
  | none =>
    have empty := formed.empty_of_chunkOf held
    refine iff_of_true ?_ rfl
    simpa [IoxState.dispose,SamplePtr.destroy,empty] using intact
  | some chunk =>
    have found := (chunkOf_eq_some_iff pointer chunk).mp held
    refine iff_of_false ?_ (Option.some_ne_none chunk)
    intro after
    apply after chunk
    simp [IoxState.dispose,SamplePtr.destroy,found,formed.deleter,Deleter.run]

end Pointers

section Custodies
variable {custody : Custody Nat Nat} {state : PublisherState T}

theorem Keeps.held_eq (keeps : Keeps custody state) {sample : Nat} {pointer : SamplePtr}
    (alive : state.samples sample = some pointer) : custody.held sample = chunkOf pointer := by
  rw [keeps.held,alive,Option.bind_some]

theorem Keeps.holds_iff (keeps : Keeps custody state) (sample : Nat) :
    ¬ HoldsChunk state sample ↔ custody.held sample = none := by
  rw [keeps.held]
  constructor
  · intro nothing
    cases alive : state.samples sample with
    | none => rfl
    | some pointer =>
      cases held : chunkOf pointer with
      | none => simp [held]
      | some chunk =>
        have found := (chunkOf_eq_some_iff pointer chunk).mp held
        exact absurd ⟨pointer,chunk,alive,found⟩ nothing
  · intro empty holds
    obtain ⟨pointer,chunk,alive,found⟩ := holds
    rw [alive,Option.bind_some,(chunkOf_eq_some_iff _ _).mpr found] at empty
    cases empty

theorem Keeps.owned_iff (keeps : Keeps custody state) :
    Owned state ↔ custody.Balanced ∧ Intact state.iox := by
  have held (sample chunk : Nat) : custody.held sample = some chunk ↔
      ∃ pointer, state.samples sample = some pointer ∧ pointer.dataPtr = some (.chunk chunk) := by
    rw [keeps.held,Option.bind_eq_some_iff]
    simp only [chunkOf_eq_some_iff]
  refine and_congr_left (fun _ => ?_)
  constructor
  · intro exactly chunk member
    have loaned := (keeps.outstanding chunk).mp member
    obtain ⟨sample,found⟩ := (exactly chunk).mp loaned
    exact ⟨sample,(held sample chunk).mpr found⟩
  · intro balanced chunk
    constructor
    · intro member
      have outstanding := (keeps.outstanding chunk).mpr member
      obtain ⟨sample,found⟩ := balanced chunk outstanding
      exact ⟨sample,(held sample chunk).mp found⟩
    · intro kept
      obtain ⟨sample,found⟩ := kept
      have covered := custody.covered sample chunk ((held sample chunk).mpr found)
      exact (keeps.outstanding chunk).mp covered

/-- The state after a step keeps a custody, which stays in order exactly under `careful`. -/
def Follows (custody : Custody Nat Nat) (state next : PublisherState T) (careful : Prop) : Prop :=
  ∃ after, Keeps after next ∧ (custody.Balanced → Intact state.iox →
    (after.Balanced ∧ Intact next.iox ↔ careful))

theorem Keeps.frame (keeps : Keeps custody state) (iox : IoxState T) (dds : List T)
    (loaned : ∀ chunk, chunk ∈ iox.loaned ↔ chunk ∈ state.iox.loaned) :
    Keeps custody {state with iox := iox,dds := dds} :=
  ⟨keeps.held,fun chunk => (keeps.outstanding chunk).trans (loaned chunk).symm,keeps.formed⟩

theorem follows_unchanged (keeps : Keeps custody state) (iox : IoxState T) (dds : List T)
    (loaned : ∀ chunk, chunk ∈ iox.loaned ↔ chunk ∈ state.iox.loaned)
    (disposed : iox.disposed = state.iox.disposed) (careful : Prop) (holds : careful) :
    Follows custody state {state with iox := iox,dds := dds} careful := by
  refine ⟨custody,keeps.frame iox dds loaned,?_⟩
  intro balanced intact
  refine iff_of_true ⟨balanced,?_⟩ holds
  intro chunk
  rw [disposed]
  exact intact chunk

end Custodies

section Steps
variable {custody : Custody Nat Nat} {state : PublisherState T}

theorem follows_loan_failed (keeps : Keeps custody state) (sample : Nat)
    (free : state.samples sample = none) :
    Follows custody state {state with samples := Function.update state.samples sample (some {})} True := by
  have empty : custody.held sample = none := by rw [keeps.held,free,Option.bind_none]
  refine ⟨custody,⟨?_,keeps.outstanding,?_⟩,fun balanced intact => iff_of_true ⟨balanced,intact⟩ trivial⟩
  · intro other
    rw [← Custody.update_read custody.held state.samples chunkOf keeps.held sample (some {}) other]
    have unchanged : Function.update custody.held sample none = custody.held := by
      rw [← empty,Function.update_eq_self]
    exact (congrFun unchanged other).symm
  · exact Custody.update_all _ Formed keeps.formed sample _ (Custody.all_some formed_null)

theorem follows_loan_granted (keeps : Keeps custody state) (sample chunk : Nat) (iox : IoxState T)
    (free : state.samples sample = none) (fresh : chunk ∉ state.iox.loaned)
    (loaned : iox.loaned = state.iox.loaned.emplace chunk) (disposed : iox.disposed = state.iox.disposed) :
    Follows custody state {state with
      samples := Function.update state.samples sample
        (some (SamplePtr.ofPtr (.chunk chunk)).markAsNoHeapAllocated)
      iox := iox} True := by
  have empty : custody.held sample = none := by rw [keeps.held,free,Option.bind_none]
  have unknown : chunk ∉ custody.outstanding := fun member => fresh ((keeps.outstanding chunk).mp member)
  refine ⟨custody.take sample chunk unknown,⟨?_,?_,?_⟩,?_⟩
  · exact Custody.update_read custody.held state.samples chunkOf keeps.held sample
      (some (SamplePtr.ofPtr (.chunk chunk)).markAsNoHeapAllocated)
  · intro other
    change other ∈ insert chunk custody.outstanding ↔ other ∈ iox.loaned
    rw [loaned,OrderedSet.mem_emplace,Set.mem_insert_iff,keeps.outstanding]
  · have new := Custody.all_some (formed_chunk chunk)
    exact Custody.update_all _ Formed keeps.formed sample _ new
  · intro balanced intact
    refine iff_of_true ⟨custody.take_balanced sample chunk unknown empty balanced,?_⟩ trivial
    intro other
    rw [disposed]
    exact intact other

theorem follows_loan (keeps : Keeps custody state) (sample : Nat) (granted : Option Grant)
    (free : state.samples sample = none) (grants : state.iox.grants granted = true)
    (next : PublisherState T) (stepped : step .fixed state (.loanSample sample granted) = some next) :
    Follows custody state next True := by
  simp only [step,free,grants,and_self,if_true] at stepped
  cases granted with
  | none =>
    cases stepped
    exact follows_loan_failed keeps sample free
  | some grant =>
    cases stepped
    exact follows_loan_granted keeps sample grant.chunk _ free (of_decide_eq_true grants) rfl rfl

theorem follows_move (keeps : Keeps custody state) (target source : Nat) (pointer : SamplePtr)
    (different : target ≠ source) (alive : state.samples source = some pointer) (iox : IoxState T)
    (loaned : iox.loaned = state.iox.loaned)
    (disposed : Intact state.iox → (Intact iox ↔ custody.held target = none)) :
    Follows custody state {state with
      samples := Function.update (Function.update state.samples source (some pointer.moved)) target
        (some pointer)
      iox := iox} (custody.held target = none) := by
  have formed := keeps.formed source pointer alive
  refine ⟨custody.hand target source,⟨?_,?_,?_⟩,?_⟩
  · intro sample
    have moved := custody.hand_read state.samples chunkOf keeps.held target source (some pointer.moved) rfl sample
    rw [alive] at moved
    exact moved
  · intro chunk
    rw [loaned]
    exact keeps.outstanding chunk
  · have left := Custody.update_all _ Formed keeps.formed source _ (Custody.all_some formed.emptied)
    exact Custody.update_all _ Formed left target _ (Custody.all_some formed)
  · intro balanced intact
    rw [custody.hand_balanced_iff target source different balanced,disposed intact,and_self]

theorem follows_drop (keeps : Keeps custody state) (sample : Nat) (pointer : SamplePtr)
    (alive : state.samples sample = some pointer) :
    Follows custody state {state with
      samples := Function.update state.samples sample none
      iox := state.iox.dispose pointer} (custody.held sample = none) := by
  refine ⟨custody.abandon sample,⟨?_,keeps.outstanding,?_⟩,?_⟩
  · exact Custody.update_read custody.held state.samples chunkOf keeps.held sample none
  · exact Custody.update_all _ Formed keeps.formed sample _ nofun
  · intro balanced intact
    rw [custody.abandon_balanced_iff sample balanced,
      dispose_intact_iff state.iox pointer (keeps.formed sample pointer alive) intact,
      keeps.held_eq alive,and_self]

theorem publishSample_cases (env : Environment) (pointer left : SamplePtr) (iox : IoxState T)
    (done : Published T) (formed : Formed pointer)
    (ran : publishSample .fixed env pointer iox = some (done,left)) :
    Formed left ∧ chunkOf left = none ∧
      ((chunkOf pointer = none ∧ done.iox = iox) ∨
        ∃ chunk, chunkOf pointer = some chunk ∧
          (env.localQuery.hasLocalConsumer = true ∧
            done.iox = iox.publish chunk (.object (iox.object (.chunk chunk))) ∨
          env.localQuery.hasLocalConsumer = false ∧ done.iox = iox)) := by
  obtain ⟨remote,_,same⟩ := Option.map_eq_some_iff.mp ran
  cases held : chunkOf pointer with
  | none =>
    have empty := formed.empty_of_chunkOf held
    cases consumer : env.localQuery.hasLocalConsumer with
    | true =>
      simp only [consumer,if_true,write,empty,Prod.mk.injEq] at same
      obtain ⟨rfl,rfl⟩ := same
      exact ⟨formed,held,.inl ⟨rfl,rfl⟩⟩
    | false =>
      simp only [consumer,Bool.false_eq_true,if_false,Prod.mk.injEq] at same
      obtain ⟨rfl,rfl⟩ := same
      refine ⟨?_,?_,.inl ⟨rfl,rfl⟩⟩
      · split
        next => exact formed
        next => exact formed.emptied
      · split
        next => exact held
        next => rfl
  | some chunk =>
    have found := (chunkOf_eq_some_iff pointer chunk).mp held
    cases consumer : env.localQuery.hasLocalConsumer with
    | true =>
      simp only [consumer,if_true,write,found,Prod.mk.injEq] at same
      obtain ⟨rfl,rfl⟩ := same
      exact ⟨formed.emptied,rfl,.inr ⟨chunk,rfl,.inl ⟨rfl,rfl⟩⟩⟩
    | false =>
      have flag := (formed.address _ found).1
      simp only [consumer,flag,Bool.false_eq_true,if_false,Prod.mk.injEq] at same
      obtain ⟨rfl,rfl⟩ := same
      exact ⟨formed.emptied,rfl,.inr ⟨chunk,rfl,.inr ⟨rfl,rfl⟩⟩⟩

theorem follows_publishSample (keeps : Keeps custody state) (sample : Nat) (pointer left : SamplePtr)
    (env : Environment) (done : Published T) (alive : state.samples sample = some pointer)
    (ran : publishSample .fixed env pointer state.iox = some (done,left)) (dds : List T) :
    Follows custody state {state with
      samples := Function.update state.samples sample (some left)
      iox := done.iox
      dds := dds} (env.localQuery.hasLocalConsumer = true ∨ custody.held sample = none) := by
  obtain ⟨formed,emptied,kind⟩ :=
    publishSample_cases env pointer left state.iox done (keeps.formed sample pointer alive) ran
  have next_held (other : Nat) : Function.update custody.held sample none other =
      (Function.update state.samples sample (some left) other).bind chunkOf := by
    rw [← emptied]
    exact Custody.update_read custody.held state.samples chunkOf keeps.held sample (some left) other
  have next_formed := Custody.update_all _ Formed keeps.formed sample _ (Custody.all_some formed)
  rw [keeps.held_eq alive]
  rcases kind with ⟨empty,same⟩ | ⟨chunk,held,⟨consumer,same⟩ | ⟨consumer,same⟩⟩
  · refine ⟨custody.abandon sample,⟨next_held,?_,next_formed⟩,?_⟩
    · rw [same]
      exact keeps.outstanding
    · intro balanced intact
      rw [custody.abandon_balanced_iff sample balanced,keeps.held_eq alive,same]
      exact iff_of_true ⟨empty,intact⟩ (.inr empty)
  · refine ⟨custody.giveBack sample,⟨next_held,?_,next_formed⟩,?_⟩
    · intro other
      have given : other ∈ (custody.giveBack sample).outstanding ↔
          other ∈ custody.outstanding ∧ custody.held sample ≠ some other := Iff.rfl
      rw [same,given,keeps.outstanding,keeps.held_eq alive,held]
      change _ ↔ other ∈ state.iox.loaned.erase chunk
      rw [OrderedSet.mem_erase,and_comm]
      simp [eq_comm]
    · intro balanced intact
      refine iff_of_true ⟨custody.giveBack_balanced sample balanced,?_⟩ (.inl consumer)
      rw [same]
      exact intact
  · refine ⟨custody.abandon sample,⟨next_held,?_,next_formed⟩,?_⟩
    · rw [same]
      exact keeps.outstanding
    · intro balanced intact
      rw [custody.abandon_balanced_iff sample balanced,keeps.held_eq alive,held,consumer]
      simp

/-- Publishing a value leaves the outstanding chunks as they are, or it leaves one behind
and deletes it. -/
theorem publishValue_cases (env : Environment) (value : T) (iox : IoxState T)
    (grants : iox.grants env.granted = true) :
    (∃ grant, env.granted = some grant ∧ env.remoteQuery.hasRemoteConsumer = true ∧
      env.ddsWrite = false ∧ env.localQuery.hasLocalConsumer = true ∧ grant.chunk ∉ iox.loaned ∧
      (publishValue .fixed env value iox).iox.loaned = iox.loaned.emplace grant.chunk ∧
      (publishValue .fixed env value iox).iox.disposed =
        iox.disposed ++ [.deleted (.chunk grant.chunk)]) ∨
    ((env.remoteQuery.hasRemoteConsumer = true → env.ddsWrite = false →
        env.localQuery.hasLocalConsumer = true → env.granted = none) ∧
      (∀ other, other ∈ (publishValue .fixed env value iox).iox.loaned ↔ other ∈ iox.loaned) ∧
      (publishValue .fixed env value iox).iox.disposed = iox.disposed) := by
  cases consumer : env.localQuery.hasLocalConsumer with
  | false =>
    refine .inr ⟨fun _ _ also => absurd also Bool.false_ne_true,?_⟩
    simp [publishValue,consumer]
  | true =>
    cases granted : env.granted with
    | none =>
      refine .inr ⟨fun _ _ _ => rfl,?_⟩
      simp [publishValue,consumer,granted,loan,IoxState.dispose,SamplePtr.destroy]
    | some grant =>
      rw [granted] at grants
      have fresh : grant.chunk ∉ iox.loaned := of_decide_eq_true grants
      have returned (other : Nat) : other ∈ (iox.loaned.emplace grant.chunk).erase grant.chunk ↔
          other ∈ iox.loaned := by
        rw [OrderedSet.mem_erase,OrderedSet.mem_emplace]
        constructor
        · intro both
          exact both.2.resolve_left both.1
        · intro member
          exact ⟨fun same => fresh (same ▸ member),.inr member⟩
      by_cases failed : env.remoteQuery.hasRemoteConsumer = true ∧ env.ddsWrite = false
      · refine .inl ⟨grant,rfl,failed.1,failed.2,rfl,fresh,?_⟩
        simp [publishValue,writeRemote,consumer,granted,failed,loan,SamplePtr.ofPtr,
          SamplePtr.markAsNoHeapAllocated,IoxState.store,IoxState.dispose,SamplePtr.destroy,Deleter.run]
      · have written : (writeRemote env value).1 = none := by
          unfold writeRemote
          split
          next remote =>
            have ok : env.ddsWrite = true := by
              simpa [remote] using failed
            simp [ok]
          next => rfl
        have loaned : (publishValue .fixed env value iox).iox.loaned =
            (iox.loaned.emplace grant.chunk).erase grant.chunk := by
          simp [publishValue,written,consumer,granted,loan,write,SamplePtr.ofPtr,
            SamplePtr.markAsNoHeapAllocated,IoxState.store,IoxState.publish,IoxState.dispose]
        refine .inr ⟨fun remote unwritten => absurd ⟨remote,unwritten⟩ failed,?_,?_⟩
        · rw [loaned]
          exact returned
        · simp [publishValue,written,consumer,granted,loan,write,SamplePtr.ofPtr,SamplePtr.release,
            SamplePtr.markAsNoHeapAllocated,IoxState.store,IoxState.publish,IoxState.dispose,
            SamplePtr.destroy]

theorem follows_publishValue (keeps : Keeps custody state) (env : Environment) (value : T)
    (grants : state.iox.grants env.granted = true) (dds : List T) :
    Follows custody state {state with iox := (publishValue .fixed env value state.iox).iox,dds := dds}
      (env.remoteQuery.hasRemoteConsumer = true → env.ddsWrite = false →
        env.localQuery.hasLocalConsumer = true → env.granted = none) := by
  rcases publishValue_cases env value state.iox grants with spilled | ⟨careful,loaned,disposed⟩
  · obtain ⟨grant,granted,remote,failed,consumer,fresh,loaned,disposed⟩ := spilled
    have unknown : grant.chunk ∉ custody.outstanding :=
      fun member => fresh ((keeps.outstanding grant.chunk).mp member)
    refine ⟨custody.orphan grant.chunk,⟨keeps.held,?_,keeps.formed⟩,?_⟩
    · intro other
      change other ∈ insert grant.chunk custody.outstanding ↔
        other ∈ (publishValue .fixed env value state.iox).iox.loaned
      rw [loaned,OrderedSet.mem_emplace,Set.mem_insert_iff,keeps.outstanding]
    · intro _ _
      apply iff_of_false
      · intro both
        exact custody.orphan_unbalanced grant.chunk unknown both.1
      · intro allowed
        have none_granted := allowed remote failed consumer
        rw [granted] at none_granted
        cases none_granted
  · exact follows_unchanged keeps _ dds loaned disposed _ careful

theorem follows_step (keeps : Keeps custody state) (label : Label T) (next : PublisherState T)
    (stepped : step .fixed state label = some next) :
    Follows custody state next (Careful state label) := by
  cases label with
  | loanSample sample granted =>
    by_cases ready : state.samples sample = none ∧ state.iox.grants granted = true
    · exact follows_loan keeps sample granted ready.1 ready.2 next stepped
    · simp [step,ready] at stepped
  | write sample value =>
    obtain ⟨pointer,alive,stored⟩ := Option.bind_eq_some_iff.mp stepped
    obtain ⟨address,found,rfl⟩ := Option.map_eq_some_iff.mp stored
    exact follows_unchanged keeps (state.iox.store address value) state.dds (fun _ => Iff.rfl) rfl _ trivial
  | moveConstruct target source =>
    simp only [step] at stepped
    split at stepped
    next free =>
      obtain ⟨pointer,alive,rfl⟩ := Option.map_eq_some_iff.mp stepped
      have different : target ≠ source := by
        intro same
        rw [same,alive] at free
        cases free
      have empty : custody.held target = none := by rw [keeps.held,free,Option.bind_none]
      obtain ⟨after,kept,order⟩ := follows_move keeps target source pointer different alive state.iox rfl
        (fun intact => iff_of_true intact empty)
      exact ⟨after,kept,fun balanced intact => (order balanced intact).trans (iff_of_true empty trivial)⟩
    next => cases stepped
  | moveAssign target source =>
    obtain ⟨overwritten,there,moved⟩ := Option.bind_eq_some_iff.mp stepped
    obtain ⟨pointer,alive,rfl⟩ := Option.map_eq_some_iff.mp moved
    split
    next same => exact follows_unchanged keeps state.iox state.dds (fun _ => Iff.rfl) rfl _ (.inl same)
    next different =>
      obtain ⟨after,kept,order⟩ := follows_move keeps target source pointer different alive
        (state.iox.dispose overwritten) rfl (fun intact => by
          rw [keeps.held_eq there]
          exact dispose_intact_iff state.iox overwritten (keeps.formed target overwritten there) intact)
      refine ⟨after,kept,fun balanced intact => (order balanced intact).trans ?_⟩
      simp only [Careful,different,false_or,keeps.holds_iff]
  | drop sample =>
    obtain ⟨pointer,alive,rfl⟩ := Option.map_eq_some_iff.mp stepped
    obtain ⟨after,kept,order⟩ := follows_drop keeps sample pointer alive
    exact ⟨after,kept,fun balanced intact => (order balanced intact).trans (keeps.holds_iff sample).symm⟩
  | publishSample sample env =>
    simp only [step] at stepped
    split at stepped
    next =>
      obtain ⟨pointer,alive,published⟩ := Option.bind_eq_some_iff.mp stepped
      obtain ⟨⟨done,left⟩,ran,rfl⟩ := Option.map_eq_some_iff.mp published
      obtain ⟨after,kept,order⟩ := follows_publishSample keeps sample pointer left env done alive ran
        (state.dds ++ done.dds)
      refine ⟨after,kept,fun balanced intact => (order balanced intact).trans ?_⟩
      simp only [Careful,keeps.holds_iff]
    next => cases stepped
  | publishValue value env =>
    simp only [step] at stepped
    split at stepped
    next grants =>
      cases stepped
      exact follows_publishValue keeps env value grants _
    next => cases stepped

end Steps

theorem initial_keeps : Keeps Custody.none ({} : PublisherState T) := by
  refine ⟨fun _ => rfl,?_,?_⟩
  · intro chunk
    exact iff_of_false (Set.notMem_empty chunk) (OrderedSet.not_mem_empty chunk)
  · intro sample pointer alive
    cases alive

/-- Every outstanding chunk is the chunk of a live sample, and none is deleted, exactly in the
runs whose operations are all careful. -/
theorem chunks_owned_iff (labels : List (Label T)) :
    Throughout (step .fixed) Owned ({} : PublisherState T) labels ↔
      Along (step .fixed) Careful {} labels := by
  refine throughout_iff_along (step .fixed) (fun state => ∃ custody, Keeps custody state) Owned Careful
    ?_ ?_ labels {} ⟨Custody.none,initial_keeps⟩ ?_
  · intro state label next stepped represented
    obtain ⟨custody,keeps⟩ := represented
    obtain ⟨after,kept,_⟩ := follows_step keeps label next stepped
    exact ⟨after,kept⟩
  · intro state label next stepped represented owned
    obtain ⟨custody,keeps⟩ := represented
    obtain ⟨after,kept,order⟩ := follows_step keeps label next stepped
    obtain ⟨balanced,intact⟩ := keeps.owned_iff.mp owned
    exact kept.owned_iff.trans (order balanced intact)
  · refine initial_keeps.owned_iff.mpr ⟨Custody.none_balanced,?_⟩
    intro chunk deleted
    cases deleted

def bothConsumers : ServiceStatus where
  localConsumers := OrderedSet.emplace OrderedMap.empty ⟨"10.0.0.1/","100"⟩
  remoteConsumers := OrderedSet.emplace OrderedMap.empty ⟨"10.0.0.2/","200"⟩

/-- A value is published to both kinds of consumers and the DDS write fails: the chunk that
was loaned for the local ones is deleted. -/
theorem failed_write_deletes_chunk : ¬ Throughout (step .fixed) Owned ({} : PublisherState UInt32)
    [.publishValue 7 ⟨bothConsumers,bothConsumers,false,some ⟨0,fun _ => 0⟩⟩] := by
  intro all
  have owned := Throughout.final _ _ _ _ _ all rfl
  exact owned.2 0 (by decide)

end Smw.ChunkOwnership
