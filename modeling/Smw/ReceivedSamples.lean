import Smw.IceoryxWriter
import Smw.Foundation.Custody
import Smw.Foundation.Execution

/-! The sample pointers that the reader of iceoryx hands to its callback, and what a handler
may do with them: who owns a chunk that was taken, and when it is released. -/
namespace Smw.ReceivedSamples
open Foundation Foundation.Execution IceoryxWriter
variable {T : Type}

/-- A chunk that was taken, with the heap block of the copy made of it, if any. -/
structure Received where
  chunk : Nat
  copy : Option Nat
deriving DecidableEq,Repr

/-- What has to be done once for it. -/
def Received.disposals (received : Received) : List Disposal :=
  .released (.chunk received.chunk) :: (received.copy.map (fun block => Disposal.deleted (.heap block))).toList

/-- The variables that hold sample pointers, the callback's parameters among them. -/
structure HandlerState where
  samples : Nat → Option SamplePtr := fun _ => none
  blocks : Nat := 0
  disposed : List Disposal := []
  received : List Received := []

/-- What onDataAvailable builds from a chunk; a copy of it would be made in the given block. -/
def receive (type : DataType T) (chunk block : Nat) : SamplePtr × Received :=
  match type with
  | .dynamic _ => ({dataPtr := some (.heap block),deleter := .releaseThenDelete (.chunk chunk)},⟨chunk,some block⟩)
  | .fixed => ({dataPtr := some (.chunk chunk),deleter := .release},⟨chunk,none⟩)

/-- The transport gives a chunk again only after its release. -/
def HandlerState.available (state : HandlerState) (chunk : Nat) : Prop :=
  (state.received.flatMap Received.disposals).count (.released (.chunk chunk)) ≤
    state.disposed.count (.released (.chunk chunk))

instance available_decidable (state : HandlerState) (chunk : Nat) : Decidable (state.available chunk) :=
  inferInstanceAs (Decidable (_ ≤ _))

inductive Label
  | receive (sample chunk : Nat)
  | moveConstruct (target source : Nat)
  | moveAssign (target source : Nat)
  | swap (first second : Nat)
  | reset (sample : Nat)
  | assignNull (sample : Nat)
  | drop (sample : Nat)
deriving DecidableEq,Repr

/-- The object of a variable is destroyed, and the variable left as given. -/
def HandlerState.finish (state : HandlerState) (sample : Nat) (left : SamplePtr → Option SamplePtr) :
    Option HandlerState :=
  (state.samples sample).map (fun pointer =>
    {state with
      samples := Function.update state.samples sample (left pointer)
      disposed := state.disposed ++ pointer.destroy})

/-- An operation, none where its variables are not alive, or alive already where it makes one. -/
def step (type : DataType T) (state : HandlerState) : Label → Option HandlerState
  | .receive sample chunk =>
    if state.samples sample = none ∧ state.available chunk then
      let (pointer,received) := receive type chunk state.blocks
      some {
        samples := Function.update state.samples sample (some pointer)
        blocks := if received.copy.isSome then state.blocks + 1 else state.blocks
        disposed := state.disposed
        received := state.received ++ [received]}
    else none
  | .moveConstruct target source =>
    if state.samples target = none then
      (state.samples source).map (fun pointer =>
        let released := Function.update state.samples source (some pointer.moved)
        {state with samples := Function.update released target (some pointer)})
    else none
  | .moveAssign target source =>
    -- The source is released first, so an assignment of a pointer to itself destroys nothing.
    (state.samples source).bind (fun pointer =>
      let released := Function.update state.samples source (some pointer.moved)
      (released target).map (fun overwritten =>
        {state with
          samples := Function.update released target (some pointer)
          disposed := state.disposed ++ overwritten.destroy}))
  | .swap first second =>
    (state.samples first).bind (fun pointer =>
      (state.samples second).map (fun other =>
        let half := Function.update state.samples second (some pointer)
        {state with samples := Function.update half first (some other)}))
  | .reset sample => state.finish sample (fun pointer => some pointer.reset)
  | .assignNull sample => state.finish sample (fun pointer => some pointer.reset)
  | .drop sample => state.finish sample (fun _ => none)

section Property

/-- The variable whose sample the operation destroys, resets or overwrites. -/
def Label.ends : Label → Option Nat
  | .moveAssign target source => if target = source then none else some target
  | .reset sample => some sample
  | .assignNull sample => some sample
  | .drop sample => some sample
  | _ => none

/-- Some live pointer will do it. -/
def Due (state : HandlerState) (disposal : Disposal) : Prop :=
  ∃ sample pointer, state.samples sample = some pointer ∧ disposal ∈ pointer.destroy

/-- Whatever is to be done for the chunks received was done once, or is due from one pointer,
which does all that is to be done for one of them. -/
structure ReleasedOnce (state : HandlerState) : Prop where
  due : ∀ disposal, Due state disposal →
    (state.received.flatMap Received.disposals).count disposal = state.disposed.count disposal + 1
  not_due : ∀ disposal, ¬ Due state disposal →
    (state.received.flatMap Received.disposals).count disposal = state.disposed.count disposal
  one_owner : ∀ first second pointer other disposal, state.samples first = some pointer →
    state.samples second = some other → disposal ∈ pointer.destroy → disposal ∈ other.destroy →
    first = second
  one_address : ∀ first second pointer other address, state.samples first = some pointer →
    state.samples second = some other → pointer.dataPtr = some address → other.dataPtr = some address →
    first = second
  whole : ∀ sample pointer, state.samples sample = some pointer → pointer.dataPtr = none ∨
    ∃ received ∈ state.received, pointer.destroy = received.disposals
  copied_once : (state.received.filterMap Received.copy).Nodup

end Property

section Pointers

/-- The sample that a pointer owns, by its address and its deleter. -/
def receivedOf (pointer : SamplePtr) : Option Received :=
  match pointer.dataPtr,pointer.deleter with
  | some (.chunk chunk),.release => some ⟨chunk,none⟩
  | some (.heap block),.releaseThenDelete (.chunk chunk) => some ⟨chunk,some block⟩
  | _,_ => none

/-- How the object at an address of a received sample goes. -/
def goes : Address → Disposal
  | .chunk chunk => .released (.chunk chunk)
  | .heap block => .deleted (.heap block)

/-- The deleter fits the address: to destroy the pointer is to dispose of what it owns. -/
structure Formed (pointer : SamplePtr) : Prop where
  destroys : pointer.destroy = (receivedOf pointer).toList.flatMap Received.disposals
  owns : receivedOf pointer = none → pointer.dataPtr = none
  address : ∀ address, pointer.dataPtr = some address → goes address ∈ pointer.destroy

theorem formed_emptied (pointer : SamplePtr) : Formed {pointer with dataPtr := none} := by
  refine ⟨rfl,fun _ => rfl,?_⟩
  intro address found
  cases found

theorem receive_formed (type : DataType T) (chunk block : Nat) :
    Formed (receive type chunk block).1 ∧
      receivedOf (receive type chunk block).1 = some (receive type chunk block).2 := by
  cases type with
  | fixed =>
    refine ⟨⟨rfl,(fun nothing => by cases nothing),?_⟩,rfl⟩
    intro address found
    cases found
    exact List.mem_cons_self
  | dynamic serializer =>
    refine ⟨⟨rfl,(fun nothing => by cases nothing),?_⟩,rfl⟩
    intro address found
    cases found
    exact List.mem_cons_of_mem _ List.mem_cons_self

theorem receive_received (type : DataType T) (chunk block : Nat) :
    (receive type chunk block).2.chunk = chunk ∧
      ∀ other, (receive type chunk block).2.copy = some other → other = block := by
  cases type with
  | fixed => exact ⟨rfl,fun other found => by cases found⟩
  | dynamic serializer => exact ⟨rfl,fun other found => (Option.some.inj found).symm⟩

theorem disposals_nodup (received : Received) : received.disposals.Nodup := by
  cases made : received.copy <;> simp [Received.disposals,made]

theorem mem_disposals (received : Received) (disposal : Disposal) :
    disposal ∈ received.disposals ↔ disposal = .released (.chunk received.chunk) ∨
      ∃ block, received.copy = some block ∧ disposal = .deleted (.heap block) := by
  cases made : received.copy <;> simp [Received.disposals,made]

end Pointers

/-- The custody that a state of the handler represents. -/
structure Keeps (custody : Custody Nat Received) (state : HandlerState) : Prop where
  held : ∀ sample, custody.held sample = (state.samples sample).bind receivedOf
  formed : ∀ sample pointer, state.samples sample = some pointer → Formed pointer
  balanced : custody.Balanced
  settled : ∃ went, custody.Settled state.received went ∧ state.disposed = went.flatMap Received.disposals
  disjoint : ∀ first ∈ custody.outstanding, ∀ second ∈ custody.outstanding, ∀ disposal,
    disposal ∈ first.disposals → disposal ∈ second.disposals → first = second
  old : ∀ received ∈ state.received, ∀ block, received.copy = some block → block < state.blocks
  copied_once : (state.received.filterMap Received.copy).Nodup

section Reading
variable {custody : Custody Nat Received} {state : HandlerState} (keeps : Keeps custody state)
include keeps

theorem Keeps.held_eq {sample : Nat} {pointer : SamplePtr} (alive : state.samples sample = some pointer) :
    custody.held sample = receivedOf pointer := by
  rw [keeps.held,alive,Option.bind_some]

theorem Keeps.received_of_outstanding (received : Received) (outstanding : received ∈ custody.outstanding) :
    received ∈ state.received := by
  obtain ⟨went,⟨here,same,_,exactly⟩,_⟩ := keeps.settled
  exact same.mem_iff.mpr (List.mem_append_right _ ((exactly received).mpr outstanding))

theorem Keeps.due_iff (disposal : Disposal) :
    Due state disposal ↔ ∃ received ∈ custody.outstanding, disposal ∈ received.disposals := by
  constructor
  · intro due
    obtain ⟨sample,pointer,alive,inside⟩ := due
    rw [(keeps.formed sample pointer alive).destroys,List.mem_flatMap] at inside
    obtain ⟨received,owned,part⟩ := inside
    have holds : custody.held sample = some received := (keeps.held_eq alive).trans (Option.mem_toList.mp owned)
    exact ⟨received,custody.covered sample received holds,part⟩
  · intro present
    obtain ⟨received,outstanding,part⟩ := present
    obtain ⟨sample,holds⟩ := keeps.balanced received outstanding
    rw [keeps.held,Option.bind_eq_some_iff] at holds
    obtain ⟨pointer,alive,owned⟩ := holds
    refine ⟨sample,pointer,alive,?_⟩
    rw [(keeps.formed sample pointer alive).destroys,owned]
    simpa using part

theorem Keeps.accounted (disposal : Disposal) :
    (Due state disposal →
      (state.received.flatMap Received.disposals).count disposal = state.disposed.count disposal + 1) ∧
    (¬ Due state disposal →
      (state.received.flatMap Received.disposals).count disposal = state.disposed.count disposal) := by
  obtain ⟨went,settled,disposed⟩ := keeps.settled
  have counted := settled.parts Received.disposals (fun received _ => disposals_nodup received) keeps.disjoint
    disposal
  rw [keeps.due_iff,disposed]
  refine ⟨counted.1,?_⟩
  intro absent
  exact counted.2 (fun received outstanding part => absent ⟨received,outstanding,part⟩)

theorem Keeps.one_owner (first second : Nat) (pointer other : SamplePtr) (disposal : Disposal)
    (alive : state.samples first = some pointer) (also : state.samples second = some other)
    (left : disposal ∈ pointer.destroy) (right : disposal ∈ other.destroy) : first = second := by
  rw [(keeps.formed first pointer alive).destroys,List.mem_flatMap] at left
  rw [(keeps.formed second other also).destroys,List.mem_flatMap] at right
  obtain ⟨one,owned,part⟩ := left
  obtain ⟨two,held,shared⟩ := right
  have holds : custody.held first = some one := (keeps.held_eq alive).trans (Option.mem_toList.mp owned)
  have keeps_two : custody.held second = some two := (keeps.held_eq also).trans (Option.mem_toList.mp held)
  have same := keeps.disjoint one (custody.covered first one holds) two
    (custody.covered second two keeps_two) disposal part shared
  exact custody.apart first second one holds (same ▸ keeps_two)

theorem Keeps.released_once : ReleasedOnce state where
  due := fun disposal => (keeps.accounted disposal).1
  not_due := fun disposal => (keeps.accounted disposal).2
  one_owner := keeps.one_owner
  one_address := by
    intro first second pointer other address alive also left right
    have first_goes := (keeps.formed first pointer alive).address address left
    have second_goes := (keeps.formed second other also).address address right
    exact keeps.one_owner first second pointer other _ alive also first_goes second_goes
  whole := by
    intro sample pointer alive
    have formed := keeps.formed sample pointer alive
    cases owned : receivedOf pointer with
    | none => exact .inl (formed.owns owned)
    | some received =>
      right
      have holds := (keeps.held_eq alive).trans owned
      refine ⟨received,keeps.received_of_outstanding received (custody.covered sample received holds),?_⟩
      simp [formed.destroys,owned]
  copied_once := keeps.copied_once

end Reading

section Steps
variable {custody : Custody Nat Received} {state : HandlerState} (keeps : Keeps custody state)
include keeps

theorem keeps_finish (sample : Nat) (pointer : SamplePtr) (alive : state.samples sample = some pointer)
    (left : Option SamplePtr) (empty : left.bind receivedOf = none)
    (formed : ∀ other, left = some other → Formed other) :
    Keeps (custody.giveBack sample) {state with
      samples := Function.update state.samples sample left
      disposed := state.disposed ++ pointer.destroy} where
  held := by
    intro other
    have same := Custody.update_read custody.held state.samples receivedOf keeps.held sample left other
    rw [empty] at same
    exact same
  formed := Custody.update_all _ Formed keeps.formed sample left formed
  balanced := custody.giveBack_balanced sample keeps.balanced
  settled := by
    obtain ⟨went,settled,disposed⟩ := keeps.settled
    refine ⟨_,custody.giveBack_settled sample _ _ settled,?_⟩
    rw [List.flatMap_append,disposed,(keeps.formed sample pointer alive).destroys,keeps.held_eq alive]
  disjoint := fun first listed second also => keeps.disjoint first listed.1 second also.1
  old := keeps.old
  copied_once := keeps.copied_once

theorem keeps_move (target source : Nat) (pointer : SamplePtr) (alive : state.samples source = some pointer)
    (different : target ≠ source) (empty : custody.held target = none) :
    Keeps (custody.hand target source) {state with
      samples := Function.update (Function.update state.samples source (some pointer.moved)) target
        (some pointer)} where
  held := by
    intro sample
    have moved := custody.hand_read state.samples receivedOf keeps.held target source (some pointer.moved) rfl
      sample
    rw [alive] at moved
    exact moved
  formed := by
    have left := Custody.update_all _ Formed keeps.formed source (some pointer.moved)
      (Custody.all_some (formed_emptied pointer))
    exact Custody.update_all _ Formed left target _ (Custody.all_some (keeps.formed source pointer alive))
  balanced := (custody.hand_balanced_iff target source different keeps.balanced).mpr empty
  settled := keeps.settled
  disjoint := keeps.disjoint
  old := keeps.old
  copied_once := keeps.copied_once

theorem keeps_swap (first second : Nat) (pointer other : SamplePtr)
    (alive : state.samples first = some pointer) (also : state.samples second = some other) :
    Keeps (custody.exchange first second) {state with
      samples := Function.update (Function.update state.samples second (some pointer)) first (some other)} := by
  have swapped : Function.update (Function.update state.samples second (some pointer)) first (some other) =
      state.samples ∘ Equiv.swap first second := by
    rw [Equiv.comp_swap_eq_update,alive,also]
  rw [swapped]
  refine ⟨?_,?_,custody.exchange_balanced first second keeps.balanced,keeps.settled,keeps.disjoint,keeps.old,
    keeps.copied_once⟩
  · intro sample
    exact keeps.held (Equiv.swap first second sample)
  · intro sample found live
    exact keeps.formed (Equiv.swap first second sample) found live

theorem keeps_receive (type : DataType T) (sample chunk : Nat) (free : state.samples sample = none)
    (available : state.available chunk) :
    ∃ after, Keeps after {
      samples := Function.update state.samples sample (some (receive type chunk state.blocks).1)
      blocks := if (receive type chunk state.blocks).2.copy.isSome then state.blocks + 1 else state.blocks
      disposed := state.disposed
      received := state.received ++ [(receive type chunk state.blocks).2]} := by
  obtain ⟨formed,owned⟩ := receive_formed type chunk state.blocks
  obtain ⟨same_chunk,same_block⟩ := receive_received type chunk state.blocks
  generalize receive type chunk state.blocks = built at *
  obtain ⟨pointer,received⟩ := built
  dsimp only at *
  have not_due : ¬ Due state (.released (.chunk chunk)) := by
    intro due
    have counted := (keeps.accounted _).1 due
    unfold HandlerState.available at available
    omega
  have apart : ∀ other ∈ custody.outstanding, ∀ disposal, disposal ∈ received.disposals →
      disposal ∉ other.disposals := by
    intro other outstanding disposal new listed
    rcases (mem_disposals received disposal).mp new with released | ⟨block,copy,deleted⟩
    · rw [released,same_chunk] at listed
      exact not_due ((keeps.due_iff _).mpr ⟨other,outstanding,listed⟩)
    · rw [deleted,mem_disposals] at listed
      rcases listed with other_kind | ⟨old_block,earlier,same⟩
      · cases other_kind
      · cases same
        have older := keeps.old other (keeps.received_of_outstanding other outstanding) block earlier
        rw [same_block block copy] at older
        exact absurd older (Nat.lt_irrefl _)
  have fresh : received ∉ custody.outstanding := by
    intro outstanding
    exact apart received outstanding _ List.mem_cons_self List.mem_cons_self
  have empty : custody.held sample = none := by rw [keeps.held,free,Option.bind_none]
  refine ⟨custody.take sample received fresh,?_,?_,custody.take_balanced sample received fresh empty keeps.balanced,
    ?_,?_,?_,?_⟩
  · intro other
    have same := Custody.update_read custody.held state.samples receivedOf keeps.held sample (some pointer) other
    rw [Option.bind_some,owned] at same
    exact same
  · exact Custody.update_all _ Formed keeps.formed sample _ (Custody.all_some formed)
  · obtain ⟨went,settled,disposed⟩ := keeps.settled
    exact ⟨went,custody.take_settled sample received fresh _ _ settled,disposed⟩
  · intro first listed second also disposal left right
    rcases Set.mem_insert_iff.mp listed with rfl | old
    · rcases Set.mem_insert_iff.mp also with rfl | other
      · rfl
      · exact absurd right (apart second other disposal left)
    · rcases Set.mem_insert_iff.mp also with rfl | other
      · exact absurd left (apart first old disposal right)
      · exact keeps.disjoint first old second other disposal left right
  · intro other member block copy
    rcases List.mem_append.mp member with earlier | last
    · have older := keeps.old other earlier block copy
      dsimp only
      split <;> omega
    · cases List.mem_singleton.mp last
      simp [copy,same_block block copy]
  · rw [List.filterMap_append]
    refine List.nodup_append.mpr ⟨keeps.copied_once,?_,?_⟩
    · cases made : received.copy <;> simp [made]
    · intro block earlier other new same
      obtain ⟨one,member,copy⟩ := List.mem_filterMap.mp earlier
      obtain ⟨last,last_member,last_copy⟩ := List.mem_filterMap.mp new
      cases List.mem_singleton.mp last_member
      have older := keeps.old one member block copy
      rw [same,same_block other last_copy] at older
      exact absurd older (Nat.lt_irrefl _)

theorem keeps_finished (sample : Nat) (left : SamplePtr → Option SamplePtr) (next : HandlerState)
    (empty : ∀ pointer, (left pointer).bind receivedOf = none)
    (formed : ∀ pointer other, left pointer = some other → Formed other)
    (finished : state.finish sample left = some next) : ∃ after, Keeps after next := by
  obtain ⟨pointer,alive,same⟩ := Option.map_eq_some_iff.mp finished
  rw [← same]
  exact ⟨_,keeps_finish keeps sample pointer alive _ (empty pointer) (formed pointer)⟩

theorem keeps_reset (sample : Nat) (next : HandlerState)
    (finished : state.finish sample (fun pointer => some pointer.reset) = some next) :
    ∃ after, Keeps after next := by
  exact keeps_finished keeps sample _ next (fun _ => rfl) (fun pointer => Custody.all_some (formed_emptied pointer))
    finished

theorem keeps_moveAssign (type : DataType T) (target source : Nat) (next : HandlerState)
    (stepped : step type state (.moveAssign target source) = some next) : ∃ after, Keeps after next := by
  obtain ⟨pointer,alive,assigned⟩ := Option.bind_eq_some_iff.mp stepped
  obtain ⟨overwritten,there,same⟩ := Option.map_eq_some_iff.mp assigned
  rw [← same]
  by_cases self : target = source
  · subst self
    rw [Function.update_self] at there
    cases there
    have unchanged : Function.update (Function.update state.samples target (some pointer.moved)) target
        (some pointer) = state.samples := by
      rw [Function.update_idem,← alive,Function.update_eq_self]
    have nothing : state.disposed ++ pointer.moved.destroy = state.disposed := List.append_nil _
    rw [unchanged,nothing]
    exact ⟨custody,keeps⟩
  · rw [Function.update_of_ne self] at there
    have cleared := keeps_finish keeps target overwritten there none rfl (fun other none_left => by cases none_left)
    have still : Function.update state.samples target none source = some pointer :=
      (Function.update_of_ne (Ne.symm self) _ _).trans alive
    have moved := keeps_move cleared target source pointer still self (Function.update_self _ _ _)
    dsimp only at moved
    rw [Function.update_comm self,Function.update_idem] at moved
    exact ⟨_,moved⟩

theorem step_keeps (type : DataType T) (label : Label) (next : HandlerState)
    (stepped : step type state label = some next) : ∃ after, Keeps after next := by
  cases label with
  | receive sample chunk =>
    simp only [step] at stepped
    split at stepped
    next ready =>
      cases stepped
      exact keeps_receive keeps type sample chunk ready.1 ready.2
    next => cases stepped
  | moveConstruct target source =>
    simp only [step] at stepped
    split at stepped
    next free =>
      obtain ⟨pointer,alive,same⟩ := Option.map_eq_some_iff.mp stepped
      have different : target ≠ source := by
        intro equal
        rw [equal,alive] at free
        cases free
      have empty : custody.held target = none := by rw [keeps.held,free,Option.bind_none]
      rw [← same]
      exact ⟨_,keeps_move keeps target source pointer alive different empty⟩
    next => cases stepped
  | moveAssign target source => exact keeps_moveAssign keeps type target source next stepped
  | swap first second =>
    obtain ⟨pointer,alive,swapped⟩ := Option.bind_eq_some_iff.mp stepped
    obtain ⟨other,also,same⟩ := Option.map_eq_some_iff.mp swapped
    rw [← same]
    exact ⟨_,keeps_swap keeps first second pointer other alive also⟩
  | reset sample => exact keeps_reset keeps sample next stepped
  | assignNull sample => exact keeps_reset keeps sample next stepped
  | drop sample =>
    exact keeps_finished keeps sample _ next (fun _ => rfl) (fun _ _ none_left => by cases none_left) stepped

end Steps

theorem initial_keeps : Keeps (Custody.none : Custody Nat Received) {} where
  held := fun _ => rfl
  formed := by
    intro sample pointer alive
    cases alive
  balanced := Custody.none_balanced
  settled := ⟨[],Custody.none_settled,rfl⟩
  disjoint := by
    intro first listed
    cases listed
  old := by
    intro received member
    cases member
  copied_once := List.nodup_nil

section Disposal
variable (type : DataType T) (state next : HandlerState)

/-- What the destruction of the pointer in the variable does. -/
def destroyAt (state : HandlerState) (sample : Nat) : List Disposal :=
  (state.samples sample).elim [] SamplePtr.destroy

theorem finish_disposed (sample : Nat) (left : SamplePtr → Option SamplePtr)
    (finished : state.finish sample left = some next) :
    next.disposed = state.disposed ++ destroyAt state sample := by
  obtain ⟨pointer,alive,same⟩ := Option.map_eq_some_iff.mp finished
  rw [← same,destroyAt,alive]
  rfl

/-- A step disposes of exactly what the pointer owned whose sample it ends. -/
theorem step_disposed (label : Label) (stepped : step type state label = some next) :
    next.disposed = state.disposed ++ label.ends.elim [] (destroyAt state) := by
  cases label with
  | receive sample chunk =>
    simp only [step] at stepped
    split at stepped
    next =>
      cases stepped
      exact (List.append_nil _).symm
    next => cases stepped
  | moveConstruct target source =>
    simp only [step] at stepped
    split at stepped
    next =>
      obtain ⟨pointer,_,same⟩ := Option.map_eq_some_iff.mp stepped
      rw [← same]
      exact (List.append_nil _).symm
    next => cases stepped
  | moveAssign target source =>
    obtain ⟨pointer,alive,assigned⟩ := Option.bind_eq_some_iff.mp stepped
    obtain ⟨overwritten,there,same⟩ := Option.map_eq_some_iff.mp assigned
    rw [← same]
    by_cases self : target = source
    · rw [self,Function.update_self] at there
      cases there
      simp [Label.ends,self,SamplePtr.moved,SamplePtr.destroy]
    · rw [Function.update_of_ne self] at there
      simp [Label.ends,self,destroyAt,there]
  | swap first second =>
    obtain ⟨pointer,_,swapped⟩ := Option.bind_eq_some_iff.mp stepped
    obtain ⟨other,_,same⟩ := Option.map_eq_some_iff.mp swapped
    rw [← same]
    exact (List.append_nil _).symm
  | reset sample => exact finish_disposed state next sample _ stepped
  | assignNull sample => exact finish_disposed state next sample _ stepped
  | drop sample => exact finish_disposed state next sample _ stepped

end Disposal

/-- Every chunk is released once and every copy deleted with it, when the pointer that owns
them ends and at no other time, whatever the handlers do with their pointers. -/
theorem samples_released_once (type : DataType T) (labels : List Label) (state : HandlerState)
    (ran : exec (step type) {} labels = some state) :
    ReleasedOnce state ∧ ∀ label next, step type state label = some next →
      next.disposed = state.disposed ++ label.ends.elim [] (destroyAt state) := by
  have kept := exec_invariant (step type) (fun state => ∃ custody, Keeps custody state) (by
    intro state label next stepped held
    obtain ⟨custody,keeps⟩ := held
    exact step_keeps keeps type label next stepped) labels {} state ran ⟨_,initial_keeps⟩
  obtain ⟨custody,keeps⟩ := kept
  exact ⟨keeps.released_once,fun label next => step_disposed type state next label⟩

/-- Two chunks whose pointers are swapped, one of them assigned to itself, and then dropped. -/
theorem swapped_samples_released : ∃ state,
    exec (step (DataType.fixed : DataType Nat)) {}
      [.receive 0 7,.receive 1 8,.swap 0 1,.moveAssign 0 0,.drop 0,.reset 1] = some state ∧
    state.disposed = [.released (.chunk 8),.released (.chunk 7)] ∧ ReleasedOnce state :=
  ⟨_,rfl,rfl,(samples_released_once (DataType.fixed : DataType Nat)
    [.receive 0 7,.receive 1 8,.swap 0 1,.moveAssign 0 0,.drop 0,.reset 1] _ rfl).1⟩

end Smw.ReceivedSamples
