import Smw.RequestThreads

/-! Concurrent offerService and stopOfferService calls on one skeleton. A call is a request
on the service of the skeleton followed, without any lock, by its store to the flag. -/
namespace Smw.ServiceSkeleton
open Foundation Foundation.Execution PendingMessages RequestThreads ServiceDiscoveryOperation

structure SkeletonState (T : Type) where
  process : LocalState T := {}
  isOffered : Bool := false
  /-- The value that a thread still has to store, once its request has returned. -/
  storing : T → Option Bool := fun _ => none

inductive Call
  | offerService
  | stopOfferService
deriving DecidableEq

def Call.operation : Call → ServiceDiscoveryOperation
  | .offerService => .offer
  | .stopOfferService => .stopOffer

/-- A thread may also request operations on other services of the process. -/
inductive Label (T : Type)
  | call (thread : T) (call : Call)
  | request (thread : T) (operation : ServiceDiscoveryOperation) (service : ServiceDescription)
  | first (thread : T)
  | second (thread : T)
  | store (thread : T)
  | cycle
deriving DecidableEq

def toStore (service : ServiceDescription) : RequestPc → Option Bool
  | .cleared operation named => if named = service then some (operation = .offer) else none
  | _ => none

section Step
variable {T : Type} [DecidableEq T] (own : ServiceEntityInfo) (service : ServiceDescription)

def withProcess (state : SkeletonState T) (label : RequestThreads.Label T) : Option (SkeletonState T) :=
  (RequestThreads.step own state.process label).map (fun done => {state with process := done.1})

def step (state : SkeletonState T) : Label T → Option (SkeletonState T)
  | .call thread call =>
    if state.storing thread = none then withProcess own state (.write thread call.operation service)
    else none
  | .request thread operation other =>
    if state.storing thread = none ∧ other ≠ service then
      withProcess own state (.write thread operation other)
    else none
  | .first thread => withProcess own state (.first thread)
  | .second thread =>
    let stored := toStore service (state.process.request thread)
    (withProcess own state (.second thread)).map (fun next =>
      {next with storing := Function.update state.storing thread stored})
  | .store thread =>
    (state.storing thread).map (fun offered =>
      {state with
        isOffered := offered
        storing := Function.update state.storing thread none})
  | .cycle => withProcess own state .cycle

end Step

section Property
variable {T : Type} (service : ServiceDescription)

def Returned (state : SkeletonState T) : Prop :=
  ∀ thread, state.storing thread = none ∧
    ∀ operation, state.process.request thread ≠ .written operation service ∧
      state.process.request thread ≠ .cleared operation service

/-- The service is pending in one map at most, and offered exactly if announced always. -/
def Consistent (state : SkeletonState T) : Prop :=
  ¬ ((state.process.pending.messageNeedSendAlways.find service).isSome = true ∧
      (state.process.pending.messageNeedSendSomeTimes.find service).isSome = true) ∧
  (state.isOffered = true ↔
    (state.process.pending.messageNeedSendAlways.find service).isSome = true)

/-- Whether the service is announced in every cycle. -/
def announced (state : SkeletonState T) : Bool :=
  (state.process.pending.messageNeedSendAlways.find service).isSome

/-- The thread is between its two regions, or has still to store what is announced. -/
def Settling (state : SkeletonState T) (thread : T) : Prop :=
  (∃ operation, state.process.request thread = .cleared operation service) ∨
    state.storing thread = some (announced service state)

/-- No call enters its first region while one of the other kind is between its two regions,
and what is announced is not stored before the opposite value, unless a call is still settling. -/
def Serialised (state : SkeletonState T) : Label T → Prop
  | .first thread => ∀ operation, state.process.request thread = .written operation service →
      ∀ other latest, state.process.request other = .cleared latest service → latest = operation
  | .store thread => state.storing thread = some (announced service state) →
      ∀ other, state.storing other = some (!announced service state) →
        ∃ last, last ≠ thread ∧ Settling service state last
  | _ => True

/-- What the calls between their regions have done to the slots of the service, and what
holds of the flag and of the remaining stores once no call is settling. -/
structure Progress (state : SkeletonState T) : Prop where
  kind : ∀ thread operation, state.process.request thread = .written operation service ∨
    state.process.request thread = .cleared operation service →
    operation = .offer ∨ operation = .stopOffer
  free : ∀ thread, state.storing thread ≠ none → state.process.request thread = .idle
  same : ∀ first second left right, state.process.request first = .cleared left service →
    state.process.request second = .cleared right service → left = right
  offering : ∀ thread, state.process.request thread = .cleared .offer service →
    state.process.pending.messageNeedSendSomeTimes.find service = none
  stopping : ∀ thread, state.process.request thread = .cleared .stopOffer service →
    state.process.pending.messageNeedSendAlways.find service = none
  apart : ¬ ((state.process.pending.messageNeedSendAlways.find service).isSome = true ∧
    (state.process.pending.messageNeedSendSomeTimes.find service).isSome = true)
  settled : (∀ thread, ¬ Settling service state thread) →
    state.isOffered = announced service state ∧
      ∀ thread, state.storing thread ≠ some (!announced service state)

end Property

section Preservation
variable {T : Type} [DecidableEq T] {own : ServiceEntityInfo} {service : ServiceDescription}

theorem withProcess_move (state next : SkeletonState T) (label : RequestThreads.Label T)
    (stepped : withProcess own state label = some next) :
    ∃ process written, Move own state.process label process written ∧
      next = {state with process := process} := by
  obtain ⟨done,ran,rfl⟩ := Option.map_eq_some_iff.mp stepped
  exact ⟨done.1,done.2,step_move _ _ _ _ _ ran,rfl⟩

omit [DecidableEq T] in
theorem initial_progress : Progress service ({} : SkeletonState T) where
  kind := by
    intro thread operation at_service
    rcases at_service with here | here <;> cases here
  free := by
    intro thread busy
    exact absurd rfl busy
  same := by
    intro first second left right kind
    cases kind
  offering := by
    intro thread kind
    cases kind
  stopping := by
    intro thread kind
    cases kind
  apart := by
    intro both
    cases both.1
  settled := by
    intro _
    refine ⟨rfl,?_⟩
    intro thread stored
    cases stored

omit [DecidableEq T] in
/-- A step that moves no call into or out of its regions and clears slots at most. -/
theorem Progress.frame {state next : SkeletonState T} (held : Progress service state)
    (kind : ∀ thread operation, next.process.request thread = .written operation service ∨
      next.process.request thread = .cleared operation service →
      operation = .offer ∨ operation = .stopOffer)
    (free : ∀ thread, next.storing thread ≠ none → next.process.request thread = .idle)
    (unmoved : ∀ thread operation, next.process.request thread = .cleared operation service ↔
      state.process.request thread = .cleared operation service)
    (storing : next.storing = state.storing) (flag : next.isOffered = state.isOffered)
    (always : next.process.pending.messageNeedSendAlways.find service =
      state.process.pending.messageNeedSendAlways.find service)
    (someTimes : state.process.pending.messageNeedSendSomeTimes.find service = none →
      next.process.pending.messageNeedSendSomeTimes.find service = none) :
    Progress service next := by
  have kept : announced service next = announced service state := by simp only [announced,always]
  refine ⟨kind,free,?_,?_,?_,?_,?_⟩
  · intro first second left right
    rw [unmoved,unmoved]
    exact held.same first second left right
  · intro thread
    rw [unmoved]
    exact fun offering => someTimes (held.offering thread offering)
  · intro thread
    rw [unmoved,always]
    exact held.stopping thread
  · intro both
    rw [always] at both
    refine held.apart ⟨both.1,?_⟩
    apply Option.isSome_iff_ne_none.mpr
    intro absent
    rw [someTimes absent] at both
    cases both.2
  · simp only [Settling,unmoved,storing,flag,kept]
    exact held.settled

omit [DecidableEq T] in
theorem Progress.storing_none {state : SkeletonState T} (held : Progress service state) (thread : T)
    (busy : state.process.request thread ≠ .idle) : state.storing thread = none := by
  by_contra storing
  exact busy (held.free thread storing)

/-- A thread that has nothing to store may move on: threads that do remain idle. -/
theorem Progress.free_update {state : SkeletonState T} (held : Progress service state) (thread : T)
    (pc : RequestPc) (free : state.storing thread = none) (other : T)
    (busy : state.storing other ≠ none) :
    Function.update state.process.request thread pc other = .idle := by
  have apart : other ≠ thread := by
    intro same
    subst same
    exact busy free
  rw [Function.update_of_ne apart]
  exact held.free other busy

/-- A thread moves to a point that is of a known kind. -/
theorem Progress.kind_update {state : SkeletonState T} (held : Progress service state) (thread : T)
    (pc : RequestPc)
    (known : ∀ operation, pc = .written operation service ∨ pc = .cleared operation service →
      operation = .offer ∨ operation = .stopOffer)
    (other : T) (operation : ServiceDiscoveryOperation)
    (here : Function.update state.process.request thread pc other = .written operation service ∨
      Function.update state.process.request thread pc other = .cleared operation service) :
    operation = .offer ∨ operation = .stopOffer := by
  by_cases same : other = thread
  · subst same
    rw [Function.update_self] at here
    exact known operation here
  · rw [Function.update_of_ne same] at here
    exact held.kind other operation here

/-- A thread moves while it is outside the regions of the service, and leaves its slots alone. -/
theorem Progress.elsewhere {state : SkeletonState T} (held : Progress service state) (thread : T)
    (pc : RequestPc) (pending : Pending) (free : state.storing thread = none)
    (before : ∀ operation, state.process.request thread ≠ .cleared operation service)
    (after : ∀ operation, pc ≠ .cleared operation service)
    (known : ∀ operation, pc = .written operation service → operation = .offer ∨ operation = .stopOffer)
    (always : pending.messageNeedSendAlways.find service =
      state.process.pending.messageNeedSendAlways.find service)
    (someTimes : pending.messageNeedSendSomeTimes.find service =
      state.process.pending.messageNeedSendSomeTimes.find service) :
    Progress service {state with process := {state.process with
      pending := pending
      request := Function.update state.process.request thread pc}} := by
  refine held.frame ?_ (held.free_update thread pc free) ?_ rfl rfl always (fun absent => someTimes.trans absent)
  · apply held.kind_update
    intro operation here
    rcases here with written | cleared
    · exact known operation written
    · exact absurd cleared (after operation)
  · intro other operation
    change Function.update state.process.request thread pc other = .cleared operation service ↔ _
    by_cases same : other = thread
    · subst same
      rw [Function.update_self]
      exact iff_of_false (after operation) (before operation)
    · rw [Function.update_of_ne same]

theorem progress_write (state : SkeletonState T) (thread : T) (operation : ServiceDiscoveryOperation)
    (named : ServiceDescription) (idle : state.process.request thread = .idle)
    (free : state.storing thread = none)
    (kind : named = service → operation = .offer ∨ operation = .stopOffer)
    (held : Progress service state) :
    Progress service {state with process := {state.process with
      request := Function.update state.process.request thread (.written operation named)}} := by
  refine held.elsewhere thread _ state.process.pending free ?_ ?_ ?_ rfl rfl
  · simp [idle]
  · simp
  · intro latest here
    obtain ⟨same,about⟩ := RequestPc.written.inj here
    rw [← same]
    exact kind about

theorem progress_cycle (state : SkeletonState T) (process : LocalState T)
    (written : List ServiceDiscovery) (move : Move own state.process .cycle process written)
    (held : Progress service state) : Progress service {state with process := process} := by
  cases move with
  | resend visited todo at_send =>
    refine held.frame held.kind held.free (fun _ _ => Iff.rfl) rfl rfl rfl ?_
    intro absent
    rw [resend_eq,OrderedMap.find_alter]
    split
    next same => rw [← same,absent,Option.bind_none]
    next => exact absent
  | _ => exact held.frame held.kind held.free (fun _ _ => Iff.rfl) rfl rfl rfl id

theorem progress_first_other (state : SkeletonState T) (thread : T)
    (operation : ServiceDiscoveryOperation) (named : ServiceDescription)
    (at_first : state.process.request thread = .written operation named) (different : service ≠ named)
    (held : Progress service state) :
    Progress service {state with process := {state.process with
      pending := firstRegion operation named state.process.pending
      request := Function.update state.process.request thread (.cleared operation named)}} := by
  have free := held.storing_none thread (by simp [at_first])
  have kept := firstRegion_other operation named service state.process.pending different
  refine held.elsewhere thread _ _ free ?_ ?_ ?_ kept.1 kept.2
  · simp [at_first]
  · simp [Ne.symm different]
  · simp

theorem progress_second_other (state : SkeletonState T) (thread : T)
    (operation : ServiceDiscoveryOperation) (named : ServiceDescription)
    (at_second : state.process.request thread = .cleared operation named) (different : service ≠ named)
    (held : Progress service state) :
    Progress service {state with process := {state.process with
      pending := secondRegion own operation named state.process.pending
      request := Function.update state.process.request thread .idle}} := by
  have free := held.storing_none thread (by simp [at_second])
  have kept := secondRegion_other own operation named service state.process.pending different
  refine held.elsewhere thread _ _ free ?_ ?_ ?_ kept.1 kept.2
  · simp [at_second,Ne.symm different]
  · simp
  · simp

/-- The first region clears the slot that the second region of the opposite kind fills. -/
theorem progress_first (state : SkeletonState T) (thread : T) (operation : ServiceDiscoveryOperation)
    (at_first : state.process.request thread = .written operation service)
    (alone : ∀ other latest, state.process.request other = .cleared latest service → latest = operation)
    (held : Progress service state) :
    Progress service {state with process := {state.process with
      pending := firstRegion operation service state.process.pending
      request := Function.update state.process.request thread (.cleared operation service)}} := by
  have free := held.storing_none thread (by simp [at_first])
  have kind := held.kind thread operation (.inl at_first)
  have equal (other : T) (latest : ServiceDiscoveryOperation)
      (now : Function.update state.process.request thread (.cleared operation service) other =
        .cleared latest service) : latest = operation := by
    by_cases same : other = thread
    · subst same
      simpa using now.symm
    · rw [Function.update_of_ne same] at now
      exact alone other latest now
  refine ⟨?_,held.free_update thread _ free,?_,?_,?_,?_,?_⟩
  · apply held.kind_update
    intro latest here
    simp only [reduceCtorEq,RequestPc.cleared.injEq,and_true,false_or] at here
    rw [← here]
    exact kind
  · intro first second left right leftNow rightNow
    exact (equal first left leftNow).trans (equal second right rightNow).symm
  · intro other now
    rw [← equal other .offer now]
    simp [firstRegion_someTimes,announces]
  · intro other now
    rw [← equal other .stopOffer now]
    simp [firstRegion_always,announces]
  · rcases kind with rfl | rfl
    · simp [firstRegion_someTimes,announces]
    · simp [firstRegion_always,announces]
  · intro quiet
    refine absurd (Or.inl ⟨operation,?_⟩) (quiet thread)
    simp

theorem progress_second (state : SkeletonState T) (thread : T) (operation : ServiceDiscoveryOperation)
    (at_second : state.process.request thread = .cleared operation service)
    (held : Progress service state) :
    Progress service {state with
      process := {state.process with
        pending := secondRegion own operation service state.process.pending
        request := Function.update state.process.request thread .idle}
      storing := Function.update state.storing thread (some (decide (operation = .offer)))} := by
  have kind := held.kind thread operation (.inr at_second)
  have remaining (other : T) (latest : ServiceDiscoveryOperation)
      (now : Function.update state.process.request thread .idle other = .cleared latest service) :
      state.process.request other = .cleared latest service := by
    by_cases same : other = thread
    · subst same
      simp at now
    · rwa [Function.update_of_ne same] at now
  refine ⟨?_,?_,?_,?_,?_,?_,?_⟩
  · apply held.kind_update
    simp
  · intro other busy
    by_cases same : other = thread
    · subst same
      simp
    · simp only [Function.update_of_ne same] at busy ⊢
      exact held.free other busy
  · intro first second left right leftNow rightNow
    exact held.same first second left right (remaining _ _ leftNow) (remaining _ _ rightNow)
  · intro other now
    have before := remaining _ _ now
    have offers := held.same _ _ _ _ before at_second
    rw [← offers]
    simpa [secondRegion_someTimes,announces] using held.offering other before
  · intro other now
    have before := remaining _ _ now
    have stops := held.same _ _ _ _ before at_second
    rw [← stops]
    simpa [secondRegion_always,announces] using held.stopping other before
  · rcases kind with rfl | rfl
    · simp [secondRegion_someTimes,announces,held.offering thread at_second]
    · simp [secondRegion_always,announces,held.stopping thread at_second]
  · intro quiet
    -- The thread has now to store what its own region has made the announcement.
    refine absurd (Or.inr ?_) (quiet thread)
    rcases kind with rfl | rfl
    · simp [announced,secondRegion_always,announces]
    · simp [announced,secondRegion_always,announces,held.stopping thread at_second]

theorem progress_store (state : SkeletonState T) (thread : T) (offered : Bool)
    (pending_store : state.storing thread = some offered)
    (allowed : state.storing thread = some (announced service state) →
      ∀ other, state.storing other = some (!announced service state) →
        ∃ last, last ≠ thread ∧ Settling service state last)
    (held : Progress service state) :
    Progress service {state with
      isOffered := offered
      storing := Function.update state.storing thread none} := by
  have idle := held.free thread (by simp [pending_store])
  have settling (last : T) (different : last ≠ thread) (before : Settling service state last) :
      Settling service (⟨state.process,offered,Function.update state.storing thread none⟩ :
        SkeletonState T) last := by
    simpa [Settling,announced,different] using before
  refine ⟨held.kind,?_,held.same,held.offering,held.stopping,held.apart,?_⟩
  · intro other busy
    by_cases same : other = thread
    · subst same
      exact idle
    · simp only [Function.update_of_ne same] at busy
      exact held.free other busy
  · intro quiet
    by_cases current : offered = announced service state
    · refine ⟨current,?_⟩
      intro other remaining
      have different : other ≠ thread := by
        intro same
        subst same
        simp at remaining
      have before : state.storing other = some (!announced service state) := by
        simpa [announced,different] using remaining
      obtain ⟨last,apart,unsettled⟩ := allowed (current ▸ pending_store) other before
      exact absurd (settling last apart unsettled) (quiet last)
    · -- An outdated value is stored: some other thread has still to correct it.
      exfalso
      have outdated : offered = !announced service state := Bool.eq_not.mpr current
      have unsettled : ¬ ∀ last, ¬ Settling service state last := by
        intro settled
        exact (held.settled settled).2 thread (pending_store.trans (congrArg some outdated))
      obtain ⟨last,before⟩ := not_forall_not.mp unsettled
      refine quiet last (settling last ?_ before)
      intro same
      subst same
      rcases before with ⟨operation,between⟩ | stores
      · simp [idle] at between
      · exact current (Option.some.inj (pending_store.symm.trans stores))

theorem step_progress (state next : SkeletonState T) (label : Label T)
    (stepped : step own service state label = some next) (allowed : Serialised service state label)
    (held : Progress service state) : Progress service next := by
  cases label with
  | call thread call =>
    simp only [step] at stepped
    split at stepped
    next free =>
      obtain ⟨process,written,move,rfl⟩ := withProcess_move _ _ _ stepped
      cases move with
      | write _ operation named idle =>
        exact progress_write state thread _ _ idle free (fun _ => by cases call <;> simp [Call.operation])
          held
    next => cases stepped
  | request thread operation other =>
    simp only [step] at stepped
    split at stepped
    next free =>
      obtain ⟨process,written,move,rfl⟩ := withProcess_move _ _ _ stepped
      cases move with
      | write _ operation named idle =>
        exact progress_write state thread _ _ idle free.1 (fun same => absurd same free.2) held
    next => cases stepped
  | first thread =>
    obtain ⟨process,written,move,rfl⟩ := withProcess_move _ _ _ stepped
    cases move with
    | first _ operation named at_first open_mutex =>
      by_cases same : named = service
      · subst same
        exact progress_first state thread operation at_first (allowed operation at_first) held
      · exact progress_first_other state thread operation named at_first (Ne.symm same) held
  | second thread =>
    obtain ⟨middle,ran,rfl⟩ := Option.map_eq_some_iff.mp stepped
    obtain ⟨process,written,move,rfl⟩ := withProcess_move _ _ _ ran
    cases move with
    | second _ operation named at_second open_mutex =>
      by_cases same : named = service
      · subst same
        have stored : toStore named (state.process.request thread) =
            some (decide (operation = .offer)) := by simp [at_second,toStore]
        rw [stored]
        exact progress_second state thread operation at_second held
      · have stored : toStore service (state.process.request thread) = none := by
          simp [at_second,toStore,same]
        have unchanged : Function.update state.storing thread none = state.storing := by
          rw [← held.storing_none thread (by simp [at_second]),Function.update_eq_self]
        rw [stored,unchanged]
        exact progress_second_other state thread operation named at_second (Ne.symm same) held
  | store thread =>
    obtain ⟨offered,pending_store,rfl⟩ := Option.map_eq_some_iff.mp stepped
    exact progress_store state thread offered pending_store allowed held
  | cycle =>
    obtain ⟨process,written,move,rfl⟩ := withProcess_move _ _ _ stepped
    exact progress_cycle state process written move held

/-- In a run in which calls of opposite kinds do not overlap between their regions and store
in the order of their regions, every state in which all calls have returned is consistent. -/
theorem serialised_calls_consistent (own : ServiceEntityInfo) (service : ServiceDescription)
    (labels : List (Label T))
    (serialised : Along (step own service) (Serialised service) {} labels) :
    Throughout (step own service) (fun state => Returned service state → Consistent service state)
      {} labels := by
  have progress := throughout_of_along (step own service) (Serialised service) (Progress service)
    (fun state label next stepped allowed held => step_progress state next label stepped allowed held)
    labels {} serialised initial_progress
  refine Throughout.imp _ _ _ ?_ labels ({} : SkeletonState T) progress
  intro state held returned
  have quiet (thread : T) : ¬ Settling service state thread := by
    obtain ⟨free,outside⟩ := returned thread
    rintro (⟨operation,between⟩ | stores)
    · exact (outside operation).2 between
    · cases free.symm.trans stores
  refine ⟨held.apart,?_⟩
  rw [(held.settled quiet).1,announced]

end Preservation

def testService : ServiceDescription := ⟨10,1⟩

def testProcess : ServiceEntityInfo := ⟨"10.0.0.1/","100"⟩

/-- An offer and a stop that both clear their slot before either fills its own. -/
def overlapping : List (Label Bool) :=
  [.call true .offerService,.first true,.call false .stopOfferService,.first false,
    .second true,.store true,.second false,.store false]

theorem overlap_leaves_both_pending : ¬ ∀ final, exec (step testProcess testService)
    ({} : SkeletonState Bool) overlapping = some final →
    Returned testService final → Consistent testService final := by
  intro all
  have consistent := all _ rfl ?_
  · exact consistent.1 ⟨rfl,rfl⟩
  · intro thread
    refine ⟨?_,?_⟩
    · cases thread <;> rfl
    · intro operation
      refine ⟨?_,?_⟩
      · cases thread <;> exact RequestPc.noConfusion
      · cases thread <;> exact RequestPc.noConfusion

def oneAfterTheOther : List (Label Bool) :=
  [.call true .offerService,.first true,.second true,.store true,
    .call false .stopOfferService,.first false,.second false,.store false]

/-- While no other thread has anything to store, a store is in order. -/
theorem store_alone {T : Type} (service : ServiceDescription) (state : SkeletonState T) (thread : T)
    (alone : ∀ other, other ≠ thread → state.storing other = none) :
    Serialised service state (.store thread) := by
  intro current other outdated
  by_cases same : other = thread
  · subst same
    rw [current] at outdated
    simp at outdated
  · cases (alone other same).symm.trans outdated

theorem stop_after_offer_consistent : Throughout (step testProcess testService)
    (fun state => Returned testService state → Consistent testService state)
    ({} : SkeletonState Bool) oneAfterTheOther := by
  apply serialised_calls_consistent testProcess testService oneAfterTheOther
  intro _ called
  cases called
  refine ⟨trivial,?_⟩
  intro _ cleared
  cases cleared
  refine ⟨?_,?_⟩
  · intro operation _ other latest between
    cases other <;> cases between
  intro _ filled
  cases filled
  refine ⟨trivial,?_⟩
  intro _ stored
  cases stored
  refine ⟨?_,?_⟩
  · apply store_alone
    intro other different
    cases other with
    | false => rfl
    | true => exact absurd rfl different
  intro _ called
  cases called
  refine ⟨trivial,?_⟩
  intro _ cleared
  cases cleared
  refine ⟨?_,?_⟩
  · intro operation _ other latest between
    cases other <;> cases between
  intro _ filled
  cases filled
  refine ⟨trivial,?_⟩
  intro _ stored
  cases stored
  refine ⟨?_,trivial⟩
  apply store_alone
  intro other different
  cases other with
  | false => exact absurd rfl different
  | true => rfl

end Smw.ServiceSkeleton
