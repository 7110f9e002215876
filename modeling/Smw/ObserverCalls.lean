import Smw.ServiceObservers

/-! The calls of observers, each with its beginning and its end. They are made one after the
other while the mutex of the observers is held, so a removal falls between none of them. -/
namespace Smw.ObserverCalls
open Foundation Foundation.Execution ServiceRegistry ServiceObservers

/-- Where the delivery stands that holds the mutex of the registry. -/
inductive Delivery
  | changed (service : ServiceDescription)
  | notifying
deriving DecidableEq

structure CallState where
  registry : Registry := OrderedMap.empty
  observeServiceCallbacks : Observers := OrderedMap.empty
  uniqueId : UInt32 := 0
  delivery : Option Delivery := none
  /-- The calls that the holder of the mutex of the observers has still to begin. -/
  holding : Option (List Call) := none
  running : Option Call := none
  /-- The number of registrations so far, and every call that has begun. -/
  started : Nat := 0
  begun : List Call := []

inductive Label
  | update (discovery : ServiceDiscovery)
  | query (service : ServiceDescription)
  | notify
  | startObserve (service : ServiceDescription) (nonEmpty : Bool)
  | stopObserve (service : ServiceDescription) (uniqueId : UInt32)
  | call
  | finish
  | unlock
deriving DecidableEq

def registered (nonEmpty : Bool) (started : Nat) : Callback := if nonEmpty then some started else none

def immediateCalls (registry : Registry) (service : ServiceDescription) (callback : Callback) : List Call :=
  if (registry.find service).isSome then invoke callback (statusOf registry service) else []

/-- A step of the registry of a process on host `own`, none where a mutex is held. -/
def step (own : String) (state : CallState) : Label → Option CallState
  | .update discovery =>
    if state.delivery = none then
      some {state with
        registry := updateRegistryFromServiceDiscovery own state.registry discovery
        delivery := some (.changed discovery.serviceDesc)}
    else none
  | .query service =>
    if state.delivery = none then
      some {state with registry := (queryServiceStatus state.registry service).2}
    else none
  | .notify =>
    match state.delivery,state.holding with
    | some (.changed service),none =>
      some {state with
        delivery := some .notifying
        holding := some
          (notifyUserCallback state.observeServiceCallbacks service (statusOf state.registry service))}
    | _,_ => none
  | .startObserve service nonEmpty =>
    if state.holding = none then
      let callback := registered nonEmpty state.started
      let callbacks := (state.observeServiceCallbacks.find service).getD []
      some {state with
        observeServiceCallbacks :=
          state.observeServiceCallbacks.insert service (callbacks ++ [⟨callback,state.uniqueId⟩])
        uniqueId := state.uniqueId + 1
        started := state.started + 1
        holding := some (immediateCalls state.registry service callback)}
    else none
  | .stopObserve service uniqueId =>
    if state.holding = none then
      some {state with
        observeServiceCallbacks := stopObserveServiceStatus state.observeServiceCallbacks service uniqueId}
    else none
  | .call =>
    match state.holding,state.running with
    | some (call :: rest),none =>
      some {state with holding := some rest,running := some call,begun := state.begun ++ [call]}
    | _,_ => none
  | .finish => state.running.map (fun _ => {state with running := none})
  | .unlock =>
    match state.holding,state.running with
    | some [],none =>
      some {state with
        holding := none
        delivery := if state.delivery = some .notifying then none else state.delivery}
    | _,_ => none

inductive Move (own : String) (state : CallState) : Label → CallState → Prop
  | update (discovery) (free : state.delivery = none) :
      Move own state (.update discovery)
        {state with
          registry := updateRegistryFromServiceDiscovery own state.registry discovery
          delivery := some (.changed discovery.serviceDesc)}
  | query (service) (free : state.delivery = none) :
      Move own state (.query service)
        {state with registry := (queryServiceStatus state.registry service).2}
  | notify (service) (changed : state.delivery = some (.changed service)) (unlocked : state.holding = none) :
      Move own state .notify
        {state with
          delivery := some .notifying
          holding := some
            (notifyUserCallback state.observeServiceCallbacks service (statusOf state.registry service))}
  | start (service nonEmpty) (unlocked : state.holding = none) :
      Move own state (.startObserve service nonEmpty)
        {state with
          observeServiceCallbacks := state.observeServiceCallbacks.insert service
            ((state.observeServiceCallbacks.find service).getD [] ++
              [⟨registered nonEmpty state.started,state.uniqueId⟩])
          uniqueId := state.uniqueId + 1
          started := state.started + 1
          holding := some (immediateCalls state.registry service (registered nonEmpty state.started))}
  | stop (service uniqueId) (unlocked : state.holding = none) :
      Move own state (.stopObserve service uniqueId)
        {state with
          observeServiceCallbacks :=
            stopObserveServiceStatus state.observeServiceCallbacks service uniqueId}
  | call (call rest) (holding : state.holding = some (call :: rest)) (idle : state.running = none) :
      Move own state .call
        {state with holding := some rest,running := some call,begun := state.begun ++ [call]}
  | finish (call) (running : state.running = some call) : Move own state .finish {state with running := none}
  | unlock (holding : state.holding = some []) (idle : state.running = none) :
      Move own state .unlock
        {state with
          holding := none
          delivery := if state.delivery = some .notifying then none else state.delivery}

theorem step_move (own : String) (state next : CallState) (label : Label)
    (stepped : step own state label = some next) : Move own state label next := by
  cases label with
  | update discovery =>
    simp only [step] at stepped
    split at stepped
    next free =>
      cases stepped
      exact .update discovery free
    next => cases stepped
  | query service =>
    simp only [step] at stepped
    split at stepped
    next free =>
      cases stepped
      exact .query service free
    next => cases stepped
  | notify =>
    simp only [step] at stepped
    split at stepped
    next service changed unlocked =>
      cases stepped
      exact .notify service changed unlocked
    next => cases stepped
  | startObserve service nonEmpty =>
    simp only [step] at stepped
    split at stepped
    next unlocked =>
      cases stepped
      exact .start service nonEmpty unlocked
    next => cases stepped
  | stopObserve service uniqueId =>
    simp only [step] at stepped
    split at stepped
    next unlocked =>
      cases stepped
      exact .stop service uniqueId unlocked
    next => cases stepped
  | call =>
    simp only [step] at stepped
    split at stepped
    next call rest holding idle =>
      cases stepped
      exact .call call rest holding idle
    next => cases stepped
  | finish =>
    obtain ⟨call,running,rfl⟩ := Option.map_eq_some_iff.mp stepped
    exact .finish call running
  | unlock =>
    simp only [step] at stepped
    split at stepped
    next holding idle =>
      cases stepped
      exact .unlock holding idle
    next => cases stepped

section Refinement

/-- With the calls made at the moment they are scheduled. -/
def scheduled (state : CallState) : ObserverState where
  registry := state.registry
  observeServiceCallbacks := state.observeServiceCallbacks
  uniqueId := state.uniqueId
  delivering := match state.delivery with
    | some (.changed service) => some service
    | _ => none
  started := state.started
  calls := state.begun ++ state.holding.getD []

/-- Every step is one of the registry with calls made at once, or leaves it as it is. -/
theorem step_refines (own : String) (state next : CallState) (label : Label)
    (stepped : step own state label = some next) :
    scheduled next = scheduled state ∨
      ∃ coarse, ServiceObservers.step own (scheduled state) coarse = some (scheduled next) := by
  cases step_move own state next label stepped with
  | update discovery free =>
    refine .inr ⟨.update discovery,?_⟩
    simp [ServiceObservers.step,scheduled,free]
  | query service free =>
    refine .inr ⟨.query service,?_⟩
    simp [ServiceObservers.step,scheduled,free]
  | notify service changed unlocked =>
    refine .inr ⟨.notify,?_⟩
    simp [ServiceObservers.step,scheduled,changed,unlocked]
  | start service nonEmpty unlocked =>
    refine .inr ⟨.startObserve service nonEmpty,?_⟩
    simp [ServiceObservers.step,scheduled,startObserveServiceStatus,registered,immediateCalls,unlocked]
  | stop service uniqueId unlocked =>
    refine .inr ⟨.stopObserve service uniqueId,?_⟩
    simp [ServiceObservers.step,scheduled]
  | call call rest holding idle =>
    refine .inl ?_
    simp [scheduled,holding]
  | finish call running => exact .inl rfl
  | unlock holding idle =>
    refine .inl ?_
    unfold scheduled
    rw [holding]
    cases delivery : state.delivery with
    | none => rfl
    | some stage =>
      cases stage with
      | changed service => rfl
      | notifying => rfl

end Refinement

section Property

structure DistinctIds (observers : Observers) : Prop where
  within : ∀ service, ((observersOf observers service).map ObserveCallbackWithId.uniqueId).Nodup
  across : ∀ service other, service ≠ other → ∀ first ∈ observersOf observers service,
    ∀ second ∈ observersOf observers other, first.uniqueId ≠ second.uniqueId

/-- The observer alone is gone, and the others stand in their order. -/
def Removes (service : ServiceDescription) (observer : ObserveCallbackWithId) (before after : Observers) : Prop :=
  (∃ earlier later, observersOf before service = earlier ++ observer :: later ∧
    observersOf after service = earlier ++ later) ∧
  ∀ other, other ≠ service → observersOf after other = observersOf before other

def isStart : Label → Bool
  | .startObserve _ _ => true
  | _ => false

/-- Below the wrap of the counter, an id is the number of its registration. -/
structure Numbered (state : CallState) : Prop where
  next_id : state.uniqueId = UInt32.ofNat state.started
  earlier : ∀ service, ∀ observer ∈ observersOf state.observeServiceCallbacks service,
    observer.uniqueId.toNat < state.started
  registration : ∀ service, ∀ observer ∈ observersOf state.observeServiceCallbacks service,
    ∀ number, observer.callback = some number → observer.uniqueId.toNat = number
  distinct : DistinctIds state.observeServiceCallbacks

/-- The callback of the registration neither runs nor can be called, and has not been called
since the calls of the past. -/
structure Silent (number : Nat) (past : List Call) (state : CallState) : Prop where
  older : number < state.started
  unregistered : ∀ service, ∀ observer ∈ observersOf state.observeServiceCallbacks service,
    observer.callback ≠ some number
  unscheduled : ∀ call ∈ state.holding.getD [], call.1 ≠ number
  idle : ∀ call, state.running = some call → call.1 ≠ number
  later : ∃ more, state.begun = past ++ more ∧ ∀ call ∈ more, call.1 ≠ number

end Property

section Lists
variable (observers : Observers) (service : ServiceDescription)

theorem observersOf_start (other : ServiceDescription) (added : ObserveCallbackWithId) :
    observersOf (observers.insert service ((observers.find service).getD [] ++ [added])) other =
      if other = service then observersOf observers service ++ [added] else observersOf observers other := by
  unfold observersOf
  rw [OrderedMap.find_insert]
  split
  next => rfl
  next => rfl

theorem start_distinct (added : ObserveCallbackWithId)
    (fresh : ∀ other, ∀ observer ∈ observersOf observers other, observer.uniqueId ≠ added.uniqueId)
    (distinct : DistinctIds observers) :
    DistinctIds (observers.insert service ((observers.find service).getD [] ++ [added])) where
  within := by
    intro other
    rw [observersOf_start]
    split
    next =>
      rw [List.map_append,List.nodup_append]
      refine ⟨distinct.within service,List.nodup_singleton _,?_⟩
      intro id member last equal
      obtain ⟨observer,listed,rfl⟩ := List.mem_map.mp member
      rw [List.mem_singleton.mp equal]
      exact fresh service observer listed
    next => exact distinct.within other
  across := by
    intro first_service second_service different first listed second also
    rw [mem_of_start] at listed also
    rcases listed with before | ⟨rfl,rfl⟩
    · rcases also with present | ⟨rfl,rfl⟩
      · exact distinct.across first_service second_service different first before second present
      · exact fresh first_service first before
    · rcases also with present | ⟨same,_⟩
      · exact (fresh second_service second present).symm
      · exact absurd same.symm different

theorem stop_distinct (uniqueId : UInt32) (distinct : DistinctIds observers) :
    DistinctIds (stopObserveServiceStatus observers service uniqueId) where
  within := by
    intro other
    rw [observersOf_stop]
    split
    next => exact (distinct.within other).sublist ((List.eraseP_sublist).map _)
    next => exact distinct.within other
  across := by
    intro first_service second_service different first listed second also
    exact distinct.across first_service second_service different first
      (mem_of_stop _ _ _ _ _ listed) second (mem_of_stop _ _ _ _ _ also)

theorem stop_removes (observer : ObserveCallbackWithId) (listed : observer ∈ observersOf observers service)
    (distinct : DistinctIds observers) :
    Removes service observer observers (stopObserveServiceStatus observers service observer.uniqueId) := by
  constructor
  · have matched : decide (observer.uniqueId = observer.uniqueId) = true := decide_eq_true rfl
    obtain ⟨found,earlier,later,_,same,split,erased⟩ :=
      List.exists_of_eraseP (p := fun other => decide (other.uniqueId = observer.uniqueId)) listed matched
    have equal : found = observer := by
      refine List.inj_on_of_nodup_map (distinct.within service) ?_ listed (of_decide_eq_true same)
      rw [split]
      simp
    subst equal
    refine ⟨earlier,later,split,?_⟩
    rw [observersOf_stop,if_pos rfl]
    exact erased
  · intro other different
    rw [observersOf_stop,if_neg different]

theorem removed_not_mem (observer : ObserveCallbackWithId) (listed : observer ∈ observersOf observers service)
    (distinct : DistinctIds observers) (other : ServiceDescription) (remaining : ObserveCallbackWithId)
    (member : remaining ∈ observersOf (stopObserveServiceStatus observers service observer.uniqueId) other) :
    remaining.uniqueId ≠ observer.uniqueId := by
  obtain ⟨⟨earlier,later,before,after⟩,others⟩ := stop_removes observers service observer listed distinct
  by_cases same : other = service
  · subst same
    have unique := distinct.within other
    rw [before,List.map_append,List.map_cons,List.nodup_middle,List.nodup_cons] at unique
    rw [after] at member
    intro equal
    apply unique.1
    rw [← List.map_append,← equal]
    exact List.mem_map_of_mem member
  · rw [others other same] at member
    exact distinct.across other service same remaining member observer listed

end Lists

section Preservation
variable {own : String}

theorem initial_numbered : Numbered {} where
  next_id := rfl
  earlier := by
    intro service observer member
    cases member
  registration := by
    intro service observer member
    cases member
  distinct := by
    constructor
    · intro service
      exact List.nodup_nil
    · intro service other _ first member
      cases member

/-- A step that neither starts nor stops an observer. -/
theorem Numbered.congr {state next : CallState} (held : Numbered state)
    (observers : next.observeServiceCallbacks = state.observeServiceCallbacks)
    (uniqueId : next.uniqueId = state.uniqueId) (started : next.started = state.started) : Numbered next := by
  refine ⟨?_,?_,?_,?_⟩
  · rw [uniqueId,started]
    exact held.next_id
  · rw [observers,started]
    exact held.earlier
  · rw [observers]
    exact held.registration
  · rw [observers]
    exact held.distinct

theorem start_numbered (state next : CallState) (service : ServiceDescription) (nonEmpty : Bool)
    (observers : next.observeServiceCallbacks = state.observeServiceCallbacks.insert service
      ((state.observeServiceCallbacks.find service).getD [] ++
        [⟨registered nonEmpty state.started,state.uniqueId⟩]))
    (uniqueId : next.uniqueId = state.uniqueId + 1) (started : next.started = state.started + 1)
    (bounded : next.started ≤ 2 ^ 32) (held : Numbered state) : Numbered next := by
  have below : state.started < 2 ^ 32 := by omega
  have new_id : state.uniqueId.toNat = state.started := by
    rw [held.next_id]
    exact UInt32.toNat_ofNat_of_lt' below
  refine ⟨?_,?_,?_,?_⟩
  · rw [uniqueId,started,held.next_id,UInt32.ofNat_add]
    rfl
  · intro other observer member
    rw [observers,mem_of_start] at member
    rw [started]
    rcases member with before | ⟨_,rfl⟩
    · exact Nat.lt_succ_of_lt (held.earlier other observer before)
    · change state.uniqueId.toNat < state.started + 1
      omega
  · intro other observer member number same
    rw [observers,mem_of_start] at member
    rcases member with before | ⟨_,rfl⟩
    · exact held.registration other observer before number same
    · unfold registered at same
      split at same
      next =>
        cases same
        exact new_id
      next => cases same
  · rw [observers]
    refine start_distinct _ service _ ?_ held.distinct
    intro other observer member equal
    have older := held.earlier other observer member
    rw [equal,new_id] at older
    omega

theorem step_numbered (state next : CallState) (label : Label)
    (stepped : step own state label = some next) (bounded : next.started ≤ 2 ^ 32)
    (held : Numbered state) : Numbered next := by
  cases step_move own state next label stepped with
  | update discovery free => exact held.congr rfl rfl rfl
  | query service free => exact held.congr rfl rfl rfl
  | notify service changed unlocked => exact held.congr rfl rfl rfl
  | start service nonEmpty unlocked => exact start_numbered state _ service nonEmpty rfl rfl rfl bounded held
  | stop service uniqueId unlocked =>
    refine ⟨held.next_id,?_,?_,stop_distinct _ service uniqueId held.distinct⟩
    · intro other observer member
      exact held.earlier other observer (mem_of_stop _ _ _ _ _ member)
    · intro other observer member
      exact held.registration other observer (mem_of_stop _ _ _ _ _ member)
  | call call rest holding idle => exact held.congr rfl rfl rfl
  | finish call running => exact held.congr rfl rfl rfl
  | unlock holding idle => exact held.congr rfl rfl rfl

theorem step_started (state next : CallState) (label : Label) (stepped : step own state label = some next) :
    next.started = state.started + [label].countP isStart := by
  cases step_move own state next label stepped <;> rfl

/-- A callback only runs while the mutex of the observers is held. -/
theorem step_locked (state next : CallState) (label : Label) (stepped : step own state label = some next)
    (held : state.holding = none → state.running = none) : next.holding = none → next.running = none := by
  cases step_move own state next label stepped with
  | update discovery free => exact held
  | query service free => exact held
  | notify service changed unlocked => exact fun _ => held unlocked
  | start service nonEmpty unlocked => exact fun _ => held unlocked
  | stop service uniqueId unlocked => exact held
  | call call rest holding idle =>
    intro unlocked
    cases unlocked
  | finish call running => exact fun _ => rfl
  | unlock holding idle => exact fun _ => idle

/-- An observer stays until it is stopped. -/
theorem step_listed (service : ServiceDescription) (observer : ObserveCallbackWithId) (state : CallState)
    (label : Label) (next : CallState) (unstopped : label ≠ .stopObserve service observer.uniqueId)
    (stepped : step own state label = some next)
    (held : observer ∈ observersOf state.observeServiceCallbacks service) :
    observer ∈ observersOf next.observeServiceCallbacks service := by
  cases step_move own state next label stepped with
  | update discovery free => exact held
  | query other free => exact held
  | notify other changed unlocked => exact held
  | start other nonEmpty unlocked => exact (mem_of_start _ _ _ _ _).mpr (.inl held)
  | stop other uniqueId unlocked =>
    change observer ∈ observersOf (stopObserveServiceStatus _ _ _) service
    rw [observersOf_stop]
    split
    next same =>
      subst same
      have different : observer.uniqueId ≠ uniqueId := by
        intro equal
        exact unstopped (by rw [equal])
      exact (List.mem_eraseP_of_neg (by simpa using different)).mpr held
    next => exact held
  | call call rest holding idle => exact held
  | finish call running => exact held
  | unlock holding idle => exact held

theorem notify_silent (number : Nat) (past : List Call) (state : CallState) (service : ServiceDescription)
    (held : Silent number past state) : Silent number past {state with
      delivery := some .notifying
      holding := some
        (notifyUserCallback state.observeServiceCallbacks service (statusOf state.registry service))} := by
  refine ⟨held.older,held.unregistered,?_,held.idle,held.later⟩
  intro call scheduled equal
  obtain ⟨⟨observer,listed,same⟩,_⟩ := (mem_notify _ _ _ _).mp scheduled
  rw [equal] at same
  exact held.unregistered service observer listed same

theorem start_silent (number : Nat) (past : List Call) (state : CallState) (service : ServiceDescription)
    (nonEmpty : Bool) (held : Silent number past state) : Silent number past {state with
      observeServiceCallbacks := state.observeServiceCallbacks.insert service
        ((state.observeServiceCallbacks.find service).getD [] ++
          [⟨registered nonEmpty state.started,state.uniqueId⟩])
      uniqueId := state.uniqueId + 1
      started := state.started + 1
      holding := some (immediateCalls state.registry service (registered nonEmpty state.started))} := by
  have newer : registered nonEmpty state.started ≠ some number := by
    unfold registered
    split
    next =>
      intro same
      have older := held.older
      have equal := Option.some.inj same
      omega
    next => simp
  refine ⟨Nat.lt_succ_of_lt held.older,?_,?_,held.idle,held.later⟩
  · intro other observer member
    rcases (mem_of_start _ _ _ _ _).mp member with before | ⟨_,rfl⟩
    · exact held.unregistered other observer before
    · exact newer
  · intro call scheduled equal
    simp only [Option.getD_some,immediateCalls] at scheduled
    split at scheduled
    next =>
      have same := ((mem_invoke _ _ _).mp scheduled).1
      rw [equal] at same
      exact newer same
    next => cases scheduled

theorem call_silent (number : Nat) (past : List Call) (state : CallState) (call : Call) (rest : List Call)
    (holding : state.holding = some (call :: rest)) (held : Silent number past state) :
    Silent number past
      {state with holding := some rest,running := some call,begun := state.begun ++ [call]} := by
  have unscheduled := held.unscheduled
  rw [holding] at unscheduled
  have first : call.1 ≠ number := unscheduled call List.mem_cons_self
  refine ⟨held.older,held.unregistered,?_,?_,?_⟩
  · intro other listed
    exact unscheduled other (List.mem_cons_of_mem _ listed)
  · intro other running
    cases running
    exact first
  · obtain ⟨more,begun,silent⟩ := held.later
    refine ⟨more ++ [call],by simp [begun],?_⟩
    intro other member
    rcases List.mem_append.mp member with before | last
    · exact silent other before
    · rw [List.mem_singleton.mp last]
      exact first

theorem step_silent (number : Nat) (past : List Call) (state : CallState) (label : Label) (next : CallState)
    (stepped : step own state label = some next) (held : Silent number past state) :
    Silent number past next := by
  cases step_move own state next label stepped with
  | update discovery free => exact ⟨held.older,held.unregistered,held.unscheduled,held.idle,held.later⟩
  | query service free => exact ⟨held.older,held.unregistered,held.unscheduled,held.idle,held.later⟩
  | notify service changed unlocked => exact notify_silent number past state service held
  | start service nonEmpty unlocked => exact start_silent number past state service nonEmpty held
  | stop service uniqueId unlocked =>
    refine ⟨held.older,?_,held.unscheduled,held.idle,held.later⟩
    intro other observer member
    exact held.unregistered other observer (mem_of_stop _ _ _ _ _ member)
  | call call rest holding idle => exact call_silent number past state call rest holding held
  | finish call running =>
    refine ⟨held.older,held.unregistered,held.unscheduled,?_,held.later⟩
    intro other still
    cases still
  | unlock holding idle =>
    refine ⟨held.older,held.unregistered,?_,held.idle,held.later⟩
    intro call listed
    cases listed

theorem run_numbered (labels : List Label) (final : CallState)
    (ran : exec (step own) {} labels = some final) (bounded : labels.countP isStart ≤ 2 ^ 32) :
    Numbered final ∧ final.started = labels.countP isStart := by
  have tracked := exec_history (step own)
    (fun past state => state.started = past.countP isStart ∧ (state.started ≤ 2 ^ 32 → Numbered state)) {}
    ⟨rfl,fun _ => initial_numbered⟩ ?_ labels final ran
  · exact ⟨tracked.2 (by omega),tracked.1⟩
  · intro past state label next stepped before
    obtain ⟨counted,numbered⟩ := before
    have more := step_started state next label stepped
    refine ⟨by rw [more,counted,List.countP_append],?_⟩
    intro below
    exact step_numbered state next label stepped below (numbered (by omega))

end Preservation

section Stop
variable {own : String}

theorem started_id (before : List Label) (atStart : CallState)
    (ran : exec (step own) {} before = some atStart) (bounded : before.countP isStart < 2 ^ 32) :
    atStart.uniqueId.toNat = before.countP isStart := by
  obtain ⟨numbered,counted⟩ := run_numbered before atStart ran (Nat.le_of_lt bounded)
  rw [numbered.next_id,counted]
  exact UInt32.toNat_ofNat_of_lt' bounded

theorem started_listed (service : ServiceDescription) (nonEmpty : Bool) (middle : List Label)
    (atStart atStop : CallState) (unstopped : .stopObserve service atStart.uniqueId ∉ middle)
    (ran : exec (step own) atStart (.startObserve service nonEmpty :: middle) = some atStop) :
    ⟨registered nonEmpty atStart.started,atStart.uniqueId⟩ ∈
      observersOf atStop.observeServiceCallbacks service := by
  obtain ⟨begun,stepped,remaining⟩ := (exec_cons _ _ _ _ _).mp ran
  refine exec_allowed (step own) (fun label => label ≠ .stopObserve service atStart.uniqueId)
    (fun state => ⟨registered nonEmpty atStart.started,atStart.uniqueId⟩ ∈
      observersOf state.observeServiceCallbacks service) ?_ middle ?_ begun atStop remaining ?_
  · intro state label next allowed moved listed
    exact step_listed service _ state label next allowed moved listed
  · intro label member equal
    exact unstopped (equal ▸ member)
  · cases step_move own atStart begun _ stepped with
    | start _ _ unlocked => exact (mem_of_start _ _ _ _ _).mpr (.inr ⟨rfl,rfl⟩)

theorem stop_silent (service : ServiceDescription) (observer : ObserveCallbackWithId) (number : Nat)
    (state : CallState) (numbered : Numbered state)
    (locked : state.holding = none → state.running = none) (unlocked : state.holding = none)
    (listed : observer ∈ observersOf state.observeServiceCallbacks service)
    (its_number : observer.uniqueId.toNat = number) : Silent number state.begun {state with
      observeServiceCallbacks :=
        stopObserveServiceStatus state.observeServiceCallbacks service observer.uniqueId} := by
  refine ⟨its_number ▸ numbered.earlier service observer listed,?_,?_,?_,[],by simp,?_⟩
  · intro other remaining member same
    apply removed_not_mem _ service observer listed numbered.distinct other remaining member
    have equal := numbered.registration other remaining (mem_of_stop _ _ _ _ _ member) number same
    exact UInt32.toNat_inj.mp (equal.trans its_number.symm)
  · intro call scheduled
    simp [unlocked] at scheduled
  · intro call running
    simp [locked unlocked] at running
  · intro call member
    cases member

end Stop

/-- The id of an observer is the number of starts before its own. From its stop call on it
alone is removed, and its callback neither runs nor is called again. -/
theorem stopped_observer_gone (own : String) (labels : List Label) (final : CallState)
    (ran : exec (step own) {} labels = some final) (bounded : labels.countP isStart ≤ 2 ^ 32) :
    DistinctIds final.observeServiceCallbacks ∧
    (∀ before middle service nonEmpty atStart,
      labels = before ++ .startObserve service nonEmpty :: middle →
      exec (step own) {} before = some atStart →
      .stopObserve service atStart.uniqueId ∉ middle →
      atStart.uniqueId.toNat = before.countP isStart ∧
      ⟨registered nonEmpty atStart.started,atStart.uniqueId⟩ ∈
        observersOf final.observeServiceCallbacks service) ∧
    ∀ before middle after service nonEmpty atStart atStop stopped,
      labels = (before ++ .startObserve service nonEmpty :: middle) ++
        .stopObserve service atStart.uniqueId :: after →
      exec (step own) {} before = some atStart →
      exec (step own) {} (before ++ .startObserve service nonEmpty :: middle) = some atStop →
      step own atStop (.stopObserve service atStart.uniqueId) = some stopped →
      .stopObserve service atStart.uniqueId ∉ middle →
      Removes service ⟨registered nonEmpty atStart.started,atStart.uniqueId⟩
        atStop.observeServiceCallbacks stopped.observeServiceCallbacks ∧
      (∀ call, final.running = some call → call.1 ≠ atStart.started) ∧
      ∃ more, final.begun = stopped.begun ++ more ∧ ∀ call ∈ more, call.1 ≠ atStart.started := by
  refine ⟨(run_numbered labels final ran bounded).1.distinct,?_,?_⟩
  · intro before middle service nonEmpty atStart split at_start unstopped
    subst split
    simp only [List.countP_append,List.countP_cons,isStart,if_true] at bounded
    obtain ⟨first,at_first,from_start⟩ := (exec_append _ _ _ _ _).mp ran
    cases at_start.symm.trans at_first
    exact ⟨started_id before atStart at_start (by omega),
      started_listed service nonEmpty middle atStart final unstopped from_start⟩
  · intro before middle after service nonEmpty atStart atStop stopped split at_start at_stop stop_step unstopped
    subst split
    simp only [List.countP_append,List.countP_cons,isStart,if_true] at bounded
    have stop_bound : (before ++ .startObserve service nonEmpty :: middle).countP isStart ≤ 2 ^ 32 := by
      simp only [List.countP_append,List.countP_cons,isStart,if_true]
      omega
    have counted := (run_numbered before atStart at_start (by omega)).2
    have its_number := started_id before atStart at_start (by omega)
    have numbered := (run_numbered _ atStop at_stop stop_bound).1
    have locked : atStop.holding = none → atStop.running = none :=
      exec_invariant (step own) (fun state => state.holding = none → state.running = none)
        (fun state label next stepped held => step_locked state next label stepped held) _ {} atStop at_stop
        (fun _ => rfl)
    obtain ⟨first,at_first,from_start⟩ := (exec_append _ _ _ _ _).mp at_stop
    cases at_start.symm.trans at_first
    have listed := started_listed service nonEmpty middle atStart atStop unstopped from_start
    obtain ⟨second,at_second,from_stop⟩ := (exec_append _ _ _ _ _).mp ran
    cases at_stop.symm.trans at_second
    obtain ⟨third,at_third,remaining⟩ := (exec_cons _ _ _ _ _).mp from_stop
    cases stop_step.symm.trans at_third
    cases step_move own atStop stopped _ stop_step with
    | stop _ _ unlocked =>
      have silent := exec_invariant (step own) (Silent atStart.started atStop.begun)
        (fun state label next stepped held => step_silent _ _ state label next stepped held) after _ final
        remaining
        (stop_silent service _ atStart.started atStop numbered locked unlocked listed
          (its_number.trans counted.symm))
      exact ⟨stop_removes _ service _ listed numbered.distinct,silent.idle,silent.later⟩

def stoppedFirst : List Label := [
  .startObserve ⟨10,1⟩ true,.unlock,
  .startObserve ⟨10,1⟩ true,.unlock,
  .stopObserve ⟨10,1⟩ 0,
  .update ⟨0,⟨10,1,"10.0.0.1/","100"⟩⟩,.notify,.call]

/-- Of two observers of one service the first is stopped, and the second one runs. -/
theorem second_observer_runs : ∃ final, exec (step "10.0.0.1/") {} stoppedFirst = some final ∧
    (∃ status, final.running = some (1,status)) ∧ (∀ call ∈ final.begun, call.1 ≠ 0) ∧
    observersOf final.observeServiceCallbacks ⟨10,1⟩ = [⟨some 1,1⟩] := by
  have gone := stopped_observer_gone "10.0.0.1/" stoppedFirst _ rfl (by decide)
  obtain ⟨_,_,stopped⟩ := gone
  obtain ⟨_,_,more,begun,silent⟩ := stopped [] [.unlock,.startObserve ⟨10,1⟩ true,.unlock]
    [.update ⟨0,⟨10,1,"10.0.0.1/","100"⟩⟩,.notify,.call] ⟨10,1⟩ true {} _ _ rfl rfl rfl rfl (by decide)
  refine ⟨_,rfl,⟨_,rfl⟩,?_,rfl⟩
  rw [begun]
  exact silent

end Smw.ObserverCalls
