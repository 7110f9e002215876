import Smw.ServiceRegistry
import Smw.Foundation.Execution

/-! The observers of service status. A delivery changes the registry and notifies under a
second mutex, so registrations and removals may fall between its two steps. -/
namespace Smw.ServiceObservers
open Foundation Foundation.LastWord Foundation.Execution ServiceRegistry

/-- A callback is empty, or the one that the call of the given number has registered. -/
abbrev Callback := Option Nat

structure ObserveCallbackWithId where
  callback : Callback
  uniqueId : UInt32
deriving DecidableEq,Repr

abbrev Observers := OrderedMap ServiceDescription (List ObserveCallbackWithId)

abbrev Call := Nat × ServiceStatus

structure ObserverState where
  registry : Registry := OrderedMap.empty
  observeServiceCallbacks : Observers := OrderedMap.empty
  uniqueId : UInt32 := 0
  /-- The service of the delivery that holds the registry mutex and has still to notify. -/
  delivering : Option ServiceDescription := none
  /-- The number of registrations so far, and every call made of their callbacks. -/
  started : Nat := 0
  calls : List Call := []

inductive Label
  | update (discovery : ServiceDiscovery)
  | notify
  | startObserve (service : ServiceDescription) (nonEmpty : Bool)
  | stopObserve (service : ServiceDescription) (uniqueId : UInt32)
  | query (service : ServiceDescription)
deriving DecidableEq

/-- The calls of one callback, none if it is empty. -/
def invoke (callback : Callback) (status : ServiceStatus) : List Call :=
  match callback with
  | some registration => [(registration,status)]
  | none => []

def notifyUserCallback (observers : Observers) (service : ServiceDescription) (status : ServiceStatus) :
    List Call :=
  match observers.find service with
  | some callbacks => callbacks.flatMap (fun observer => invoke observer.callback status)
  | none => []

/-- Registers under the next id and calls back at once if the registry has an entry. -/
def startObserveServiceStatus (service : ServiceDescription) (callback : Callback)
    (state : ObserverState) : ObserverState :=
  let callbacks := (state.observeServiceCallbacks.find service).getD []
  let immediate :=
    if (state.registry.find service).isSome then invoke callback (statusOf state.registry service) else []
  {state with
    observeServiceCallbacks :=
      state.observeServiceCallbacks.insert service (callbacks ++ [⟨callback,state.uniqueId⟩])
    uniqueId := state.uniqueId + 1
    started := state.started + 1
    calls := state.calls ++ immediate}

def stopObserveServiceStatus (observers : Observers) (service : ServiceDescription) (uniqueId : UInt32) :
    Observers :=
  match observers.find service with
  | some callbacks =>
    observers.insert service (callbacks.eraseP (fun observer => observer.uniqueId = uniqueId))
  | none => observers

/-- A step of the registry of a process on host `own`, none where its mutex is held. -/
def step (own : String) (state : ObserverState) : Label → Option ObserverState
  | .update discovery =>
    if state.delivering = none then
      some {state with
        registry := updateRegistryFromServiceDiscovery own state.registry discovery
        delivering := some discovery.serviceDesc}
    else none
  | .notify =>
    state.delivering.map (fun service =>
      {state with
        calls := state.calls ++
          notifyUserCallback state.observeServiceCallbacks service (statusOf state.registry service)
        delivering := none})
  | .startObserve service nonEmpty =>
    let callback := if nonEmpty then some state.started else none
    some (startObserveServiceStatus service callback state)
  | .stopObserve service uniqueId =>
    let remaining := stopObserveServiceStatus state.observeServiceCallbacks service uniqueId
    some {state with observeServiceCallbacks := remaining}
  | .query service =>
    if state.delivering = none then
      some {state with registry := (queryServiceStatus state.registry service).2}
    else none

inductive Move (own : String) (state : ObserverState) : Label → ObserverState → Prop
  | update (discovery) (free : state.delivering = none) :
      Move own state (.update discovery)
        {state with
          registry := updateRegistryFromServiceDiscovery own state.registry discovery
          delivering := some discovery.serviceDesc}
  | notify (service) (delivering : state.delivering = some service) :
      Move own state .notify
        {state with
          calls := state.calls ++
            notifyUserCallback state.observeServiceCallbacks service (statusOf state.registry service)
          delivering := none}
  | start (service nonEmpty) :
      Move own state (.startObserve service nonEmpty)
        (startObserveServiceStatus service (if nonEmpty then some state.started else none) state)
  | stop (service uniqueId) :
      Move own state (.stopObserve service uniqueId)
        {state with
          observeServiceCallbacks :=
            stopObserveServiceStatus state.observeServiceCallbacks service uniqueId}
  | query (service) (free : state.delivering = none) :
      Move own state (.query service)
        {state with registry := (queryServiceStatus state.registry service).2}

theorem step_move (own : String) (state next : ObserverState) (label : Label)
    (stepped : step own state label = some next) : Move own state label next := by
  cases label with
  | update discovery =>
    simp only [step] at stepped
    split at stepped
    next free =>
      cases stepped
      exact .update discovery free
    next => cases stepped
  | notify =>
    obtain ⟨service,delivering,rfl⟩ := Option.map_eq_some_iff.mp stepped
    exact .notify service delivering
  | startObserve service nonEmpty =>
    cases stepped
    exact .start service nonEmpty
  | stopObserve service uniqueId =>
    cases stepped
    exact .stop service uniqueId
  | query service =>
    simp only [step] at stepped
    split at stepped
    next free =>
      cases stepped
      exact .query service free
    next => cases stepped

def lastReceived (registration : Nat) (calls : List Call) : ServiceStatus :=
  (lastWord (fun call => if call.1 = registration then some call.2 else none) calls).getD {}

def observersOf (observers : Observers) (service : ServiceDescription) : List ObserveCallbackWithId :=
  (observers.find service).getD []

/-- A registered callback has received the current status, unless its service is just
being delivered. -/
structure Current (state : ObserverState) : Prop where
  started : ∀ service, ∀ observer ∈ observersOf state.observeServiceCallbacks service,
    ∀ registration, observer.callback = some registration → registration < state.started
  called : ∀ call ∈ state.calls, call.1 < state.started
  apart : ∀ service other, ∀ first ∈ observersOf state.observeServiceCallbacks service,
    ∀ second ∈ observersOf state.observeServiceCallbacks other, ∀ registration,
    first.callback = some registration → second.callback = some registration → service = other
  received : ∀ service, state.delivering ≠ some service →
    ∀ observer ∈ observersOf state.observeServiceCallbacks service,
    ∀ registration, observer.callback = some registration →
      lastReceived registration state.calls = statusOf state.registry service

section Calls

theorem mem_invoke (callback : Callback) (status : ServiceStatus) (call : Call) :
    call ∈ invoke callback status ↔ callback = some call.1 ∧ call.2 = status := by
  cases callback with
  | none => simp [invoke]
  | some registration =>
    simp only [invoke,List.mem_singleton,Option.some.injEq]
    constructor
    · intro same
      subst same
      exact ⟨rfl,rfl⟩
    · intro parts
      exact Prod.ext parts.1.symm parts.2

theorem mem_notify (observers : Observers) (service : ServiceDescription) (status : ServiceStatus)
    (call : Call) :
    call ∈ notifyUserCallback observers service status ↔
      (∃ observer ∈ observersOf observers service, observer.callback = some call.1) ∧
        call.2 = status := by
  unfold notifyUserCallback observersOf
  cases observers.find service with
  | none => simp
  | some callbacks =>
    simp only [List.mem_flatMap,mem_invoke,Option.getD_some]
    constructor
    · intro invoked
      obtain ⟨observer,member,registered,same⟩ := invoked
      exact ⟨⟨observer,member,registered⟩,same⟩
    · intro notified
      obtain ⟨⟨observer,member,registered⟩,same⟩ := notified
      exact ⟨observer,member,registered,same⟩

theorem lastReceived_silent (registration : Nat) (calls : List Call)
    (silent : ∀ call ∈ calls, call.1 ≠ registration) : lastReceived registration calls = {} := by
  unfold lastReceived
  rw [(lastWord_eq_none_iff _ _).mpr]
  · rfl
  · intro call member
    exact if_neg (silent call member)

theorem lastReceived_append_silent (registration : Nat) (calls more : List Call)
    (silent : ∀ call ∈ more, call.1 ≠ registration) :
    lastReceived registration (calls ++ more) = lastReceived registration calls := by
  have none_more : lastWord (fun call : Call => if call.1 = registration then some call.2 else none)
      more = none := by
    apply (lastWord_eq_none_iff _ _).mpr
    intro call member
    exact if_neg (silent call member)
  unfold lastReceived
  rw [lastWord_append,none_more,Option.none_or]

/-- Of calls that all pass one status it is the last received, if the callback is among them. -/
theorem lastReceived_append (registration : Nat) (status : ServiceStatus) (calls more : List Call)
    (uniform : ∀ call ∈ more, call.2 = status) (heard : ∃ call ∈ more, call.1 = registration) :
    lastReceived registration (calls ++ more) = status := by
  unfold lastReceived
  rw [lastWord_append]
  cases last : lastWord (fun call : Call => if call.1 = registration then some call.2 else none) more with
  | none =>
    obtain ⟨call,member,same⟩ := heard
    have silent := (lastWord_eq_none_iff _ _).mp last call member
    simp [same] at silent
  | some word =>
    obtain ⟨call,member,said⟩ := List.mem_filterMap.mp (List.mem_of_getLast? last)
    split at said
    next =>
      cases said
      exact uniform call member
    next => cases said

end Calls

section Lists
variable (observers : Observers) (service other : ServiceDescription)

theorem mem_of_start (added observer : ObserveCallbackWithId) :
    observer ∈ observersOf (observers.insert service ((observers.find service).getD [] ++ [added])) other ↔
      observer ∈ observersOf observers other ∨ other = service ∧ observer = added := by
  unfold observersOf
  rw [OrderedMap.find_insert]
  split
  next same => simp [same]
  next different => simp [different]

theorem observersOf_stop (uniqueId : UInt32) :
    observersOf (stopObserveServiceStatus observers service uniqueId) other =
      if other = service then
        (observersOf observers other).eraseP (fun observer => observer.uniqueId = uniqueId)
      else observersOf observers other := by
  unfold stopObserveServiceStatus
  cases found : observers.find service with
  | none =>
    by_cases same : other = service
    · simp [same,observersOf,found]
    · simp [same]
  | some callbacks =>
    simp only [observersOf,OrderedMap.find_insert]
    split
    next same => simp [same,found]
    next => rfl

theorem mem_of_stop (uniqueId : UInt32) (observer : ObserveCallbackWithId)
    (member : observer ∈ observersOf (stopObserveServiceStatus observers service uniqueId) other) :
    observer ∈ observersOf observers other := by
  rw [observersOf_stop] at member
  split at member
  next => exact List.mem_of_mem_eraseP member
  next => exact member

end Lists

section Preservation
variable {own : String}

theorem initial_current : Current {} where
  started := by
    intro service observer member
    cases member
  called := by
    intro call member
    cases member
  apart := by
    intro service other first member
    cases member
  received := by
    intro service _ observer member
    cases member

theorem update_current (state : ObserverState) (discovery : ServiceDiscovery)
    (free : state.delivering = none) (held : Current state) :
    Current {state with
      registry := updateRegistryFromServiceDiscovery own state.registry discovery
      delivering := some discovery.serviceDesc} := by
  refine ⟨held.started,held.called,held.apart,?_⟩
  intro service undelivered observer member registration registered
  have different : service ≠ discovery.serviceDesc := by
    intro same
    exact undelivered (congrArg some same.symm)
  have received := held.received service (by simp [free]) observer member registration registered
  simpa [updateRegistryFromServiceDiscovery,statusOf_insert,different] using received

theorem notify_current (state : ObserverState) (service : ServiceDescription)
    (delivering : state.delivering = some service) (held : Current state) :
    Current {state with
      calls := state.calls ++
        notifyUserCallback state.observeServiceCallbacks service (statusOf state.registry service)
      delivering := none} := by
  refine ⟨held.started,?_,held.apart,?_⟩
  · intro call member
    rcases List.mem_append.mp member with before | notified
    · exact held.called call before
    · have heard := (mem_notify _ _ _ _).mp notified
      obtain ⟨⟨observer,registered,same⟩,_⟩ := heard
      exact held.started service observer registered call.1 same
  · intro other _ observer member registration registered
    by_cases same : other = service
    · subst same
      apply lastReceived_append
      · intro call notified
        exact ((mem_notify _ _ _ _).mp notified).2
      · exact ⟨(registration,statusOf state.registry other),
          (mem_notify _ _ _ _).mpr ⟨⟨observer,member,registered⟩,rfl⟩,rfl⟩
    · rw [lastReceived_append_silent]
      · refine held.received other ?_ observer member registration registered
        rw [delivering]
        exact fun equal => same (Option.some.inj equal).symm
      · intro call notified equal
        obtain ⟨⟨second,inside,called⟩,_⟩ := (mem_notify _ _ _ _).mp notified
        have again : second.callback = some registration := called.trans (congrArg some equal)
        exact same (held.apart other service observer member second inside registration registered again)

theorem mem_immediate (registry : Registry) (service : ServiceDescription) (callback : Callback)
    (call : Call) :
    call ∈ (if (registry.find service).isSome then invoke callback (statusOf registry service) else []) ↔
      (registry.find service).isSome = true ∧ callback = some call.1 ∧
        call.2 = statusOf registry service := by
  split
  next entry => simp [mem_invoke,entry]
  next absent => simp [absent]

theorem immediate_current (state : ObserverState) (service : ServiceDescription) (held : Current state) :
    lastReceived state.started (state.calls ++ if (state.registry.find service).isSome then
      invoke (some state.started) (statusOf state.registry service) else []) =
      statusOf state.registry service := by
  cases entry : state.registry.find service with
  | none =>
    have silent : ∀ call ∈ state.calls, call.1 ≠ state.started :=
      fun call member => Nat.ne_of_lt (held.called call member)
    simp [lastReceived_silent _ _ silent,statusOf,entry]
  | some status =>
    apply lastReceived_append
    · intro call member
      exact ((mem_immediate _ _ _ _).mp (by simpa [entry] using member)).2.2
    · exact ⟨(state.started,statusOf state.registry service),by simp [invoke],rfl⟩

theorem start_callback (started registration : Nat) (nonEmpty : Bool)
    (registered : (if nonEmpty then some started else none) = some registration) :
    registration = started := by
  split at registered
  next => exact (Option.some.inj registered).symm
  next => cases registered

theorem start_current (state : ObserverState) (service : ServiceDescription) (nonEmpty : Bool)
    (held : Current state) : Current (startObserveServiceStatus service
      (if nonEmpty then some state.started else none) state) := by
  have older (other : ServiceDescription) (observer : ObserveCallbackWithId)
      (member : observer ∈ observersOf state.observeServiceCallbacks other) (registration : Nat)
      (registered : observer.callback = some registration) : registration ≠ state.started :=
    Nat.ne_of_lt (held.started other observer member registration registered)
  refine ⟨?_,?_,?_,?_⟩
  · intro other observer member registration registered
    rcases (mem_of_start _ _ _ _ _).mp member with before | ⟨_,rfl⟩
    · have old := held.started other observer before registration registered
      exact Nat.lt_succ_of_lt old
    · rw [start_callback _ _ _ registered]
      exact Nat.lt_succ_self state.started
  · intro call member
    rcases List.mem_append.mp member with before | invoked
    · have old := held.called call before
      exact Nat.lt_succ_of_lt old
    · have registered := ((mem_immediate _ _ _ _).mp invoked).2.1
      rw [start_callback _ _ _ registered]
      exact Nat.lt_succ_self state.started
  · intro left right first inside second also registration registered again
    rcases (mem_of_start _ _ _ _ _).mp inside with before | ⟨here,rfl⟩
    · rcases (mem_of_start _ _ _ _ _).mp also with earlier | ⟨there,rfl⟩
      · exact held.apart left right first before second earlier registration registered again
      · have new := start_callback _ _ _ again
        have old := older left first before registration registered
        exact absurd new old
    · rcases (mem_of_start _ _ _ _ _).mp also with earlier | ⟨there,rfl⟩
      · have new := start_callback _ _ _ registered
        have old := older right second earlier registration again
        exact absurd new old
      · exact here.trans there.symm
  · intro other undelivered observer member registration registered
    rcases (mem_of_start _ _ _ _ _).mp member with before | ⟨rfl,rfl⟩
    · change lastReceived registration (state.calls ++ _) = _
      rw [lastReceived_append_silent]
      · exact held.received other undelivered observer before registration registered
      · intro call invoked same
        have called := ((mem_immediate _ _ _ _).mp invoked).2.1
        have new := start_callback _ _ _ called
        have old := older other observer before registration registered
        exact old (same.symm.trans new)
    · have new := start_callback _ _ _ registered
      subst new
      change (if nonEmpty = true then some state.started else none) = _ at registered
      change lastReceived state.started (state.calls ++ _) = _
      rw [registered]
      exact immediate_current state other held

theorem stop_current (state : ObserverState) (service : ServiceDescription) (uniqueId : UInt32)
    (held : Current state) :
    Current {state with
      observeServiceCallbacks :=
        stopObserveServiceStatus state.observeServiceCallbacks service uniqueId} := by
  refine ⟨?_,held.called,?_,?_⟩
  · intro other observer member
    have was := mem_of_stop _ _ _ _ _ member
    exact held.started other observer was
  · intro first second left inside right also
    have was := mem_of_stop _ _ _ _ _ inside
    have were := mem_of_stop _ _ _ _ _ also
    exact held.apart first second left was right were
  · intro other undelivered observer member
    have was := mem_of_stop _ _ _ _ _ member
    exact held.received other undelivered observer was

theorem query_current (state : ObserverState) (service : ServiceDescription) (held : Current state) :
    Current {state with registry := (queryServiceStatus state.registry service).2} := by
  refine ⟨held.started,held.called,held.apart,?_⟩
  intro other undelivered observer member registration registered
  rw [statusOf_query]
  exact held.received other undelivered observer member registration registered

theorem move_current (state next : ObserverState) (label : Label) (move : Move own state label next)
    (held : Current state) : Current next := by
  cases move with
  | update discovery free => exact update_current state discovery free held
  | notify service delivering => exact notify_current state service delivering held
  | start service nonEmpty => exact start_current state service nonEmpty held
  | stop service uniqueId => exact stop_current state service uniqueId held
  | query service free => exact query_current state service held

theorem reachable_current (labels : List Label) (state : ObserverState)
    (reached : exec (step own) {} labels = some state) : Current state :=
  exec_invariant (step own) Current
    (fun state label next stepped held =>
      move_current state next label (step_move own state next label stepped) held)
    labels {} state reached initial_current

theorem move_registered (state next : ObserverState) (label : Label) (move : Move own state label next)
    (service : ServiceDescription) (observer : ObserveCallbackWithId)
    (unstopped : label ≠ .stopObserve service observer.uniqueId)
    (member : observer ∈ observersOf state.observeServiceCallbacks service) :
    observer ∈ observersOf next.observeServiceCallbacks service := by
  cases move with
  | start other nonEmpty => exact (mem_of_start _ _ _ _ _).mpr (.inl member)
  | stop other uniqueId =>
    rw [observersOf_stop]
    split
    next same =>
      subst same
      refine (List.mem_eraseP_of_neg ?_).mpr member
      intro equal
      have stopped : observer.uniqueId = uniqueId := of_decide_eq_true equal
      exact unstopped (by rw [stopped])
    next => exact member
  | _ => exact member

/-- Once no delivery is in progress, an observer that was started with a callback and whose
id was not stopped since has last received the current status of its service. -/
theorem observers_receive_current (own : String) (before after : List Label)
    (service : ServiceDescription) (middle final : ObserverState)
    (reached : exec (step own) {} before = some middle)
    (ran : exec (step own) middle (.startObserve service true :: after) = some final)
    (unstopped : .stopObserve service middle.uniqueId ∉ after)
    (idle : final.delivering = none) :
    lastReceived middle.started final.calls = statusOf final.registry service := by
  have whole : exec (step own) {} (before ++ .startObserve service true :: after) = some final :=
    (exec_append _ _ _ _ _).mpr ⟨middle,reached,ran⟩
  have current := reachable_current _ final whole
  obtain ⟨started,stepped,remaining⟩ := (exec_cons _ _ _ _ _).mp ran
  cases stepped
  have registered : ⟨some middle.started,middle.uniqueId⟩ ∈
      observersOf final.observeServiceCallbacks service :=
    exec_allowed (step own) (fun label => label ≠ .stopObserve service middle.uniqueId)
      (fun state => ⟨some middle.started,middle.uniqueId⟩ ∈
        observersOf state.observeServiceCallbacks service)
      (fun state label next allowed stepped member =>
        move_registered state next label (step_move own state next label stepped) service _ allowed
          member)
      after (fun label member same => unstopped (same ▸ member)) _ final remaining
      ((mem_of_start _ _ _ _ _).mpr (.inr ⟨rfl,rfl⟩))
  exact current.received service (by simp [idle]) _ registered middle.started rfl

theorem start_between_receives_current : ∃ middle final,
    exec (step "10.0.0.1/") {} [.update ⟨0,⟨10,1,"10.0.0.1/","100"⟩⟩] = some middle ∧
      exec (step "10.0.0.1/") middle [.startObserve ⟨10,1⟩ true,.notify] = some final ∧
      lastReceived middle.started final.calls = statusOf final.registry ⟨10,1⟩ := by
  refine ⟨_,_,rfl,rfl,?_⟩
  exact observers_receive_current "10.0.0.1/" [.update ⟨0,⟨10,1,"10.0.0.1/","100"⟩⟩] [.notify] ⟨10,1⟩
    _ _ rfl rfl (by simp) rfl

end Preservation
end Smw.ServiceObservers
