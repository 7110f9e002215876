import Smw.Publisher
import Smw.Subscriber
import Smw.PendingMessages

/-! Delivery from publishers to subscribers over any number of hosts, once all registries
agree. A publisher chooses transports by the consumers it sees and a subscriber chooses its
reader by the providers it sees. -/
namespace Smw.EndToEnd
open Foundation Foundation.LastWord Foundation.Execution
open ServiceRegistry PendingMessages IceoryxWriter Publisher Subscriber

/-- Processes with their identity and their roles in one service, and the subscribers of one
of its events, each in a process that consumes the service. -/
structure System (P S : Type) where
  identity : P → ServiceEntityInfo
  provides : P → Bool
  consumes : P → Bool
  home : S → P
  consuming : ∀ subscriber, consumes (home subscriber) = true

inductive Overload
  | value
  | sample
deriving DecidableEq,Repr

/-- A call of publish; `granted` is what the pool gives to its loan. -/
structure PublishCall (P T : Type) where
  provider : P
  overload : Overload
  value : T
  granted : Grant

structure Traffic (P S T : Type) [Inhabited T] where
  iox : P → IoxState T := fun _ => {}
  handed : S → List T := fun _ => []

namespace System
variable {P S : Type} (system : System P S)

def host (process : P) : String := (system.identity process).hostId

def uses : Role → P → Bool
  | .provider => system.provides
  | .consumer => system.consumes

end System

section Delivery
variable {P S : Type} (system : System P S) (service : ServiceDescription)

def Converged (registry : P → Registry) : Prop :=
  ∀ process role onOwnHost entity,
    entity ∈ (statusOf (registry process) service).entities role onOwnHost ↔
      ∃ other, system.identity other = entity ∧ system.uses role other = true ∧
        decide (system.host other = system.host process) = onOwnHost

def readersAfter (status : ServiceStatus) (previous : Reader → Bool) : Reader → Bool :=
  (onServiceStatusChanged status).foldl
    (fun enabled switch => Function.update enabled switch.reader switch.enable) previous

/-- Both queries of a call find the registry as it is; the transports succeed. -/
def environment (registry : Registry) (granted : Grant) : Environment :=
  let remote := queryServiceStatus registry service
  {remoteQuery := remote.1
   localQuery := (queryServiceStatus remote.2 service).1
   ddsWrite := true
   granted := some granted}

variable {T : Type} [Inhabited T]

def publish (type : DataType T) (overload : Overload) (env : Environment) (value : T) (iox : IoxState T) :
    Option (Published T) :=
  match overload with
  | .value => some (publishValue type env value iox)
  | .sample => publishLoaned type env value iox

/-- Chunks reach the enabled readers of iceoryx on the host, writes those of DDS anywhere. -/
def handedOver (type : DataType T) (sameHost : Bool) (enabled : Reader → Bool)
    (payloads : List (Payload T)) (dds : List T) : List T :=
  (if sameHost && enabled .iox then payloads.filterMap (receive type) else []) ++
    (if enabled .dds then dds else [])

variable [DecidableEq P] (registry : P → Registry) (enabled : S → Reader → Bool)

/-- A call of a provider, none if the process provides nothing or the chunk is on loan. -/
def step (type : DataType T) (traffic : Traffic P S T) (call : PublishCall P T) :
    Option (Traffic P S T) :=
  let iox := traffic.iox call.provider
  let env := environment service (registry call.provider) call.granted
  if system.provides call.provider ∧ iox.grants env.granted then
    (publish type call.overload env call.value iox).map (fun done =>
      let payloads := done.iox.published.drop iox.published.length
      let handed (subscriber : S) :=
        let sameHost := decide (system.host call.provider = system.host (system.home subscriber))
        handedOver type sameHost (enabled subscriber) payloads done.dds
      {iox := Function.update traffic.iox call.provider done.iox
       handed := fun subscriber => traffic.handed subscriber ++ handed subscriber})
  else none

end Delivery

section Choices
variable {P S : Type} {system : System P S} {service : ServiceDescription} {registry : P → Registry}

/-- A subscriber listens to the host of a provider: it is on it, or its own has no provider. -/
def Reaches (system : System P S) (subscriber : S) (provider : P) : Prop :=
  system.host provider = system.host (system.home subscriber) ∨
    ∀ other, system.provides other = true → system.host other ≠ system.host (system.home subscriber)

theorem Converged.exists_iff (converged : Converged system service registry) (process : P) (role : Role)
    (onOwnHost : Bool) :
    (∃ entity, entity ∈ (statusOf (registry process) service).entities role onOwnHost) ↔
      ∃ other, system.uses role other = true ∧
        decide (system.host other = system.host process) = onOwnHost := by
  constructor
  · intro present
    obtain ⟨entity,member⟩ := present
    obtain ⟨other,_,uses,side⟩ := (converged process role onOwnHost entity).mp member
    exact ⟨other,uses,side⟩
  · intro there
    obtain ⟨other,uses,side⟩ := there
    exact ⟨system.identity other,(converged process role onOwnHost _).mpr ⟨other,rfl,uses,side⟩⟩

theorem hasLocalConsumer_of_same (converged : Converged system service registry) (provider : P)
    (subscriber : S) (same : system.host provider = system.host (system.home subscriber)) :
    (statusOf (registry provider) service).hasLocalConsumer = true := by
  rw [ServiceStatus.hasLocalConsumer_iff]
  apply (converged.exists_iff provider .consumer true).mpr
  exact ⟨system.home subscriber,system.consuming subscriber,decide_eq_true same.symm⟩

theorem hasRemoteConsumer_of_apart (converged : Converged system service registry) (provider : P)
    (subscriber : S) (apart : system.host provider ≠ system.host (system.home subscriber)) :
    (statusOf (registry provider) service).hasRemoteConsumer = true := by
  rw [ServiceStatus.hasRemoteConsumer_iff]
  apply (converged.exists_iff provider .consumer false).mpr
  exact ⟨system.home subscriber,system.consuming subscriber,decide_eq_false apart.symm⟩

theorem hasLocalProvider_iff_same (converged : Converged system service registry) (process : P) :
    (statusOf (registry process) service).hasLocalProvider = true ↔
      ∃ other, system.provides other = true ∧ system.host other = system.host process := by
  rw [ServiceStatus.hasLocalProvider_iff]
  apply (converged.exists_iff process .provider true).trans
  exact exists_congr (fun other => and_congr_right (fun _ => decide_eq_true_iff))

theorem hasRemoteProvider_of_apart (converged : Converged system service registry) (process provider : P)
    (provides : system.provides provider = true)
    (apart : system.host provider ≠ system.host process) :
    (statusOf (registry process) service).hasRemoteProvider = true := by
  rw [ServiceStatus.hasRemoteProvider_iff]
  apply (converged.exists_iff process .provider false).mpr
  exact ⟨provider,provides,decide_eq_false apart⟩

theorem readers_local (status : ServiceStatus) (previous : Reader → Bool)
    (home : status.hasLocalProvider = true) :
    readersAfter status previous .iox = true ∧ readersAfter status previous .dds = false := by
  simp [readersAfter,switches_local status home]

theorem readers_remote (status : ServiceStatus) (previous : Reader → Bool)
    (away : status.hasLocalProvider = false) (remote : status.hasRemoteProvider = true) :
    readersAfter status previous .iox = false ∧ readersAfter status previous .dds = true := by
  simp [readersAfter,switches_remote status away remote]

variable {T : Type} [Inhabited T]

theorem environment_queries (registry : Registry) (granted : Grant) :
    (environment service registry granted).remoteQuery = statusOf registry service ∧
      (environment service registry granted).localQuery = statusOf registry service :=
  ⟨rfl,statusOf_query registry service service⟩

theorem handedOver_eq (converged : Converged system service registry) (type : DataType T)
    (value : T) (transportable : Transportable type value) (provider : P)
    (provides : system.provides provider = true) (subscriber : S) (previous : Reader → Bool)
    (granted : Grant) (iox : IoxState T) (done : Published T)
    (transports : Transports type (environment service (registry provider) granted) value iox granted.before done) :
    handedOver type (decide (system.host provider = system.host (system.home subscriber)))
      (readersAfter (statusOf (registry (system.home subscriber)) service) previous)
      (done.iox.published.drop iox.published.length) done.dds =
      open Classical in if Reaches system subscriber provider then [value] else [] := by
  obtain ⟨_,dds,published⟩ := transports
  rw [(environment_queries (registry provider) granted).1] at dds
  rw [(environment_queries (registry provider) granted).2] at published
  have payloads : done.iox.published.drop iox.published.length =
      if (statusOf (registry provider) service).hasLocalConsumer then
        [payloadOf type granted.before value] else [] := by
    rw [published,List.drop_left]
  have received := receive_payloadOf type granted.before value transportable
  rw [payloads,dds]
  by_cases same : system.host provider = system.host (system.home subscriber)
  · have consumer := hasLocalConsumer_of_same converged provider subscriber same
    have home := (hasLocalProvider_iff_same converged (system.home subscriber)).mpr
      ⟨provider,provides,same⟩
    obtain ⟨iceoryx,fastdds⟩ := readers_local _ previous home
    rw [if_pos (show Reaches system subscriber provider from .inl same)]
    simp [handedOver,same,consumer,iceoryx,fastdds,received]
  · have consumer := hasRemoteConsumer_of_apart converged provider subscriber same
    cases home : (statusOf (registry (system.home subscriber)) service).hasLocalProvider with
    | true =>
      obtain ⟨_,fastdds⟩ := readers_local _ previous home
      obtain ⟨other,offers,near⟩ := (hasLocalProvider_iff_same converged (system.home subscriber)).mp home
      have unreached : ¬ Reaches system subscriber provider := by
        intro reaches
        rcases reaches with here | nobody
        · exact same here
        · exact nobody other offers near
      rw [if_neg unreached]
      simp [handedOver,same,fastdds]
    | false =>
      have remote := hasRemoteProvider_of_apart converged (system.home subscriber) provider provides same
      obtain ⟨_,fastdds⟩ := readers_remote _ previous home remote
      have reaches : Reaches system subscriber provider := by
        refine .inr ?_
        intro other offers near
        have there := (hasLocalProvider_iff_same converged (system.home subscriber)).mpr
          ⟨other,offers,near⟩
        rw [home] at there
        cases there
      rw [if_pos reaches]
      simp [handedOver,same,fastdds,consumer]

theorem publish_transports (type : DataType T) (overload : Overload) (env : Environment) (value : T)
    (iox : IoxState T) (done : Published T) (written : env.ddsWrite = true) (grant : Grant)
    (granted : env.granted = some grant) (ran : publish type overload env value iox = some done) :
    Transports type env value iox grant.before done := by
  cases overload with
  | value =>
    cases ran
    exact publishValue_transports type env value iox written grant granted
  | sample =>
    obtain ⟨other,published,transports⟩ := publishLoaned_transports type env value iox written grant granted
    cases Option.some.inj (published.symm.trans ran)
    exact transports

variable [DecidableEq P]

theorem step_handed (converged : Converged system service registry) (previous : S → Reader → Bool)
    (type : DataType T) (traffic next : Traffic P S T) (call : PublishCall P T)
    (transportable : Transportable type call.value)
    (stepped : step system service registry
      (fun subscriber => readersAfter (statusOf (registry (system.home subscriber)) service)
        (previous subscriber)) type traffic call = some next) (subscriber : S) :
    next.handed subscriber = traffic.handed subscriber ++
      open Classical in if Reaches system subscriber call.provider then [call.value] else [] := by
  unfold step at stepped
  dsimp only at stepped
  split at stepped
  next ready =>
    obtain ⟨done,ran,rfl⟩ := Option.map_eq_some_iff.mp stepped
    have transports := publish_transports type call.overload _ call.value _ done rfl call.granted rfl ran
    have handed := handedOver_eq converged type call.value transportable call.provider ready.1 subscriber
      (previous subscriber) call.granted _ done transports
    exact congrArg (traffic.handed subscriber ++ ·) handed
  next => cases stepped

theorem handed_of_converged (converged : Converged system service registry)
    (previous : S → Reader → Bool) (type : DataType T) (calls : List (PublishCall P T))
    (transportable : ∀ call ∈ calls, Transportable type call.value) (traffic final : Traffic P S T)
    (ran : exec (step system service registry
      (fun subscriber => readersAfter (statusOf (registry (system.home subscriber)) service)
        (previous subscriber)) type) traffic calls = some final) (subscriber : S) :
    final.handed subscriber = traffic.handed subscriber ++
      open Classical in (calls.filter (fun call => Reaches system subscriber call.provider)).map
        PublishCall.value := by
  induction calls generalizing traffic with
  | nil =>
    cases ran
    simp
  | cons call rest ih =>
    obtain ⟨next,stepped,remaining⟩ := (exec_cons _ _ _ _ _).mp ran
    have first := step_handed converged previous type traffic next call (transportable call (by simp))
      stepped subscriber
    have later := ih (fun other member => transportable other (List.mem_cons_of_mem _ member)) next
      remaining
    rw [later,first,List.append_assoc]
    by_cases reaches : Reaches system subscriber call.provider
    · simp [reaches]
    · simp [reaches]

/-- Once all registries agree and every subscriber has seen the status they agree on, each
value published by either overload is handed to a subscriber exactly once if it is on the
host of the provider or its own host has no provider, and otherwise not at all. -/
theorem published_values_handed (system : System P S) (service : ServiceDescription)
    (registry : P → Registry) (converged : Converged system service registry)
    (previous : S → Reader → Bool) (type : DataType T) (calls : List (PublishCall P T))
    (transportable : ∀ call ∈ calls, Transportable type call.value) (traffic final : Traffic P S T)
    (ran : exec (step system service registry
      (fun subscriber => readersAfter (statusOf (registry (system.home subscriber)) service)
        (previous subscriber)) type) traffic calls = some final) (subscriber : S) :
    final.handed subscriber = traffic.handed subscriber ++
      open Classical in (calls.filter (fun call => Reaches system subscriber call.provider)).map
        PublishCall.value :=
  handed_of_converged converged previous type calls transportable traffic final ran subscriber

end Choices

section Announcements
variable {P S : Type} (system : System P S) (service : ServiceDescription)

def announcements (members : List P) : List ServiceDiscovery :=
  members.flatMap (fun process =>
    (if system.provides process then [discoveryMessage (system.identity process) .offer service] else []) ++
      (if system.consumes process then [discoveryMessage (system.identity process) .find service] else []))

theorem mem_announcements (members : List P) (message : ServiceDiscovery) :
    message ∈ announcements system service members ↔
      ∃ process ∈ members, ∃ role, system.uses role process = true ∧
        message = discoveryMessage (system.identity process)
          (ServiceDiscoveryOperation.announcement role) service := by
  unfold announcements
  simp only [List.mem_flatMap,List.mem_append]
  refine exists_congr (fun process => and_congr_right (fun _ => ?_))
  constructor
  · intro sent
    rcases sent with offer | find
    · split at offer
      next provides =>
        have same := List.mem_singleton.mp offer
        exact ⟨.provider,provides,same⟩
      next => cases offer
    · split at find
      next consumes =>
        have same := List.mem_singleton.mp find
        exact ⟨.consumer,consumes,same⟩
      next => cases find
  · intro announced
    obtain ⟨role,uses,same⟩ := announced
    cases role with
    | provider =>
      have provides : system.provides process = true := uses
      refine .inl ?_
      rw [if_pos provides]
      exact List.mem_singleton.mpr same
    | consumer =>
      have consumes : system.consumes process = true := uses
      refine .inr ?_
      rw [if_pos consumes]
      exact List.mem_singleton.mpr same

theorem word_announcement (own : ServiceEntityInfo) (role other : Role) (entity : ServiceEntityInfo) :
    word service role entity (discoveryMessage own (ServiceDiscoveryOperation.announcement other) service) =
      if own = entity ∧ other = role then some true else none := by
  cases other <;> cases role <;>
    simp [word,ServiceDiscoveryOperation.announcement,ServiceDiscoveryOperation.role,
      ServiceDiscoveryOperation.announces]

/-- Registries that have applied the announcements of all processes agree. -/
theorem converged_of_announcements (members : List P) (complete : ∀ process, process ∈ members) :
    Converged system service
      (fun process => applyAll (system.host process) (announcements system service members)) := by
  intro process role onOwnHost entity
  rw [member_applyAll,lastWord_uniform]
  · constructor
    · intro known
      obtain ⟨side,message,member,said⟩ := known
      obtain ⟨sender,_,other,uses,rfl⟩ := (mem_announcements system service members message).mp member
      rw [word_announcement] at said
      split at said
      next about =>
        obtain ⟨rfl,rfl⟩ := about
        exact ⟨sender,rfl,uses,side⟩
      next => cases said
    · intro there
      obtain ⟨other,rfl,uses,side⟩ := there
      refine ⟨side,_,(mem_announcements system service members _).mpr
        ⟨other,complete other,role,uses,rfl⟩,?_⟩
      rw [word_announcement,if_pos ⟨rfl,rfl⟩]
  · intro message member word said
    obtain ⟨sender,_,other,_,rfl⟩ := (mem_announcements system service members message).mp member
    rw [word_announcement] at said
    split at said
    next => exact (Option.some.inj said).symm
    next => cases said

end Announcements

inductive Site
  | nearProvider
  | farProvider
  | consumer
deriving DecidableEq

def twoHosts : System Site Unit where
  identity
    | .nearProvider => ⟨"10.0.0.1/","100"⟩
    | .farProvider => ⟨"10.0.0.2/","200"⟩
    | .consumer => ⟨"10.0.0.1/","300"⟩
  provides
    | .consumer => false
    | _ => true
  consumes
    | .consumer => true
    | _ => false
  home _ := .consumer
  consuming _ := rfl

def twoHostsRegistry (site : Site) : Registry :=
  applyAll (twoHosts.host site) (announcements twoHosts ⟨10,1⟩ [.nearProvider,.farProvider,.consumer])

theorem twoHosts_converged : Converged twoHosts ⟨10,1⟩ twoHostsRegistry :=
  converged_of_announcements twoHosts ⟨10,1⟩ [.nearProvider,.farProvider,.consumer]
    (fun site => by cases site <;> decide)

def twoHostsStep : Traffic Site Unit UInt32 → PublishCall Site UInt32 → Option (Traffic Site Unit UInt32) :=
  step twoHosts ⟨10,1⟩ twoHostsRegistry
    (fun _ => readersAfter (statusOf (twoHostsRegistry .consumer) ⟨10,1⟩) (fun _ => true)) .fixed

theorem far_unreached : ¬ Reaches twoHosts () .farProvider := by
  intro reaches
  rcases reaches with same | nobody
  · revert same
    decide
  · exact nobody .nearProvider rfl rfl

/-- Of two published values the one of the provider on the own host is handed over. -/
theorem near_value_handed : ∃ final, exec twoHostsStep {}
    [⟨.nearProvider,.value,7,⟨0,fun _ => 0⟩⟩,⟨.farProvider,.sample,8,⟨0,fun _ => 0⟩⟩] = some final ∧ final.handed () = [7] := by
  refine ⟨_,rfl,?_⟩
  have near : Reaches twoHosts () .nearProvider := .inl rfl
  have far := far_unreached
  refine (published_values_handed twoHosts ⟨10,1⟩ twoHostsRegistry twoHosts_converged
    (fun _ _ => true) .fixed [⟨.nearProvider,.value,7,⟨0,fun _ => 0⟩⟩,⟨.farProvider,.sample,8,⟨0,fun _ => 0⟩⟩]
    (fun _ _ => trivial) {} _ rfl ()).trans ?_
  simp [near,far]

/-- The value of the provider on the other host reaches the subscriber neither way. -/
theorem far_value_lost : ¬ (Converged twoHosts ⟨10,1⟩ twoHostsRegistry →
    ∀ final, exec twoHostsStep {} [⟨.farProvider,.value,7,⟨0,fun _ => 0⟩⟩] = some final → final.handed () = [7]) := by
  intro all
  have handed := all twoHosts_converged _ rfl
  revert handed
  decide

end Smw.EndToEnd
