import Smw.Foundation.LastWord
import Smw.ServiceDescription

/-! The registry of services that a process keeps from discovery messages. `own` is
the host id of the process; a message from it counts as local, any other as remote. -/
namespace Smw.ServiceRegistry
open Foundation Foundation.LastWord

abbrev Registry := OrderedMap ServiceDescription ServiceStatus

/-- The value that indexing the registry yields: the entry, or a new empty status. -/
def statusOf (registry : Registry) (service : ServiceDescription) : ServiceStatus :=
  (registry.find service).getD {}

/-- The status returned, and the registry with the entry that the lookup may create. -/
def queryServiceStatus (registry : Registry) (service : ServiceDescription) : ServiceStatus × Registry :=
  (statusOf registry service,registry.insert service (statusOf registry service))

def updateStatus (own : String) (discovery : ServiceDiscovery) (status : ServiceStatus) : ServiceStatus :=
  let entity := discovery.entityInfo
  match discovery.named with
  | some .offer =>
    if discovery.serviceInfo.hostId = own then
      {status with localProviders := status.localProviders.emplace entity}
    else {status with remoteProviders := status.remoteProviders.emplace entity}
  | some .stopOffer =>
    if discovery.serviceInfo.hostId = own then
      {status with localProviders := status.localProviders.erase entity}
    else {status with remoteProviders := status.remoteProviders.erase entity}
  | some .find =>
    if discovery.serviceInfo.hostId = own then
      {status with localConsumers := status.localConsumers.emplace entity}
    else {status with remoteConsumers := status.remoteConsumers.emplace entity}
  | some .stopFind =>
    if discovery.serviceInfo.hostId = own then
      {status with localConsumers := status.localConsumers.erase entity}
    else {status with remoteConsumers := status.remoteConsumers.erase entity}
  | none => status

def updateRegistryFromServiceDiscovery (own : String) (registry : Registry)
    (discovery : ServiceDiscovery) : Registry :=
  let service := discovery.serviceDesc
  registry.insert service (updateStatus own discovery (statusOf registry service))

theorem statusOf_insert (registry : Registry) (service other : ServiceDescription)
    (status : ServiceStatus) :
    statusOf (registry.insert service status) other =
      if other = service then status else statusOf registry other := by
  unfold statusOf
  rw [OrderedMap.find_insert]
  split <;> rfl

@[simp] theorem statusOf_empty (service : ServiceDescription) :
    statusOf OrderedMap.empty service = {} := rfl

/-- A lookup changes no status, it may only add an empty entry. -/
theorem statusOf_query (registry : Registry) (service other : ServiceDescription) :
    statusOf (queryServiceStatus registry service).2 other = statusOf registry other := by
  rw [queryServiceStatus,statusOf_insert]
  split
  next same => rw [same]
  next => rfl

theorem updateStatus_entities (own : String) (discovery : ServiceDiscovery) (status : ServiceStatus)
    (role : Role) (onOwnHost : Bool) :
    (updateStatus own discovery status).entities role onOwnHost =
      match discovery.named with
      | some operation =>
        if operation.role = role ∧ decide (discovery.serviceInfo.hostId = own) = onOwnHost then
          if operation.announces then (status.entities role onOwnHost).emplace discovery.entityInfo
          else (status.entities role onOwnHost).erase discovery.entityInfo
        else status.entities role onOwnHost
      | none => status.entities role onOwnHost := by
  unfold updateStatus
  cases named : discovery.named with
  | none => rfl
  | some operation =>
    by_cases home : discovery.serviceInfo.hostId = own
    · cases operation <;> cases role <;> cases onOwnHost <;>
        simp [home,ServiceDiscoveryOperation.role,ServiceDiscoveryOperation.announces,
          ServiceStatus.entities]
    · cases operation <;> cases role <;> cases onOwnHost <;>
        simp [home,ServiceDiscoveryOperation.role,ServiceDiscoveryOperation.announces,
          ServiceStatus.entities]

/-- What a message says of an entity in a role of a service: announced, withdrawn or nothing. -/
def word (service : ServiceDescription) (role : Role) (entity : ServiceEntityInfo)
    (discovery : ServiceDiscovery) : Option Bool :=
  match discovery.named with
  | some operation =>
    if discovery.serviceDesc = service ∧ discovery.entityInfo = entity ∧ operation.role = role then
      some operation.announces
    else none
  | none => none

def wordOnSide (own : String) (service : ServiceDescription) (role : Role) (onOwnHost : Bool)
    (entity : ServiceEntityInfo) (discovery : ServiceDiscovery) : Option Bool :=
  if decide (entity.hostId = own) = onOwnHost then word service role entity discovery else none

theorem member_update (own : String) (service : ServiceDescription) (role : Role) (onOwnHost : Bool)
    (entity : ServiceEntityInfo) (registry : Registry) (discovery : ServiceDiscovery) :
    decide (entity ∈ (statusOf (updateRegistryFromServiceDiscovery own registry discovery) service).entities
      role onOwnHost) =
      (wordOnSide own service role onOwnHost entity discovery).getD
        (decide (entity ∈ (statusOf registry service).entities role onOwnHost)) := by
  unfold updateRegistryFromServiceDiscovery
  simp only [statusOf_insert]
  by_cases about : discovery.serviceDesc = service
  · subst about
    rw [if_pos rfl,updateStatus_entities]
    unfold wordOnSide word
    cases named : discovery.named with
    | none => simp
    | some operation =>
      by_cases subject : discovery.entityInfo = entity
      · have host : discovery.serviceInfo.hostId = entity.hostId := by rw [← subject]; rfl
        by_cases matching : operation.role = role
        · by_cases side : decide (entity.hostId = own) = onOwnHost
          · cases announced : operation.announces <;>
              simp [matching,host,side,subject,announced]
          · simp [host,side]
        · simp [matching]
      · have apart : entity ≠ discovery.entityInfo := Ne.symm subject
        simp only [subject,false_and,and_false,if_false,ite_self,Option.getD_none]
        split
        · split <;> simp [apart]
        · rfl
  · have apart : service ≠ discovery.serviceDesc := Ne.symm about
    have silent : word service role entity discovery = none := by
      unfold word
      cases discovery.named <;> simp [about]
    simp [apart,wordOnSide,silent]

theorem lastWord_onSide (own : String) (service : ServiceDescription) (role : Role) (onOwnHost : Bool)
    (entity : ServiceEntityInfo) (messages : List ServiceDiscovery) :
    lastWord (wordOnSide own service role onOwnHost entity) messages =
      if decide (entity.hostId = own) = onOwnHost then lastWord (word service role entity) messages
      else none := by
  unfold wordOnSide
  split
  next => rfl
  next => exact (lastWord_eq_none_iff _ _).mpr (fun _ _ => rfl)

def applyAll (own : String) (messages : List ServiceDiscovery) : Registry :=
  messages.foldl (updateRegistryFromServiceDiscovery own) OrderedMap.empty

theorem member_applyAll (own : String) (messages : List ServiceDiscovery)
    (service : ServiceDescription) (role : Role) (onOwnHost : Bool) (entity : ServiceEntityInfo) :
    entity ∈ (statusOf (applyAll own messages) service).entities role onOwnHost ↔
      decide (entity.hostId = own) = onOwnHost ∧
        lastWord (word service role entity) messages = some true := by
  have observed := fold_observes (updateRegistryFromServiceDiscovery own)
    (fun registry => decide (entity ∈ (statusOf registry service).entities role onOwnHost))
    (wordOnSide own service role onOwnHost entity)
    (member_update own service role onOwnHost entity) messages OrderedMap.empty
  rw [lastWord_onSide] at observed
  rw [← decide_eq_true_iff (p := entity ∈ _),applyAll,observed]
  split
  next side =>
    cases lastWord (word service role entity) messages with
    | none => simp
    | some announced => simp [side]
  next side => simp [side]

theorem entry_update (own : String) (registry : Registry) (discovery : ServiceDiscovery)
    (service : ServiceDescription) :
    ((updateRegistryFromServiceDiscovery own registry discovery).find service).isSome =
      (if discovery.serviceDesc = service then some true else none).getD
        (registry.find service).isSome := by
  unfold updateRegistryFromServiceDiscovery
  simp only [OrderedMap.find_insert]
  by_cases about : discovery.serviceDesc = service
  · simp [about]
  · simp [about,Ne.symm about]

theorem entry_applyAll (own : String) (messages : List ServiceDiscovery) (service : ServiceDescription) :
    ((applyAll own messages).find service).isSome = true ↔
      ∃ message ∈ messages, message.serviceDesc = service := by
  have observed := fold_observes (updateRegistryFromServiceDiscovery own)
    (fun registry => (registry.find service).isSome)
    (fun message => if message.serviceDesc = service then some true else none)
    (fun registry message => entry_update own registry message service) messages OrderedMap.empty
  rw [applyAll,observed]
  cases last : lastWord (fun message : ServiceDiscovery =>
      if message.serviceDesc = service then some true else none) messages with
  | none =>
    have silent := (lastWord_eq_none_iff _ _).mp last
    simp only [OrderedMap.find_empty,Option.getD_none,Option.isSome_none,Bool.false_eq_true,false_iff,
      not_exists,not_and]
    intro message member about
    simpa [about] using silent message member
  | some present =>
    have spoken : present ∈ messages.filterMap (fun message : ServiceDiscovery =>
        if message.serviceDesc = service then some true else none) := List.mem_of_getLast? last
    obtain ⟨message,member,said⟩ := List.mem_filterMap.mp spoken
    by_cases about : message.serviceDesc = service
    · rw [if_pos about] at said
      cases said
      exact iff_of_true rfl ⟨message,member,about⟩
    · rw [if_neg about] at said
      cases said

theorem registry_ext (first second : Registry)
    (entries : ∀ service, (first.find service).isSome = (second.find service).isSome)
    (members : ∀ service role onOwnHost entity,
      decide (entity ∈ (statusOf first service).entities role onOwnHost) =
        decide (entity ∈ (statusOf second service).entities role onOwnHost)) : first = second := by
  apply OrderedMap.ext_find
  intro service
  have status : statusOf first service = statusOf second service :=
    ServiceStatus.ext_entities _ _ (fun role onOwnHost entity =>
      decide_eq_decide.mp (members service role onOwnHost entity))
  have entry := entries service
  unfold statusOf at status
  cases left : first.find service with
  | none =>
    rw [left] at entry
    exact (Option.isNone_iff_eq_none.mp (by simpa using entry.symm)).symm
  | some found =>
    rw [left] at entry status
    obtain ⟨other,right⟩ := Option.isSome_iff_exists.mp entry.symm
    rw [right] at status ⊢
    exact congrArg some status

theorem update_repeat (own : String) (registry : Registry) (message : ServiceDiscovery) :
    updateRegistryFromServiceDiscovery own (updateRegistryFromServiceDiscovery own registry message)
      message = updateRegistryFromServiceDiscovery own registry message := by
  apply registry_ext
  · intro service
    exact observe_repeat _ (fun registry : Registry => (registry.find service).isSome) _
      (fun registry message => entry_update own registry message service) registry message
  · intro service role onOwnHost entity
    exact observe_repeat _ (fun registry : Registry =>
        decide (entity ∈ (statusOf registry service).entities role onOwnHost)) _
      (member_update own service role onOwnHost entity) registry message

/-- The subject of a message: the service, the entity, and the role if it names an operation. -/
def subject (message : ServiceDiscovery) : ServiceDescription × ServiceEntityInfo × Option Role :=
  (message.serviceDesc,message.entityInfo,message.named.map ServiceDiscoveryOperation.role)

theorem word_apart (first second : ServiceDiscovery) (different : subject first ≠ subject second)
    (service : ServiceDescription) (role : Role) (entity : ServiceEntityInfo) :
    word service role entity first = none ∨ word service role entity second = none := by
  by_contra both
  obtain ⟨left,right⟩ := not_or.mp both
  have spoken (message : ServiceDiscovery) (heard : word service role entity message ≠ none) :
      subject message = (service,entity,some role) := by
    unfold word at heard
    cases named : message.named with
    | none => simp [named] at heard
    | some operation =>
      have about : message.serviceDesc = service ∧ message.entityInfo = entity ∧
          operation.role = role := by simpa [named] using heard
      simp [subject,about,named]
  exact different ((spoken first left).trans (spoken second right).symm)

theorem update_swap (own : String) (registry : Registry) (first second : ServiceDiscovery)
    (different : subject first ≠ subject second) :
    updateRegistryFromServiceDiscovery own (updateRegistryFromServiceDiscovery own registry first) second =
      updateRegistryFromServiceDiscovery own (updateRegistryFromServiceDiscovery own registry second)
        first := by
  apply registry_ext
  · intro service
    simp only [entry_update]
    split <;> split <;> rfl
  · intro service role onOwnHost entity
    refine observe_swap _ (fun registry : Registry =>
        decide (entity ∈ (statusOf registry service).entities role onOwnHost)) _
      (member_update own service role onOwnHost entity) registry first second ?_
    unfold wordOnSide
    split
    next => exact word_apart first second different service role entity
    next => exact .inl rfl

/-- The registry is the last word of every entity: each set holds exactly the entities
of its side whose last message of the role announced them, a service has an entry
exactly where a message named it, and neither an immediate repetition nor the order
of two messages about different subjects leaves a trace. -/
theorem registry_is_last_word (own : String) (messages : List ServiceDiscovery) :
    (∀ service entity,
      (entity ∈ (statusOf (applyAll own messages) service).localProviders ↔
        entity.hostId = own ∧ lastWord (word service .provider entity) messages = some true) ∧
      (entity ∈ (statusOf (applyAll own messages) service).remoteProviders ↔
        entity.hostId ≠ own ∧ lastWord (word service .provider entity) messages = some true) ∧
      (entity ∈ (statusOf (applyAll own messages) service).localConsumers ↔
        entity.hostId = own ∧ lastWord (word service .consumer entity) messages = some true) ∧
      (entity ∈ (statusOf (applyAll own messages) service).remoteConsumers ↔
        entity.hostId ≠ own ∧ lastWord (word service .consumer entity) messages = some true)) ∧
    (∀ service, ((applyAll own messages).find service).isSome = true ↔
      ∃ message ∈ messages, message.serviceDesc = service) ∧
    (∀ message after, applyAll own (messages ++ message :: message :: after) =
      applyAll own (messages ++ message :: after)) ∧
    (∀ first second after, subject first ≠ subject second →
      applyAll own (messages ++ second :: first :: after) =
        applyAll own (messages ++ first :: second :: after)) := by
  refine ⟨?_,entry_applyAll own messages,?_,?_⟩
  · intro service entity
    have side (role : Role) (onOwnHost : Bool) := member_applyAll own messages service role onOwnHost entity
    refine ⟨?_,?_,?_,?_⟩
    · simpa [ServiceStatus.entities] using side .provider true
    · simpa [ServiceStatus.entities] using side .provider false
    · simpa [ServiceStatus.entities] using side .consumer true
    · simpa [ServiceStatus.entities] using side .consumer false
  · intro message after
    simp [applyAll,List.foldl_append,update_repeat]
  · intro first second after different
    simp [applyAll,List.foldl_append,update_swap own _ first second different]

end Smw.ServiceRegistry
