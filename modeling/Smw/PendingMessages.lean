import Smw.ServiceRegistry

/-! The announcements that a process repeats, one slot for each service in each of two
maps, and the operations that request them and send them again in every cycle. -/
namespace Smw.PendingMessages
open Foundation Foundation.LastWord ServiceDiscoveryOperation

structure DiscoveryMessageWithCounter where
  discoveryMessage : ServiceDiscovery
  count : UInt16 := 0
deriving DecidableEq,Repr

def maxDiscoveryCount : UInt16 := 5

abbrev AlwaysMap := OrderedMap ServiceDescription ServiceDiscovery

abbrev SomeTimesMap := OrderedMap ServiceDescription DiscoveryMessageWithCounter

structure Pending where
  messageNeedSendAlways : AlwaysMap := OrderedMap.empty
  messageNeedSendSomeTimes : SomeTimesMap := OrderedMap.empty
deriving DecidableEq

def fillServiceInfoMessage (own : ServiceEntityInfo) (description : ServiceDescription) : ServiceInfo where
  serviceId := description.serviceId
  instanceId := description.instanceId
  hostId := own.hostId
  processId := own.processId

def discoveryMessage (own : ServiceEntityInfo) (operation : ServiceDiscoveryOperation)
    (service : ServiceDescription) : ServiceDiscovery :=
  ⟨operation.value,fillServiceInfoMessage own service⟩

/-- The first locked region of a request clears the slot of the map it does not fill. -/
def firstRegion (operation : ServiceDiscoveryOperation) (service : ServiceDescription)
    (pending : Pending) : Pending :=
  if operation = .offer ∨ operation = .find then
    if (pending.messageNeedSendSomeTimes.find service).isSome then
      {pending with messageNeedSendSomeTimes := pending.messageNeedSendSomeTimes.erase service}
    else pending
  else
    if (pending.messageNeedSendAlways.find service).isSome then
      {pending with messageNeedSendAlways := pending.messageNeedSendAlways.erase service}
    else pending

def secondRegion (own : ServiceEntityInfo) (operation : ServiceDiscoveryOperation)
    (service : ServiceDescription) (pending : Pending) : Pending :=
  if operation = .offer ∨ operation = .find then
    {pending with messageNeedSendAlways :=
      pending.messageNeedSendAlways.insert service (discoveryMessage own operation service)}
  else
    {pending with messageNeedSendSomeTimes :=
      pending.messageNeedSendSomeTimes.insert service ⟨discoveryMessage own operation service,0⟩}

def requestDiscoveryOperation (own : ServiceEntityInfo) (operation : ServiceDiscoveryOperation)
    (service : ServiceDescription) (pending : Pending) : List ServiceDiscovery × Pending :=
  ([discoveryMessage own operation service],
    secondRegion own operation service (firstRegion operation service pending))

def sendAlwaysMessage (always : AlwaysMap) : List ServiceDiscovery :=
  always.entries.map Prod.snd

/-- One round of the loop of `sendAndRemoveSomeTimeMessage`, at the entry of `service`:
the message written, and the map with the entry counted up or erased. -/
def resend (someTimes : SomeTimesMap) (service : ServiceDescription) :
    List ServiceDiscovery × SomeTimesMap :=
  match someTimes.find service with
  | none => ([],someTimes)
  | some message =>
    let count := message.count + 1
    if count ≥ maxDiscoveryCount then ([message.discoveryMessage],someTimes.erase service)
    else ([message.discoveryMessage],someTimes.insert service {message with count := count})

def resendAll (someTimes : SomeTimesMap) : List ServiceDescription → List ServiceDiscovery × SomeTimesMap
  | [] => ([],someTimes)
  | service :: rest =>
    let visited := resend someTimes service
    let remaining := resendAll visited.2 rest
    (visited.1 ++ remaining.1,remaining.2)

def sendAndRemoveSomeTimeMessage (someTimes : SomeTimesMap) : List ServiceDiscovery × SomeTimesMap :=
  resendAll someTimes someTimes.keys

def discoveryCycle (pending : Pending) : List ServiceDiscovery × Pending :=
  let resent := sendAndRemoveSomeTimeMessage pending.messageNeedSendSomeTimes
  (sendAlwaysMessage pending.messageNeedSendAlways ++ resent.1,
    {pending with messageNeedSendSomeTimes := resent.2})

section Message
variable (own : ServiceEntityInfo) (operation : ServiceDiscoveryOperation) (service : ServiceDescription)

@[simp] theorem discoveryMessage_named :
    (discoveryMessage own operation service).named = some operation := ofValue_value operation

@[simp] theorem discoveryMessage_serviceDesc :
    (discoveryMessage own operation service).serviceDesc = service := rfl

@[simp] theorem discoveryMessage_entityInfo :
    (discoveryMessage own operation service).entityInfo = own := rfl

theorem announces_iff : (operation = .offer ∨ operation = .find) ↔ operation.announces = true := by
  cases operation <;> simp [announces]

end Message

section Regions
variable (own : ServiceEntityInfo) (operation : ServiceDiscoveryOperation)
variable (service other : ServiceDescription) (pending : Pending)

theorem firstRegion_always : ((firstRegion operation service pending).messageNeedSendAlways).find other =
    if operation.announces = false ∧ other = service then none
    else pending.messageNeedSendAlways.find other := by
  unfold firstRegion
  simp only [announces_iff]
  cases kind : operation.announces with
  | true =>
    simp only [if_true]
    split <;> simp
  | false =>
    simp only [Bool.false_eq_true,if_false,true_and]
    split
    next present => simp only [OrderedMap.find_erase]
    next absent =>
      have missing : pending.messageNeedSendAlways.find service = none := by simpa using absent
      split
      next same => rw [same,missing]
      next => rfl

theorem firstRegion_someTimes :
    ((firstRegion operation service pending).messageNeedSendSomeTimes).find other =
      if operation.announces = true ∧ other = service then none
      else pending.messageNeedSendSomeTimes.find other := by
  unfold firstRegion
  simp only [announces_iff]
  cases kind : operation.announces with
  | true =>
    simp only [if_true,true_and]
    split
    next present => simp only [OrderedMap.find_erase]
    next absent =>
      have missing : pending.messageNeedSendSomeTimes.find service = none := by simpa using absent
      split
      next same => rw [same,missing]
      next => rfl
  | false =>
    simp only [Bool.false_eq_true,if_false]
    split <;> simp

theorem secondRegion_always :
    ((secondRegion own operation service pending).messageNeedSendAlways).find other =
      if operation.announces = true ∧ other = service then some (discoveryMessage own operation service)
      else pending.messageNeedSendAlways.find other := by
  unfold secondRegion
  simp only [announces_iff]
  cases kind : operation.announces with
  | true => simp [OrderedMap.find_insert]
  | false => simp

theorem secondRegion_someTimes :
    ((secondRegion own operation service pending).messageNeedSendSomeTimes).find other =
      if operation.announces = false ∧ other = service then
        some ⟨discoveryMessage own operation service,0⟩
      else pending.messageNeedSendSomeTimes.find other := by
  unfold secondRegion
  simp only [announces_iff]
  cases kind : operation.announces with
  | true => simp
  | false => simp [OrderedMap.find_insert]

theorem firstRegion_other (different : other ≠ service) :
    (firstRegion operation service pending).messageNeedSendAlways.find other =
        pending.messageNeedSendAlways.find other ∧
      (firstRegion operation service pending).messageNeedSendSomeTimes.find other =
        pending.messageNeedSendSomeTimes.find other := by
  simp [firstRegion_always,firstRegion_someTimes,different]

theorem secondRegion_other (different : other ≠ service) :
    (secondRegion own operation service pending).messageNeedSendAlways.find other =
        pending.messageNeedSendAlways.find other ∧
      (secondRegion own operation service pending).messageNeedSendSomeTimes.find other =
        pending.messageNeedSendSomeTimes.find other := by
  simp [secondRegion_always,secondRegion_someTimes,different]

end Regions

section Resend

def countUp (_ : ServiceDescription) (message : DiscoveryMessageWithCounter) :
    Option DiscoveryMessageWithCounter :=
  if message.count + 1 ≥ maxDiscoveryCount then none else some {message with count := message.count + 1}

theorem countUp_message (service : ServiceDescription) (message counted : DiscoveryMessageWithCounter)
    (counting : countUp service message = some counted) :
    counted.discoveryMessage = message.discoveryMessage := by
  unfold countUp at counting
  split at counting
  next => cases counting
  next =>
    cases counting
    rfl

theorem resend_eq (someTimes : SomeTimesMap) (service : ServiceDescription) :
    resend someTimes service =
      (((someTimes.find service).map DiscoveryMessageWithCounter.discoveryMessage).toList,
        someTimes.alter countUp service) := by
  unfold resend OrderedMap.alter countUp
  cases someTimes.find service with
  | none => rfl
  | some message =>
    dsimp only
    split <;> rfl

theorem resendAll_eq (services : List ServiceDescription) (distinct : services.Nodup)
    (someTimes : SomeTimesMap) :
    resendAll someTimes services =
      (services.filterMap (fun service =>
        (someTimes.find service).map DiscoveryMessageWithCounter.discoveryMessage),
        services.foldl (OrderedMap.alter countUp) someTimes) := by
  induction services generalizing someTimes with
  | nil => rfl
  | cons service rest ih =>
    obtain ⟨fresh,remaining⟩ := List.nodup_cons.mp distinct
    have untouched : rest.filterMap (fun other =>
          ((someTimes.alter countUp service).find other).map
            DiscoveryMessageWithCounter.discoveryMessage) =
        rest.filterMap (fun other =>
          (someTimes.find other).map DiscoveryMessageWithCounter.discoveryMessage) := by
      apply List.filterMap_congr
      intro other member
      have different : other ≠ service := fun same => fresh (same ▸ member)
      rw [OrderedMap.find_alter,if_neg different]
    unfold resendAll
    dsimp only
    rw [resend_eq,ih remaining,untouched,List.filterMap_cons,List.foldl_cons]
    cases someTimes.find service <;> rfl

/-- Erasing while iterating loses no entry: every message is written once in service
order, and what stays is every entry counted up below the maximum. -/
theorem sendAndRemoveSomeTimeMessage_eq (someTimes : SomeTimesMap) :
    sendAndRemoveSomeTimeMessage someTimes =
      (someTimes.entries.map (fun entry => entry.2.discoveryMessage),someTimes.refresh countUp) := by
  unfold sendAndRemoveSomeTimeMessage
  rw [resendAll_eq _ someTimes.keys_nodup,OrderedMap.foldl_alter_keys,OrderedMap.keys,List.filterMap_map]
  have written : someTimes.entries.filterMap ((fun service =>
        (someTimes.find service).map DiscoveryMessageWithCounter.discoveryMessage) ∘ Prod.fst) =
      someTimes.entries.filterMap (fun entry => some entry.2.discoveryMessage) := by
    apply List.filterMap_congr
    intro entry member
    have found := (OrderedMap.find_eq_some_iff someTimes entry.1 entry.2).mpr member
    simp [found]
  rw [written,List.filterMap_eq_map']

theorem discoveryCycle_someTimes (pending : Pending) (service : ServiceDescription) :
    (discoveryCycle pending).2.messageNeedSendSomeTimes.find service =
      (pending.messageNeedSendSomeTimes.find service).bind (countUp service) := by
  unfold discoveryCycle
  rw [sendAndRemoveSomeTimeMessage_eq]
  exact OrderedMap.find_refresh _ _ _

theorem mem_discoveryCycle (pending : Pending) (message : ServiceDiscovery) :
    message ∈ (discoveryCycle pending).1 ↔
      (∃ service, pending.messageNeedSendAlways.find service = some message) ∨
      (∃ service counted, pending.messageNeedSendSomeTimes.find service = some counted ∧
        counted.discoveryMessage = message) := by
  unfold discoveryCycle sendAlwaysMessage
  rw [sendAndRemoveSomeTimeMessage_eq]
  simp only [List.mem_append,List.mem_map,OrderedMap.find_eq_some_iff,Prod.exists]
  apply or_congr
  · constructor
    · intro written
      obtain ⟨service,found,member,same⟩ := written
      exact ⟨service,same ▸ member⟩
    · intro present
      obtain ⟨service,member⟩ := present
      exact ⟨service,message,member,rfl⟩
  · rfl

end Resend
end Smw.PendingMessages
