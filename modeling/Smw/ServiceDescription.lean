import Smw.Foundation.OrderedMap
import Mathlib.Data.String.Basic

/-! Keys and records of service discovery: the two ordered key types with their
comparators, the status kept for a service, and the discovery message. -/
namespace Smw
open Foundation

instance uint32_strictTotal : IsStrictTotalOrder UInt32 (fun a b => a < b) where
  trichotomous := by
    intro a b notLess notGreater
    exact UInt32.le_antisymm (UInt32.not_lt.mp notGreater) (UInt32.not_lt.mp notLess)
  irrefl := fun a => UInt32.lt_irrefl a
  trans := fun _ _ _ less more => UInt32.lt_trans less more

structure ServiceDescription where
  serviceId : UInt32 := 0
  instanceId : UInt32 := 0
deriving Repr

namespace ServiceDescription

def less (lhs rhs : ServiceDescription) : Bool :=
  lexLess lhs.serviceId rhs.serviceId lhs.instanceId rhs.instanceId

instance : IsStrictTotalOrder ServiceDescription (fun a b => a.less b = true) :=
  lexLess_strictTotal serviceId instanceId (by
    intro x y service inst
    cases x
    cases y
    simp_all)

instance : LinearOrder ServiceDescription := linearOrderOfSTO (fun a b => a.less b = true)

end ServiceDescription

structure ServiceEntityInfo where
  hostId : String
  processId : String
deriving Repr

namespace ServiceEntityInfo

def less (lhs rhs : ServiceEntityInfo) : Bool :=
  lexLess lhs.hostId rhs.hostId lhs.processId rhs.processId

instance : IsStrictTotalOrder ServiceEntityInfo (fun a b => a.less b = true) :=
  lexLess_strictTotal hostId processId (by
    intro x y host process
    cases x
    cases y
    simp_all)

instance : LinearOrder ServiceEntityInfo := linearOrderOfSTO (fun a b => a.less b = true)

end ServiceEntityInfo

inductive Role
  | provider
  | consumer
deriving DecidableEq,Repr

def Role.other : Role → Role
  | .provider => .consumer
  | .consumer => .provider

structure ServiceStatus where
  localProviders : OrderedSet ServiceEntityInfo := OrderedMap.empty
  remoteProviders : OrderedSet ServiceEntityInfo := OrderedMap.empty
  localConsumers : OrderedSet ServiceEntityInfo := OrderedMap.empty
  remoteConsumers : OrderedSet ServiceEntityInfo := OrderedMap.empty
deriving DecidableEq

namespace ServiceStatus

def hasLocalConsumer (status : ServiceStatus) : Bool := status.localConsumers.size > 0

def hasRemoteConsumer (status : ServiceStatus) : Bool := status.remoteConsumers.size > 0

def hasLocalProvider (status : ServiceStatus) : Bool := status.localProviders.size > 0

def hasRemoteProvider (status : ServiceStatus) : Bool := status.remoteProviders.size > 0

def entities (status : ServiceStatus) (role : Role) (onOwnHost : Bool) : OrderedSet ServiceEntityInfo :=
  match role,onOwnHost with
  | .provider,true => status.localProviders
  | .provider,false => status.remoteProviders
  | .consumer,true => status.localConsumers
  | .consumer,false => status.remoteConsumers

theorem ext_entities (first second : ServiceStatus)
    (same : ∀ role onOwnHost entity, entity ∈ first.entities role onOwnHost ↔
      entity ∈ second.entities role onOwnHost) : first = second := by
  have providers := OrderedSet.ext_mem _ _ (same .provider true)
  have others := OrderedSet.ext_mem _ _ (same .provider false)
  have consumers := OrderedSet.ext_mem _ _ (same .consumer true)
  have outside := OrderedSet.ext_mem _ _ (same .consumer false)
  cases first
  cases second
  simp only [entities] at providers others consumers outside
  simp only [providers,others,consumers,outside]

@[simp] theorem not_mem_entities_empty (role : Role) (onOwnHost : Bool) (entity : ServiceEntityInfo) :
    entity ∉ (({} : ServiceStatus).entities role onOwnHost) := by
  cases role <;> cases onOwnHost <;> exact OrderedSet.not_mem_empty entity

theorem hasLocalProvider_iff (status : ServiceStatus) :
    status.hasLocalProvider = true ↔ ∃ entity, entity ∈ status.localProviders := by
  rw [hasLocalProvider,decide_eq_true_eq,gt_iff_lt,OrderedSet.size_pos_iff]

theorem hasRemoteProvider_iff (status : ServiceStatus) :
    status.hasRemoteProvider = true ↔ ∃ entity, entity ∈ status.remoteProviders := by
  rw [hasRemoteProvider,decide_eq_true_eq,gt_iff_lt,OrderedSet.size_pos_iff]

theorem hasLocalConsumer_iff (status : ServiceStatus) :
    status.hasLocalConsumer = true ↔ ∃ entity, entity ∈ status.localConsumers := by
  rw [hasLocalConsumer,decide_eq_true_eq,gt_iff_lt,OrderedSet.size_pos_iff]

theorem hasRemoteConsumer_iff (status : ServiceStatus) :
    status.hasRemoteConsumer = true ↔ ∃ entity, entity ∈ status.remoteConsumers := by
  rw [hasRemoteConsumer,decide_eq_true_eq,gt_iff_lt,OrderedSet.size_pos_iff]

end ServiceStatus

inductive ServiceDiscoveryOperation
  | offer
  | stopOffer
  | find
  | stopFind
deriving DecidableEq,Repr

namespace ServiceDiscoveryOperation

/-- The number of the operation in the proto3 enum. -/
def value : ServiceDiscoveryOperation → Int32
  | .offer => 0
  | .stopOffer => 1
  | .find => 2
  | .stopFind => 3

/-- The enum is open: a peer may send a number that names no operation. -/
def ofValue (number : Int32) : Option ServiceDiscoveryOperation :=
  if number = 0 then some .offer
  else if number = 1 then some .stopOffer
  else if number = 2 then some .find
  else if number = 3 then some .stopFind
  else none

@[simp] theorem ofValue_value (operation : ServiceDiscoveryOperation) :
    ofValue operation.value = some operation := by
  cases operation <;> rfl

def role : ServiceDiscoveryOperation → Role
  | .offer => .provider
  | .stopOffer => .provider
  | .find => .consumer
  | .stopFind => .consumer

def announces : ServiceDiscoveryOperation → Bool
  | .offer => true
  | .stopOffer => false
  | .find => true
  | .stopFind => false

def announcement : Role → ServiceDiscoveryOperation
  | .provider => .offer
  | .consumer => .find

end ServiceDiscoveryOperation

structure ServiceInfo where
  serviceId : UInt32 := 0
  instanceId : UInt32 := 0
  hostId : String := ""
  processId : String := ""
deriving DecidableEq,Repr

structure ServiceDiscovery where
  operation : Int32 := 0
  serviceInfo : ServiceInfo := {}
deriving DecidableEq,Repr

namespace ServiceDiscovery

def serviceDesc (discovery : ServiceDiscovery) : ServiceDescription :=
  ⟨discovery.serviceInfo.serviceId,discovery.serviceInfo.instanceId⟩

def entityInfo (discovery : ServiceDiscovery) : ServiceEntityInfo :=
  ⟨discovery.serviceInfo.hostId,discovery.serviceInfo.processId⟩

/-- The operation that the message names, if its number names one. -/
def named (discovery : ServiceDiscovery) : Option ServiceDiscoveryOperation :=
  ServiceDiscoveryOperation.ofValue discovery.operation

end ServiceDiscovery
end Smw
