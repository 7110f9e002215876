import Smw.ServiceDescription
import Smw.Foundation.Text

/-! The names under which an event is known: the topic of Fast-DDS, one text that both ends
build, and the service description of iceoryx, three texts of bounded length. -/
namespace Smw.EventNames
open Foundation.Text

/-- The text that "/{}/{}/{}" formats. -/
def formatTopicName (serviceId instanceId eventId : UInt32) : String :=
  "/" ++ toString serviceId ++ "/" ++ toString instanceId ++ "/" ++ toString eventId

def builtinServiceDiscoveryTopic : String := "/smw/builtin/service_discovery"

/-- iox::capro::IdString_t. -/
structure IdString (capacity : Nat) where
  text : String
  fits : text.length ≤ capacity
deriving DecidableEq

def IdString.truncateToCapacity (capacity : Nat) (text : String) : IdString capacity where
  text := String.ofList (text.toList.take capacity)
  fits := by
    rw [String.length_ofList,List.length_take]
    exact Nat.min_le_left _ _

/-- iox::capro::ServiceDescription. -/
structure CaproServiceDescription (capacity : Nat) where
  service : IdString capacity
  inst : IdString capacity
  event : IdString capacity
deriving DecidableEq

def Publisher.topicName (serviceDescription : ServiceDescription) (eventId : UInt32) : String :=
  formatTopicName serviceDescription.serviceId serviceDescription.instanceId eventId

def Subscriber.topicName (serviceDescription : ServiceDescription) (eventId : UInt32) : String :=
  formatTopicName serviceDescription.serviceId serviceDescription.instanceId eventId

def IceoryxWriter.ioxServiceDesc (capacity : Nat) (serviceDescription : ServiceDescription) (eventId : UInt32) :
    CaproServiceDescription capacity :=
  let serviceIdString := IdString.truncateToCapacity capacity (toString serviceDescription.serviceId)
  let instanceIdString := IdString.truncateToCapacity capacity (toString serviceDescription.instanceId)
  let eventIdString := IdString.truncateToCapacity capacity (toString eventId)
  ⟨serviceIdString,instanceIdString,eventIdString⟩

def IceoryxReader.ioxServiceDesc (capacity : Nat) (serviceDescription : ServiceDescription) (eventId : UInt32) :
    CaproServiceDescription capacity :=
  let serviceIdString := IdString.truncateToCapacity capacity (toString serviceDescription.serviceId)
  let instanceIdString := IdString.truncateToCapacity capacity (toString serviceDescription.instanceId)
  let eventIdString := IdString.truncateToCapacity capacity (toString eventId)
  ⟨serviceIdString,instanceIdString,eventIdString⟩

/-- The two ends of an event: the publisher with its iceoryx writer, the subscriber with its
iceoryx reader. -/
inductive End
  | publisher
  | subscriber
deriving DecidableEq,Repr

def End.topicName : End → ServiceDescription → UInt32 → String
  | .publisher => Publisher.topicName
  | .subscriber => Subscriber.topicName

def End.ioxServiceDesc (capacity : Nat) : End → ServiceDescription → UInt32 → CaproServiceDescription capacity
  | .publisher => IceoryxWriter.ioxServiceDesc capacity
  | .subscriber => IceoryxReader.ioxServiceDesc capacity

section Ids

theorem id_text (id : UInt32) : toString id = Nat.repr id.toNat := rfl

theorem id_inj (first second : UInt32) : toString first = toString second ↔ first = second := by
  rw [id_text,id_text,decimal_inj,UInt32.toNat_inj]

theorem id_free (mark : Char) (other : mark.isDigit = false) (id : UInt32) : Free mark (toString id) :=
  decimal_free id.toNat mark other

theorem id_length (id : UInt32) : (toString id).length ≤ 10 := by
  rw [id_text,decimal_length _ _ (by omega)]
  have bound := id.toNat_lt
  omega

theorem ids_free (mark : Char) (other : mark.isDigit = false) (ids : List UInt32) :
    ∀ field ∈ ids.map toString, Free mark field := by
  intro field member
  obtain ⟨id,_,equal⟩ := List.mem_map.mp member
  rw [← equal]
  exact id_free mark other id

theorem ids_inj (first second : List UInt32) :
    first.map toString = second.map toString ↔ first = second := by
  have injective : Function.Injective (fun id : UInt32 => toString id) := by
    intro id other same
    exact (id_inj id other).mp same
  exact injective.list_map.eq_iff

end Ids

section TopicNames

theorem formatTopicName_eq (serviceId instanceId eventId : UInt32) :
    formatTopicName serviceId instanceId eventId =
      preceded '/' ([serviceId,instanceId,eventId].map toString) := by
  apply String.toList_inj.mp
  simp [formatTopicName,preceded]

theorem formatTopicName_inj (serviceId instanceId eventId otherService otherInstance otherEvent : UInt32) :
    formatTopicName serviceId instanceId eventId = formatTopicName otherService otherInstance otherEvent ↔
      serviceId = otherService ∧ instanceId = otherInstance ∧ eventId = otherEvent := by
  have free := ids_free '/' (by decide)
  rw [formatTopicName_eq,formatTopicName_eq,preceded_inj '/' _ _ (free _) (free _),ids_inj]
  simp

/-- The name of the built-in topic has letters, which no number has. -/
theorem formatTopicName_ne_builtin (serviceId instanceId eventId : UInt32) :
    formatTopicName serviceId instanceId eventId ≠ builtinServiceDiscoveryTopic := by
  intro same
  have free : Free 's' (formatTopicName serviceId instanceId eventId) := by
    have digits := id_free 's' (by decide)
    have slash : Free 's' "/" := by simp [Free]
    simp only [formatTopicName,free_append]
    exact ⟨⟨⟨⟨⟨slash,digits _⟩,slash⟩,digits _⟩,slash⟩,digits _⟩
  rw [same] at free
  exact free (by simp [builtinServiceDiscoveryTopic])

end TopicNames

section ServiceDescriptions
variable {capacity : Nat}

theorem truncateToCapacity_id (room : 10 ≤ capacity) (id : UInt32) :
    (IdString.truncateToCapacity capacity (toString id)).text = toString id := by
  have short : (toString id).toList.length ≤ capacity := by
    rw [String.length_toList]
    exact (id_length id).trans room
  simp only [IdString.truncateToCapacity]
  rw [List.take_of_length_le short,String.ofList_toList]

theorem truncateToCapacity_inj (room : 10 ≤ capacity) (first second : UInt32) :
    IdString.truncateToCapacity capacity (toString first) =
      IdString.truncateToCapacity capacity (toString second) ↔ first = second := by
  constructor
  · intro same
    apply (id_inj first second).mp
    rw [← truncateToCapacity_id room first,same,truncateToCapacity_id room second]
  · intro same
    rw [same]

theorem ioxServiceDesc_inj (room : 10 ≤ capacity) (service other : ServiceDescription)
    (event otherEvent : UInt32) :
    IceoryxWriter.ioxServiceDesc capacity service event = IceoryxWriter.ioxServiceDesc capacity other otherEvent ↔
      service.serviceId = other.serviceId ∧ service.instanceId = other.instanceId ∧ event = otherEvent := by
  simp only [IceoryxWriter.ioxServiceDesc,CaproServiceDescription.mk.injEq,truncateToCapacity_inj room]

end ServiceDescriptions

section Ends

theorem End.topicName_eq (side : End) : side.topicName = Publisher.topicName := by
  cases side <;> rfl

theorem End.ioxServiceDesc_eq (capacity : Nat) (side : End) :
    side.ioxServiceDesc capacity = IceoryxWriter.ioxServiceDesc capacity := by
  cases side <;> rfl

/-- Whichever ends build the names, those of two events are equal exactly when the events
are, in both transports, and no topic is the built-in one. -/
theorem names_never_collide (capacity : Nat) (room : 10 ≤ capacity) (service other : ServiceDescription)
    (event otherEvent : UInt32) (first second : End) :
    (first.topicName service event = second.topicName other otherEvent ↔
      service.serviceId = other.serviceId ∧ service.instanceId = other.instanceId ∧ event = otherEvent) ∧
    (first.ioxServiceDesc capacity service event = second.ioxServiceDesc capacity other otherEvent ↔
      service.serviceId = other.serviceId ∧ service.instanceId = other.instanceId ∧ event = otherEvent) ∧
    first.topicName service event ≠ builtinServiceDiscoveryTopic := by
  have topics := formatTopicName_inj service.serviceId service.instanceId event
    other.serviceId other.instanceId otherEvent
  have builtin := formatTopicName_ne_builtin service.serviceId service.instanceId event
  rw [first.topicName_eq,second.topicName_eq,first.ioxServiceDesc_eq,second.ioxServiceDesc_eq]
  exact ⟨topics,ioxServiceDesc_inj room service other event otherEvent,builtin⟩

theorem shifted_digits_do_not_collide :
    (End.publisher.topicName ⟨1,23⟩ 4 = End.subscriber.topicName ⟨12,3⟩ 4 ↔
      (1 : UInt32) = 12 ∧ (23 : UInt32) = 3 ∧ (4 : UInt32) = 4) ∧
    (End.publisher.ioxServiceDesc 100 ⟨1,23⟩ 4 = End.subscriber.ioxServiceDesc 100 ⟨12,3⟩ 4 ↔
      (1 : UInt32) = 12 ∧ (23 : UInt32) = 3 ∧ (4 : UInt32) = 4) ∧
    End.publisher.topicName ⟨1,23⟩ 4 ≠ builtinServiceDiscoveryTopic :=
  names_never_collide 100 (by omega) ⟨1,23⟩ ⟨12,3⟩ 4 4 .publisher .subscriber

end Ends
end Smw.EventNames
