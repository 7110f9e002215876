import Smw.DiscoveryAgreement
import Smw.DiscoveryEncoding
import Smw.FastDDSDataType

/-! The discovery topic as bytes. A sender encodes and frames its messages, a receiver of any
byte order takes them apart again, and the network of bytes runs as the network of messages. -/
namespace Smw.DiscoveryTransport
open Foundation Foundation.Execution DiscoveryEncoding FastDDSDataType IceoryxWriter
open DiscoveryAgreement ServiceRegistry

def textBytes (text : String) : List UInt8 := text.toByteArray.data.toList

def textOf (bytes : List UInt8) : Option String := String.fromUTF8? ⟨bytes.toArray⟩

theorem textOf_textBytes (text : String) : textOf (textBytes text) = some text := by
  have same : (⟨(textBytes text).toArray⟩ : ByteArray) = text.toByteArray := by simp [textBytes]
  rw [textOf,same,String.fromUTF8?,dif_pos text.isValidUTF8]
  rfl

def serializerProtobuf (runtime : Runtime) : Serializer (DiscoveryEncoding.ServiceDiscovery runtime) where
  getSize message := message.byteSizeLong
  serialize message :=
    if message.byteSizeLong < 2 ^ 31 then (true,message.internalSerialize) else (false,[])
  deserialize bytes built :=
    match DiscoveryEncoding.ServiceDiscovery.parseFromArray bytes with
    | some message => (true,message)
    | none => (false,built)

/-- The setters that a request calls. -/
def filled (runtime : Runtime) (message : ServiceDiscovery) : DiscoveryEncoding.ServiceDiscovery runtime where
  operation := message.operation
  serviceInfo := some {
    serviceId := message.serviceInfo.serviceId
    instanceId := message.serviceInfo.instanceId
    hostId := textBytes message.serviceInfo.hostId
    processId := textBytes message.serviceInfo.processId}

/-- The getters that the registry calls; a message without service info shows an empty one. -/
def shown {runtime : Runtime} (message : DiscoveryEncoding.ServiceDiscovery runtime) : Option ServiceDiscovery :=
  let info := message.mutableServiceInfo
  (textOf info.hostId).bind (fun host => (textOf info.processId).map (fun process =>
    ⟨message.operation,⟨info.serviceId,info.instanceId,host,process⟩⟩))

theorem shown_filled (runtime : Runtime) (message : ServiceDiscovery) :
    shown (filled runtime message) = some message := by
  simp [shown,filled,DiscoveryEncoding.ServiceDiscovery.mutableServiceInfo,textOf_textBytes]

structure Transport (P : Type) where
  runtime : Runtime
  cdr : FastCdr
  host : P → ByteOrder
  /-- A payload of the pool for the size that the type asks for. -/
  payload : UInt32 → SerializedPayload
  roomy : ∀ size, size.toNat ≤ (payload size).maxSize.toNat
  /-- What a receiver has around the bytes it received. -/
  memory : Nat → UInt8

namespace Transport
variable {P : Type} (transport : Transport P)

/-- What the writer hands to the network, none where the write fails. -/
def written (sender : P) (message : ServiceDiscovery) : Option (List UInt8) :=
  let serializer := serializerProtobuf transport.runtime
  let value := filled transport.runtime message
  let payload := transport.payload (getSerializedSizeProvider transport.cdr serializer value)
  (serialize transport.cdr serializer (transport.host sender) value payload).bind (fun done =>
    if done.result then some done.payload.content else none)

def received (bytes : List UInt8) : SerializedPayload where
  data := fill transport.memory 0 bytes
  maxSize := UInt32.ofNat bytes.length
  length := UInt32.ofNat bytes.length
  encapsulation := .little

/-- What the reader hands to the registry, none where the sample is dropped. -/
def read (receiver : P) (bytes : List UInt8) : Option ServiceDiscovery :=
  (deserialize transport.cdr (serializerProtobuf transport.runtime) (transport.host receiver)
    (transport.received bytes) {}).bind (fun done => if done.result then shown done.value else none)

end Transport

/-- The bytes that a message needs beside its two texts are far less than those left here. -/
def Short (entity : ServiceEntityInfo) : Prop :=
  (textBytes entity.hostId).length + (textBytes entity.processId).length + 100 < 2 ^ 31

section Message
variable (runtime : Runtime) (message : ServiceDiscovery)

theorem filled_wellFormed : (filled runtime message).WellFormed := by
  refine ⟨?_,?_⟩
  · intro info held
    cases held
    refine ⟨.inr (runtime.accepts_text _),.inr (runtime.accepts_text _),?_⟩
    intro field member
    cases member
  · intro field member
    cases member

theorem varint_uint64_le (value : UInt64) : (WireFormat.varint value.toNat).length ≤ 10 :=
  WireFormat.varint_length_le 9 _ (Nat.lt_trans value.toNat_lt (by decide))

theorem varint_uint32_le (value : Nat) (small : value < 2 ^ 32) : (WireFormat.varint value).length ≤ 5 :=
  WireFormat.varint_length_le 4 _ (Nat.lt_trans small (by decide))

theorem optional_le (written : Prop) [Decidable written] (size bound : Nat) (fits : size ≤ bound) :
    (if written then size else 0) ≤ bound := by
  split
  next => exact fits
  next => exact Nat.zero_le bound

theorem info_size (info : DiscoveryEncoding.ServiceInfo runtime) (plain : info.unknownFields = [])
    (small : info.hostId.length + info.processId.length + 100 < 2 ^ 31) :
    info.byteSizeLong ≤ info.hostId.length + info.processId.length + 24 := by
  have service := optional_le (info.serviceId ≠ 0) _ 6 (Nat.add_le_add_left (varint_uint32_le _
    info.serviceId.toNat_lt) 1)
  have inst := optional_le (info.instanceId ≠ 0) _ 6 (Nat.add_le_add_left (varint_uint32_le _
    info.instanceId.toNat_lt) 1)
  have host := varint_uint32_le info.hostId.length (by omega)
  have process := varint_uint32_le info.processId.length (by omega)
  have host_written := optional_le (info.hostId ≠ []) (1 + ((WireFormat.varint info.hostId.length).length +
    info.hostId.length)) (6 + info.hostId.length) (by omega)
  have process_written := optional_le (info.processId ≠ []) (1 + ((WireFormat.varint info.processId.length).length +
    info.processId.length)) (6 + info.processId.length) (by omega)
  simp only [DiscoveryEncoding.ServiceInfo.byteSizeLong,runtime.measures_block,runtime.measures_uint32,plain,
    List.map_nil,List.sum_nil]
  omega

theorem filled_size (short : Short message.entityInfo) :
    (filled runtime message).byteSizeLong + 16 < 2 ^ 31 := by
  change (textBytes message.serviceInfo.hostId).length + (textBytes message.serviceInfo.processId).length + 100 <
    2 ^ 31 at short
  obtain ⟨info,held⟩ : ∃ info, (filled runtime message).serviceInfo = some info := ⟨_,rfl⟩
  have host : info.hostId = textBytes message.serviceInfo.hostId := by
    cases held
    rfl
  have process : info.processId = textBytes message.serviceInfo.processId := by
    cases held
    rfl
  have plain : info.unknownFields = [] := by
    cases held
    rfl
  have size := info_size runtime info plain (by rw [host,process]; exact short)
  rw [host,process] at size
  have header := varint_uint32_le info.byteSizeLong (by omega)
  have operation := optional_le ((filled runtime message).operation ≠ 0) _ 11
    (Nat.add_le_add_left (varint_uint64_le (enumVarint message.operation)) 1)
  have unknown : (filled runtime message).unknownFields = [] := rfl
  have same : (filled runtime message).operation = message.operation := rfl
  rw [same] at operation
  simp only [DiscoveryEncoding.ServiceDiscovery.byteSizeLong,held,unknown,same,runtime.measures_block,
    runtime.measures_enum,List.map_nil,List.sum_nil]
  omega

theorem serializerProtobuf_exact (short : Short message.entityInfo) :
    (serializerProtobuf runtime).serialize (filled runtime message) =
      (true,(filled runtime message).internalSerialize) := by
  have size := filled_size runtime message short
  exact if_pos (by omega)

theorem getSize_bounded (short : Short message.entityInfo) :
    (serializerProtobuf runtime).getSize (filled runtime message) ≤ 2 ^ 31 - 1 := by
  have size := filled_size runtime message short
  change (filled runtime message).byteSizeLong ≤ _
  omega

end Message

section Frames
variable {P : Type} (transport : Transport P)

theorem received_content (bytes : List UInt8) (small : bytes.length < 2 ^ 32) :
    (transport.received bytes).content = bytes := by
  have length : (UInt32.ofNat bytes.length).toNat = bytes.length := UInt32.toNat_ofNat_of_lt' small
  simp only [SerializedPayload.content,Transport.received]
  rw [length]
  exact span_fill _ _ _

theorem serialized (sender : P) (message : ServiceDiscovery) (short : Short message.entityInfo)
    (payload : SerializedPayload)
    (room : (getSerializedSizeProvider transport.cdr (serializerProtobuf transport.runtime)
      (filled transport.runtime message)).toNat ≤ payload.maxSize.toNat) :
    ∃ sent, serialize transport.cdr (serializerProtobuf transport.runtime) (transport.host sender)
        (filled transport.runtime message) payload = some sent ∧ sent.result = true ∧
      sent.payload.data = framed transport.cdr (serializerProtobuf transport.runtime)
        (filled transport.runtime message) (transport.host sender) payload.data ∧
      sent.payload.length.toNat = 8 + (filled transport.runtime message).byteSizeLong := by
  have bounded := getSize_bounded transport.runtime message short
  have provided := getSerializedSizeProvider_toNat transport.cdr (serializerProtobuf transport.runtime)
    (filled transport.runtime message) bounded
  have length := length_toNat (serializerProtobuf transport.runtime) (filled transport.runtime message) bounded
  refine ⟨_,serialize_roomy _ _ _ _ payload (by omega),?_,rfl,length⟩
  rw [serializerProtobuf_exact transport.runtime message short]

/-- Every receiver, of whatever byte order, reads from the bytes that a sender hands to the
network the message that the sender wrote. -/
theorem read_written (sender : P) (message : ServiceDiscovery) (short : Short message.entityInfo) :
    ∃ bytes, transport.written sender message = some bytes ∧
      ∀ receiver, transport.read receiver bytes = some message := by
  obtain ⟨sent,serialized,accepted,data,length⟩ := serialized transport sender message short _ (transport.roomy _)
  have size := filled_size transport.runtime message short
  have bounded := getSize_bounded transport.runtime message short
  have written := serializerProtobuf_exact transport.runtime message short
  have exactly : ((serializerProtobuf transport.runtime).serialize (filled transport.runtime message)).2.length =
      (serializerProtobuf transport.runtime).getSize (filled transport.runtime message) := by
    rw [written]
    exact (filled transport.runtime message).internalSerialize_length
  have parsed := DiscoveryEncoding.ServiceDiscovery.parseFromArray_serialize (filled transport.runtime message)
    size (filled_wellFormed transport.runtime message)
  have content : sent.payload.content.length = sent.payload.length.toNat := by
    rw [SerializedPayload.content,span_length]
  refine ⟨sent.payload.content,?_,?_⟩
  · simp only [Transport.written]
    rw [serialized,Option.bind_some,if_pos accepted]
  · intro receiver
    have same_length : (transport.received sent.payload.content).length = sent.payload.length := by
      apply UInt32.toNat_inj.mp
      change (UInt32.ofNat sent.payload.content.length).toNat = _
      rw [UInt32.toNat_ofNat_of_lt' (by rw [content]; exact UInt32.toNat_lt _),content]
    have same := received_content transport sent.payload.content (by rw [content]; exact UInt32.toNat_lt _)
    obtain ⟨decoded,returned,result⟩ := deserialize_received transport.cdr (serializerProtobuf transport.runtime)
      (filled transport.runtime message) bounded (transport.host sender) (transport.host receiver)
      (transport.payload _).data {} exactly (transport.received sent.payload.content) sent.payload data length
      same_length same
    rw [written] at result
    simp only [serializerProtobuf,parsed] at result
    obtain ⟨ok,value⟩ := Prod.mk.inj result
    rw [Transport.read,returned,Option.bind_some,if_pos ok,value,shown_filled]

end Frames

/-- The bytes of a message on their way, with the thread that wrote it and the time. -/
structure Frame where
  bytes : List UInt8
  fromCycle : Bool
  stamp : Nat

structure ByteNetwork (P : Type) where
  process : P → RequestThreads.LocalState Unit := fun _ => {}
  registry : P → Registry := fun _ => OrderedMap.empty
  channel : P → P → List Frame := fun _ _ => []
  clock : Nat := 0

section Network
variable {P : Type} (identity : P → ServiceEntityInfo) (transport : Transport P)

def frames (sender : P) (fromCycle : Bool) (stamp : Nat) (written : List ServiceDiscovery) : List Frame :=
  (written.filterMap (transport.written sender)).map (fun bytes => ⟨bytes,fromCycle,stamp⟩)

/-- The steps of the network of messages, with every message encoded where it is written and
decoded where it is applied. -/
def byteStep [DecidableEq P] (net : ByteNetwork P) : Label P → Option (ByteNetwork P)
  | .act sender label =>
    (RequestThreads.step (identity sender) (net.process sender) label).map (fun done =>
      {net with
        process := Function.update net.process sender done.1
        channel := Function.update net.channel sender (fun receiver =>
          net.channel sender receiver ++ frames transport sender (label = .cycle) net.clock done.2)
        clock := net.clock + 1})
  | .deliver sender receiver =>
    match net.channel sender receiver with
    | [] => none
    | frame :: rest =>
      some {net with
        registry := match transport.read receiver frame.bytes with
          | some message => Function.update net.registry receiver
              (updateRegistryFromServiceDiscovery (identity receiver).hostId (net.registry receiver) message)
          | none => net.registry
        channel := Function.update net.channel sender (Function.update (net.channel sender) receiver rest)
        clock := net.clock + 1}
  | .lose sender receiver index =>
    if index < (net.channel sender receiver).length then
      some {net with
        channel := Function.update net.channel sender (Function.update (net.channel sender) receiver
          ((net.channel sender receiver).eraseIdx index))
        clock := net.clock + 1}
    else none

/-- Every receiver reads from the frame the message of the packet. -/
def Carries (frame : Frame) (packet : Packet) : Prop :=
  (∀ receiver, transport.read receiver frame.bytes = some packet.message) ∧
    frame.fromCycle = packet.fromCycle ∧ frame.stamp = packet.stamp

structure Shows (bytes : ByteNetwork P) (net : Network P) : Prop where
  process : bytes.process = net.process
  registry : bytes.registry = net.registry
  clock : bytes.clock = net.clock
  sound : ∀ sender, Sound (identity sender) (net.process sender)
  channel : ∀ sender receiver,
    List.Forall₂ (Carries transport) (bytes.channel sender receiver) (net.channel sender receiver)

theorem frames_carry (sender : P) (fromCycle : Bool) (stamp : Nat) (written : List ServiceDiscovery)
    (short : ∀ message ∈ written, Short message.entityInfo) :
    List.Forall₂ (Carries transport) (frames transport sender fromCycle stamp written)
      (packets fromCycle stamp written) := by
  induction written with
  | nil => exact .nil
  | cons message written ih =>
    obtain ⟨bytes,sent,read⟩ := read_written transport sender message (short message (by simp))
    have rest := ih (fun other member => short other (by simp [member]))
    simp only [frames,packets,List.filterMap_cons,sent,List.map_cons] at rest ⊢
    exact .cons ⟨read,rfl,rfl⟩ rest

theorem forall₂_eraseIdx {A B : Type} {related : A → B → Prop} {first : List A} {second : List B}
    (alike : List.Forall₂ related first second) (index : Nat) :
    List.Forall₂ related (first.eraseIdx index) (second.eraseIdx index) := by
  induction alike generalizing index with
  | nil => exact .nil
  | cons same rest ih =>
    cases index with
    | zero => exact rest
    | succ index => exact .cons same (ih index)

variable {identity transport} [DecidableEq P]

theorem shows_act (short : ∀ p, Short (identity p)) (bytes : ByteNetwork P) (net : Network P)
    (shows : Shows identity transport bytes net) (actor : P) (label : RequestThreads.Label Unit) :
    Option.Rel (Shows identity transport) (byteStep identity transport bytes (.act actor label))
      (step identity net (.act actor label)) := by
  simp only [byteStep,step,shows.process]
  cases ran : RequestThreads.step (identity actor) (net.process actor) label with
  | none => exact .none
  | some done =>
    have move := RequestThreads.step_move _ _ _ _ _ ran
    have own := move_entity move (shows.sound actor)
    refine .some ⟨rfl,shows.registry,by simp only [shows.clock],?_,?_⟩
    · intro sender
      simp only [Function.update_apply]
      split
      next same =>
        rw [same]
        exact sound_move move (shows.sound actor)
      next => exact shows.sound sender
    · intro sender receiver
      simp only [Function.update_apply]
      split
      next same =>
        have carried := frames_carry transport actor (label = .cycle) net.clock done.2
          (fun message member => by rw [own message member]; exact short actor)
        rw [shows.clock]
        exact List.rel_append (shows.channel actor receiver) carried
      next => exact shows.channel sender receiver

theorem channel_replaced (bytes : ByteNetwork P) (net : Network P) (shows : Shows identity transport bytes net)
    (sender receiver : P) (frames : List Frame) (packets : List Packet)
    (carried : List.Forall₂ (Carries transport) frames packets) (source target : P) :
    List.Forall₂ (Carries transport)
      (Function.update bytes.channel sender (Function.update (bytes.channel sender) receiver frames) source target)
      (setChannel net.channel sender receiver packets source target) := by
  simp only [setChannel,Function.update_apply]
  split
  next =>
    simp only [Function.update_apply]
    split
    next => exact carried
    next => exact shows.channel sender target
  next => exact shows.channel source target

theorem shows_deliver (bytes : ByteNetwork P) (net : Network P) (shows : Shows identity transport bytes net)
    (sender receiver : P) :
    Option.Rel (Shows identity transport) (byteStep identity transport bytes (.deliver sender receiver))
      (step identity net (.deliver sender receiver)) := by
  have waiting := shows.channel sender receiver
  simp only [byteStep,step]
  cases left : bytes.channel sender receiver with
  | nil =>
    rw [left,List.forall₂_nil_left_iff] at waiting
    rw [waiting]
    exact .none
  | cons frame others =>
    rw [left] at waiting
    obtain ⟨packet,rest,carries,behind,right⟩ := List.forall₂_cons_left_iff.mp waiting
    rw [right]
    simp only [carries.1 receiver]
    exact .some ⟨shows.process,by simp only [shows.registry],by simp only [shows.clock],shows.sound,
      channel_replaced bytes net shows sender receiver others rest behind⟩

theorem shows_lose (bytes : ByteNetwork P) (net : Network P) (shows : Shows identity transport bytes net)
    (sender receiver : P) (index : Nat) :
    Option.Rel (Shows identity transport) (byteStep identity transport bytes (.lose sender receiver index))
      (step identity net (.lose sender receiver index)) := by
  have waiting := shows.channel sender receiver
  simp only [byteStep,step,List.Forall₂.length_eq waiting]
  split
  next =>
    exact .some ⟨shows.process,shows.registry,by simp only [shows.clock],shows.sound,
      channel_replaced bytes net shows sender receiver _ _ (forall₂_eraseIdx waiting index)⟩
  next => exact .none

/-- The network of bytes takes exactly the runs of the network of messages, and its registries
hold the same in every state. -/
theorem refines_messages (short : ∀ p, Short (identity p)) (labels : List (Label P)) :
    Option.Rel (Shows identity transport) (exec (byteStep identity transport) {} labels)
      (exec (step identity) {} labels) := by
  refine exec_lockstep _ _ (Shows identity transport) ?_ labels _ _ ?_
  · intro bytes net label shows
    cases label with
    | act actor label => exact shows_act short bytes net shows actor label
    | deliver sender receiver => exact shows_deliver bytes net shows sender receiver
    | lose sender receiver index => exact shows_lose bytes net shows sender receiver index
  · exact ⟨rfl,rfl,rfl,(initial_channels identity).process,fun _ _ => .nil⟩

end Network

/-- Two hosts of different byte orders. -/
def mixedHosts : Transport Bool where
  runtime := plainRuntime
  cdr := plainCdr
  host sender := if sender then .little else .big
  payload size := ⟨fun _ => 0,size,0,.little⟩
  roomy _ := le_refl _
  memory _ := 255

theorem twoHosts_short (p : Bool) : Short (twoHosts p) := by
  unfold Short
  cases p <;> decide

/-- The offer of one host reaches the registry of the other one as bytes. -/
theorem offer_as_bytes : ∃ bytes net,
    exec (byteStep twoHosts mixedHosts) {} (offerRequest ++ announceAndApply) = some bytes ∧
      exec (step twoHosts) {} (offerRequest ++ announceAndApply) = some net ∧ bytes.registry = net.registry ∧
      twoHosts true ∈ (statusOf (bytes.registry false) ⟨10,1⟩).remoteProviders := by
  obtain ⟨net,ran⟩ : ∃ net, exec (step twoHosts) {} (offerRequest ++ announceAndApply) = some net := ⟨_,rfl⟩
  have holds : twoHosts true ∈ (statusOf (net.registry false) ⟨10,1⟩).remoteProviders := by
    cases ran
    decide
  have alike := @refines_messages Bool twoHosts mixedHosts _ twoHosts_short (offerRequest ++ announceAndApply)
  rw [ran] at alike
  cases encoded : exec (byteStep twoHosts mixedHosts) {} (offerRequest ++ announceAndApply) with
  | none =>
    rw [encoded] at alike
    cases alike
  | some bytes =>
    rw [encoded] at alike
    cases alike with
    | some shows => exact ⟨bytes,net,rfl,ran,shows.registry,by rw [shows.registry]; exact holds⟩

end Smw.DiscoveryTransport
