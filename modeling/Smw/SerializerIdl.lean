import Smw.SerialisationFailures

/-! The serializer for types that are generated from an IDL file, and such a type: an index and
a message of at most 255 bytes. The stream of the CDR library is a parameter. -/
namespace Smw.SerializerIdl
open Foundation IceoryxWriter FastDDSDataType SerialisationFailures

/-- What a generated type offers; a payload stands for its content. -/
structure PubSubType (T : Type) where
  typeSize : UInt32
  getSerializedSizeProvider : T → UInt32
  /-- Success and what the payload of the given maximal size holds then. -/
  serialize : T → UInt32 → Bool × List UInt8
  /-- None where an exception leaves the call. -/
  deserialize : List UInt8 → T → Option (Bool × T)

section Serializer
variable {T : Type} (delegate : PubSubType T)

def getMaxSize : Nat := delegate.typeSize.toNat

def getSize (value : T) : Nat := (delegate.getSerializedSizeProvider value).toNat

def serialize (value : T) : Bool × List UInt8 :=
  delegate.serialize value (UInt32.ofNat (getMaxSize delegate))

def deserialize (bytes : List UInt8) (built : T) : Option (Bool × T) := delegate.deserialize bytes built

/-- An exception, which ends the process, counts as a failure here. -/
def serializerIdl : Serializer T where
  getSize := getSize delegate
  serialize := serialize delegate
  deserialize bytes built := (deserialize delegate bytes built).getD (false,built)

end Serializer

/-- The operations of the stream at offsets that need no padding; none where the buffer ends. -/
structure CdrStream where
  cdr : FastCdr
  putUInt32 : ByteOrder → UInt32 → List UInt8
  putString : ByteOrder → List UInt8 → List UInt8
  takeUInt32 : ByteOrder → List UInt8 → Option (UInt32 × List UInt8)
  takeString : ByteOrder → List UInt8 → Option (List UInt8 × List UInt8)
  uint32_length : ∀ order value, (putUInt32 order value).length = 4
  /-- A text is written with its size and the null character that ends it. -/
  string_length : ∀ order text, 0 ∉ text → (putString order text).length = 4 + text.length + 1
  takes_uint32 : ∀ order value rest, takeUInt32 order (putUInt32 order value ++ rest) = some (value,rest)
  takes_string : ∀ order text rest, 0 ∉ text → text.length + 1 < 2 ^ 32 →
    takeString order (putString order text ++ rest) = some (text,rest)

structure HelloWorld where
  index : UInt32 := 0
  message : List UInt8 := []
deriving DecidableEq,Repr,Inhabited

section HelloWorld
variable (cdr : FastCdr)

def getMaxCdrSerializedSize (initial_alignment : Nat) : Nat :=
  let current_alignment := initial_alignment + (4 + cdr.alignment initial_alignment 4)
  let current_alignment := current_alignment + (4 + cdr.alignment current_alignment 4 + 255 + 1)
  current_alignment - initial_alignment

def getCdrSerializedSize (data : HelloWorld) (initial_alignment : Nat) : Nat :=
  let current_alignment := initial_alignment + (4 + cdr.alignment initial_alignment 4)
  let current_alignment := current_alignment + (4 + cdr.alignment current_alignment 4 + data.message.length + 1)
  current_alignment - initial_alignment

variable (stream : CdrStream) (host : ByteOrder)

def HelloWorld.serialize (data : HelloWorld) : List UInt8 :=
  stream.putUInt32 host data.index ++ stream.putString host data.message

/-- Whether all of it was read; the index stays where the message is incomplete. -/
def HelloWorld.deserialize (endianness : ByteOrder) (bytes : List UInt8) (data : HelloWorld) :
    Bool × HelloWorld :=
  match stream.takeUInt32 endianness bytes with
  | none => (false,data)
  | some (index,rest) =>
    match stream.takeString endianness rest with
    | none => (false,{data with index := index})
    | some (message,_) => (true,⟨index,message⟩)

/-- The type size leaves room for the encapsulation, whose exception is not caught. -/
def helloWorldPubSubType : PubSubType HelloWorld where
  typeSize := UInt32.ofNat (getMaxCdrSerializedSize stream.cdr 0) + 4
  getSerializedSizeProvider data := UInt32.ofNat (getCdrSerializedSize stream.cdr data 0) + 4
  serialize data maxSize :=
    let written := stream.cdr.encapsulation host ++ data.serialize stream host
    if written.length ≤ maxSize.toNat then (true,written) else (false,[])
  deserialize content data :=
    (stream.cdr.readEncapsulation content).map (fun endianness =>
      HelloWorld.deserialize stream endianness (content.drop 4) data)

def serializerHelloWorld : Serializer HelloWorld := serializerIdl (helloWorldPubSubType stream host)

end HelloWorld

section Sizes
variable (stream : CdrStream) (host : ByteOrder) (value : HelloWorld)

theorem getMaxSize_eq : getMaxSize (helloWorldPubSubType stream host) = 268 := by
  have first := stream.cdr.pads 0
  have second := stream.cdr.pads 4
  simp [getMaxSize,helloWorldPubSubType,getMaxCdrSerializedSize,first,second]

theorem getCdrSerializedSize_eq : getCdrSerializedSize stream.cdr value 0 = value.message.length + 9 := by
  have first := stream.cdr.pads 0
  have second := stream.cdr.pads 4
  simp [getCdrSerializedSize,first,second]
  omega

theorem getSize_eq (bounded : value.message.length + 13 < 2 ^ 32) :
    (serializerHelloWorld stream host).getSize value = value.message.length + 13 := by
  change (UInt32.ofNat (getCdrSerializedSize stream.cdr value 0) + 4).toNat = _
  rw [getCdrSerializedSize_eq,UInt32.toNat_add,UInt32.toNat_ofNat_of_lt' (by change _ < 4294967296; omega)]
  change (value.message.length + 9 + 4) % 4294967296 = _
  omega

variable (plain : 0 ∉ value.message)
include plain

theorem written_length :
    (stream.cdr.encapsulation host ++ value.serialize stream host).length = value.message.length + 13 := by
  simp only [HelloWorld.serialize,List.length_append,stream.cdr.encapsulation_length,stream.uint32_length,
    stream.string_length host _ plain]
  omega

theorem serialize_short (short : value.message.length ≤ 255) :
    (serializerHelloWorld stream host).serialize value =
      (true,stream.cdr.encapsulation host ++ value.serialize stream host) := by
  change (helloWorldPubSubType stream host).serialize value (UInt32.ofNat (getMaxSize _)) = _
  rw [getMaxSize_eq]
  have fits : (stream.cdr.encapsulation host ++ value.serialize stream host).length ≤ (UInt32.ofNat 268).toNat := by
    rw [written_length stream host value plain]
    change _ ≤ 268
    omega
  exact if_pos fits

theorem serialize_long (long : 255 < value.message.length) :
    (serializerHelloWorld stream host).serialize value = (false,[]) := by
  change (helloWorldPubSubType stream host).serialize value (UInt32.ofNat (getMaxSize _)) = _
  rw [getMaxSize_eq]
  have full : ¬ (stream.cdr.encapsulation host ++ value.serialize stream host).length ≤ (UInt32.ofNat 268).toNat := by
    rw [written_length stream host value plain]
    change ¬ _ ≤ 268
    omega
  exact if_neg full

theorem deserialize_serialize (bounded : value.message.length + 1 < 2 ^ 32) (built : HelloWorld) :
    HelloWorld.deserialize stream host (value.serialize stream host) built = (true,value) := by
  have index := stream.takes_uint32 host value.index (stream.putString host value.message)
  have message := stream.takes_string host value.message [] plain bounded
  rw [List.append_nil] at message
  simp [HelloWorld.deserialize,HelloWorld.serialize,index,message]

/-- What was written is read back whatever was there before. -/
theorem deserialize_written (bounded : value.message.length + 1 < 2 ^ 32) (built : HelloWorld) :
    (serializerHelloWorld stream host).deserialize
      (stream.cdr.encapsulation host ++ value.serialize stream host) built = (true,value) := by
  have body : (stream.cdr.encapsulation host ++ value.serialize stream host).drop 4 =
      value.serialize stream host := List.drop_left' (stream.cdr.encapsulation_length host)
  have known := stream.cdr.reads_back host (value.serialize stream host)
  simp only [serializerHelloWorld,serializerIdl,deserialize,helloWorldPubSubType,known,Option.map_some,
    Option.getD_some,body]
  exact deserialize_serialize stream host value plain bounded built

theorem transportable_of_short (short : value.message.length ≤ 255) :
    Transportable (.dynamic (serializerHelloWorld stream host)) value := by
  constructor
  · rw [serialize_short stream host value plain short,getSize_eq stream host value (by omega)]
    exact written_length stream host value plain
  · intro built
    rw [serialize_short stream host value plain short,
      deserialize_written stream host value plain (by omega) built]

end Sizes

section Paths
variable (stream : CdrStream) (value : HelloWorld) (plain : 0 ∉ value.message)
variable (dds : FastDds) (writer reader : ByteOrder)
include plain

theorem dds_short (short : value.message.length ≤ 255) : ∃ sent,
    (ddsPath stream.cdr (serializerHelloWorld stream writer) dds writer reader true).write value =
      some (dds.write true,if dds.write true then [sent] else []) ∧
    ∀ received : SerializedPayload, received.length = sent.length → received.content = sent.content →
      (ddsPath stream.cdr (serializerHelloWorld stream writer) dds writer reader true).onDataAvailable received =
        some (if dds.take true then [value] else []) := by
  have size := getSize_eq stream writer value (by omega)
  have bounded : (serializerHelloWorld stream writer).getSize value ≤ 2 ^ 31 - 1 := by
    rw [size]
    omega
  have written := serialize_short stream writer value plain short
  have room := headerFits_of_bounded stream.cdr (serializerHelloWorld stream writer) dds value bounded
  obtain ⟨done,ran,result,data,length⟩ : ∃ done : Serialized,
      FastDDSDataType.serialize stream.cdr (serializerHelloWorld stream writer) writer value
        (dds.reserve (getSerializedSizeProvider stream.cdr (serializerHelloWorld stream writer) value)) = some done ∧
      done.result = ((serializerHelloWorld stream writer).serialize value).1 ∧
      done.payload.data = framed stream.cdr (serializerHelloWorld stream writer) value writer
        (dds.reserve (getSerializedSizeProvider stream.cdr (serializerHelloWorld stream writer) value)).data ∧
      done.payload.length = 8 + UInt32.ofNat ((serializerHelloWorld stream writer).getSize value) :=
    ⟨_,serialize_roomy stream.cdr (serializerHelloWorld stream writer) value writer _ room,rfl,rfl,rfl⟩
  refine ⟨done.payload,?_,?_⟩
  · rw [written] at result
    simp [ddsPath,ran,result]
  · intro received same_length same
    have exactly : ((serializerHelloWorld stream writer).serialize value).2.length =
        (serializerHelloWorld stream writer).getSize value := by
      rw [written,size]
      exact written_length stream writer value plain
    have framed_length := length_toNat (serializerHelloWorld stream writer) value bounded
    rw [← length] at framed_length
    obtain ⟨decoded,returned,outcome⟩ := deserialize_received stream.cdr (serializerHelloWorld stream writer) value
      bounded writer reader _ default exactly received done.payload data framed_length same_length same
    rw [written,deserialize_written stream writer value plain (by omega)] at outcome
    obtain ⟨accepted,carried⟩ := Prod.mk.inj outcome
    simp [ddsPath,returned,accepted,carried]

theorem dds_long (bounded : value.message.length < 2 ^ 30) (long : 255 < value.message.length) :
    (ddsPath stream.cdr (serializerHelloWorld stream writer) dds writer reader true).write value =
      some (false,[]) := by
  have size := getSize_eq stream writer value (by omega)
  have room := headerFits_of_bounded stream.cdr (serializerHelloWorld stream writer) dds value (by
    rw [size]
    omega)
  have framed := serialize_roomy stream.cdr (serializerHelloWorld stream writer) value writer _ room
  have written := serialize_long stream writer value plain long
  simp [ddsPath,framed,written,dds.write_failed]

/-- A short message is carried by both transports, to readers of either byte order. A longer one
fails over DDS, but iceoryx reports success and publishes the chunk as it was before. -/
theorem hello_world_paths (grant : Grant) (address : Address) (iox : IoxState HelloWorld)
    (bounded : value.message.length < 2 ^ 30) :
    (value.message.length ≤ 255 →
      (∃ sent,
        (ddsPath stream.cdr (serializerHelloWorld stream writer) dds writer reader true).write value =
          some (dds.write true,if dds.write true then [sent] else []) ∧
        ∀ received : SerializedPayload, received.length = sent.length → received.content = sent.content →
          (ddsPath stream.cdr (serializerHelloWorld stream writer) dds writer reader true).onDataAvailable
            received = some (if dds.take true then [value] else [])) ∧
      ∃ buffer,
        (iceoryxPath (serializerHelloWorld stream writer) (some grant) address iox true).write value =
          some (true,[buffer]) ∧
        (iceoryxPath (serializerHelloWorld stream writer) (some grant) address iox true).onDataAvailable buffer =
          some [value]) ∧
    (255 < value.message.length →
      (ddsPath stream.cdr (serializerHelloWorld stream writer) dds writer reader true).write value =
        some (false,[]) ∧
      (iceoryxPath (serializerHelloWorld stream writer) (some grant) address iox true).write value =
        some (true,[(List.range (value.message.length + 13)).map grant.before])) := by
  have published := iceoryxPath_write (serializerHelloWorld stream writer) (some grant) address iox true value
  constructor
  · intro short
    refine ⟨dds_short stream value plain dds writer reader short,_,published,?_⟩
    have received := receive_payloadOf _ grant.before value (transportable_of_short stream writer value plain short)
    exact congrArg (fun built : Option HelloWorld => some built.toList) received
  · intro long
    refine ⟨dds_long stream value plain dds writer reader bounded long,?_⟩
    rw [published,serialize_long stream writer value plain long,getSize_eq stream writer value (by omega)]
    simp [chunkContent]

end Paths

/-- The stream as the CDR format has it. -/
def plainStream : CdrStream where
  cdr := plainCdr
  putUInt32 order value := order.encode 4 value.toNat
  putString order text := order.encode 4 (text.length + 1) ++ text ++ [0]
  takeUInt32 order bytes :=
    if bytes.length < 4 then none else some (UInt32.ofNat (order.decode (bytes.take 4)),bytes.drop 4)
  takeString order bytes :=
    let size := order.decode (bytes.take 4)
    let rest := bytes.drop 4
    if bytes.length < 4 ∨ rest.length < size then none
    else
      let text := rest.take size
      some (if text.getLast? = some 0 then text.dropLast else text,rest.drop size)
  uint32_length order value := ByteOrder.encode_length order 4 value.toNat
  string_length order text plain := by
    simp only [List.length_append,ByteOrder.encode_length,List.length_singleton]
  takes_uint32 order value rest := by
    have size := ByteOrder.encode_length order 4 value.toNat
    have long : ¬ (order.encode 4 value.toNat ++ rest).length < 4 := by
      rw [List.length_append,size]
      omega
    rw [if_neg long,List.take_left' size,List.drop_left' size,
      ByteOrder.decode_encode order 4 value.toNat value.toNat_lt]
    simp
  takes_string order text rest plain bounded := by
    have size := ByteOrder.encode_length order 4 (text.length + 1)
    have long : ¬ (order.encode 4 (text.length + 1) ++ text ++ [0] ++ rest).length < 4 := by
      simp only [List.length_append,size]
      omega
    have header : (order.encode 4 (text.length + 1) ++ text ++ [0] ++ rest).take 4 =
        order.encode 4 (text.length + 1) := by
      rw [List.append_assoc,List.append_assoc]
      exact List.take_left' size
    have body : (order.encode 4 (text.length + 1) ++ text ++ [0] ++ rest).drop 4 = (text ++ [0]) ++ rest := by
      rw [List.append_assoc,List.append_assoc,← List.append_assoc text]
      exact List.drop_left' size
    have declared := ByteOrder.decode_encode order 4 (text.length + 1) bounded
    have whole : (text ++ [0]).length = text.length + 1 := by simp
    have enough : ¬ ((text ++ [0]) ++ rest).length < text.length + 1 := by
      rw [List.length_append,whole]
      omega
    simp only [header,body,declared,long,enough,or_self,if_false,List.take_left' whole,List.drop_left' whole]
    simp

def plainDds : FastDds where
  write result := result
  take result := result
  reserve size := ⟨fun _ => 0,size,0,.little⟩
  write_failed := rfl
  take_failed := rfl
  reserves := fun size => UInt32.le_refl size

/-- A greeting goes through a chunk of iceoryx. -/
theorem greeting_carried : ∃ buffer,
    (iceoryxPath (serializerHelloWorld plainStream .big) (some ⟨0,fun _ => 0⟩) (.heap 0) {} true).write ⟨7,[72,105]⟩ =
      some (true,[buffer]) ∧
    (iceoryxPath (serializerHelloWorld plainStream .big) (some ⟨0,fun _ => 0⟩) (.heap 0) {} true).onDataAvailable buffer =
      some [⟨7,[72,105]⟩] :=
  ((hello_world_paths plainStream ⟨7,[72,105]⟩ (by decide) plainDds .big .little ⟨0,fun _ => 0⟩ (.heap 0) {} (by decide)).1
    (by decide)).2

end Smw.SerializerIdl
