import Smw.Foundation.Bytes
import Smw.IceoryxWriter

/-! How a value is framed in a payload of Fast-DDS: the encapsulation, the size of the body
as an integer of 32 bits, and the body at a fixed offset. The CDR library is a parameter. -/
namespace Smw.FastDDSDataType
open Foundation IceoryxWriter

structure FastCdr where
  encapsulation : ByteOrder → List UInt8
  /-- None where it throws. -/
  readEncapsulation : List UInt8 → Option ByteOrder
  alignment : Nat → Nat → Nat
  encapsulation_length : ∀ order, (encapsulation order).length = 4
  reads_back : ∀ order rest, readEncapsulation (encapsulation order ++ rest) = some order
  throws_short : ∀ bytes, bytes.length < 4 → readEncapsulation bytes = none
  pads : ∀ current, alignment current 4 = (4 - current % 4) % 4

/-- A payload points into memory, of which `maxSize` bytes are its own. -/
structure SerializedPayload where
  data : Nat → UInt8
  maxSize : UInt32
  length : UInt32
  encapsulation : ByteOrder

def SerializedPayload.content (payload : SerializedPayload) : List UInt8 :=
  span payload.data 0 payload.length.toNat

structure Write where
  offset : Nat
  bytes : List UInt8
deriving DecidableEq,Repr

def Write.apply (memory : Nat → UInt8) (write : Write) : Nat → UInt8 :=
  fill memory write.offset write.bytes

structure Serialized where
  result : Bool
  payload : SerializedPayload
  writes : List Write

/-- The range that the serializer was given starts at `start`. -/
structure Deserialized (T : Type) where
  result : Bool
  value : T
  start : Nat
  actualSize : Nat
  payload : SerializedPayload

def cdrVectorLenSize : Nat := 4

def cdrEncapsulationSize : Nat := 4

section Framing
variable {T : Type} (cdr : FastCdr) (serializer : Serializer T)

/-- None where the buffer has no room for the header, where an exception leaves the call. -/
def serialize (host : ByteOrder) (value : T) (payload : SerializedPayload) : Option Serialized :=
  let header := cdr.encapsulation host
  let size := UInt32.ofNat (serializer.getSize value)
  let serializedDataLength := header.length + cdrVectorLenSize
  if payload.maxSize.toNat < serializedDataLength then none
  else
    let (result,body) := serializer.serialize value
    let writes : List Write := [
      ⟨0,header⟩,
      ⟨header.length,host.encode cdrVectorLenSize size.toNat⟩,
      ⟨cdrVectorLenSize + cdrEncapsulationSize,body⟩]
    let written := {payload with
      data := writes.foldl Write.apply payload.data
      length := UInt32.ofNat serializedDataLength + size}
    some ⟨result,written,writes⟩

/-- None where an exception leaves the call. -/
def deserialize (host : ByteOrder) (payload : SerializedPayload) (built : T) : Option (Deserialized T) :=
  (cdr.readEncapsulation payload.content).bind (fun endianness =>
    let remaining := payload.content.drop cdrEncapsulationSize
    if remaining.length < cdrVectorLenSize then none
    else
      let read := ByteOrder.swapped host endianness (remaining.take cdrVectorLenSize)
      let actualSize := host.decode read
      let start := cdrVectorLenSize + cdrEncapsulationSize
      let (result,value) := serializer.deserialize (span payload.data start actualSize) built
      some ⟨result,value,start,actualSize,{payload with encapsulation := endianness}⟩)

def advance (current amount : UInt32) : UInt32 :=
  current + (amount + UInt32.ofNat (cdr.alignment current.toNat 4))

def getSerializedSizeProvider (value : T) : UInt32 :=
  let body := advance cdr 0 (UInt32.ofNat (serializer.getSize value))
  let sized := advance cdr body (UInt32.ofNat cdrVectorLenSize)
  advance cdr sized (UInt32.ofNat cdrEncapsulationSize)

end Framing

/-- The kinds of encapsulation 0 to 3; the low bit tells the order. -/
def plainCdr : FastCdr where
  encapsulation
    | .big => [0,0,0,0]
    | .little => [0,1,0,0]
  readEncapsulation
    | _ :: kind :: _ :: _ :: _ =>
      if kind.toNat < 4 then some (if kind.toNat % 2 = 0 then .big else .little) else none
    | _ => none
  alignment current size := (size - current % size) % size
  encapsulation_length order := by
    cases order with
    | little => rfl
    | big => rfl
  reads_back order rest := by
    cases order with
    | little => rfl
    | big => rfl
  throws_short bytes short := by
    match bytes,short with
    | [],_ => rfl
    | [_],_ => rfl
    | [_,_],_ => rfl
    | [_,_,_],_ => rfl
    | _ :: _ :: _ :: _ :: _,long =>
      simp only [List.length_cons] at long
      omega
  pads current := rfl

/-- The serializer of plain bytes. -/
def bytesSerializer : Serializer (List UInt8) where
  getSize := List.length
  serialize value := (true,value)
  deserialize bytes _ := (true,bytes)

section Deserialize
variable {T : Type} (cdr : FastCdr) (serializer : Serializer T) (host : ByteOrder)
  (payload : SerializedPayload) (built : T)

/-- The size that the payload gives for its body, if it is read in the given order. -/
def declaredSize (endianness : ByteOrder) : Nat :=
  endianness.decode (span payload.data cdrEncapsulationSize cdrVectorLenSize)

/-- The header is complete and valid, and the body that it declares was received. -/
def WellFramed : Prop :=
  ∃ endianness, cdr.readEncapsulation payload.content = some endianness ∧
    8 ≤ payload.length.toNat ∧ 8 + declaredSize payload endianness ≤ payload.length.toNat

/-- The call returns, and the range given to the serializer was received. -/
def DecodesSafely : Prop :=
  ∃ decoded, deserialize cdr serializer host payload built = some decoded ∧
    decoded.start = 8 ∧ decoded.start + decoded.actualSize ≤ payload.length.toNat

theorem content_split (complete : 8 ≤ payload.length.toNat) :
    payload.content = span payload.data 0 4 ++ (span payload.data 4 4 ++
      span payload.data 8 (payload.length.toNat - 8)) := by
  obtain ⟨body,size⟩ := Nat.exists_eq_add_of_le complete
  have parts : 8 + body = 4 + (4 + body) := by omega
  rw [SerializedPayload.content,size,Nat.add_sub_cancel_left,parts,span_append,span_append]

/-- What was received decides the header, the declared size and the body. -/
theorem content_parts (received sent : SerializedPayload) (length : received.length = sent.length)
    (same : received.content = sent.content) (complete : 8 ≤ sent.length.toNat) :
    span received.data 0 4 = span sent.data 0 4 ∧ span received.data 4 4 = span sent.data 4 4 ∧
      span received.data 8 (sent.length.toNat - 8) = span sent.data 8 (sent.length.toNat - 8) := by
  rw [content_split received (by rw [length]; exact complete),content_split sent complete,length] at same
  obtain ⟨header,rest⟩ := List.append_inj same (by simp)
  obtain ⟨size,body⟩ := List.append_inj rest (by simp)
  exact ⟨header,size,body⟩

theorem deserialize_complete (endianness : ByteOrder)
    (valid : cdr.readEncapsulation payload.content = some endianness)
    (complete : 8 ≤ payload.length.toNat) :
    deserialize cdr serializer host payload built =
      let decoded := serializer.deserialize
        (span payload.data 8 (declaredSize payload endianness)) built
      some ⟨decoded.1,decoded.2,8,declaredSize payload endianness,{payload with encapsulation := endianness}⟩ := by
  have remaining : payload.content.drop 4 =
      span payload.data 4 4 ++ span payload.data 8 (payload.length.toNat - 8) := by
    rw [content_split payload complete]
    exact List.drop_left' (span_length _ _ _)
  have size : (span payload.data 4 4 ++ span payload.data 8 (payload.length.toNat - 8)).take 4 =
      span payload.data 4 4 := List.take_left' (span_length _ _ _)
  have room : ¬ (span payload.data 4 4 ++ span payload.data 8 (payload.length.toNat - 8)).length < 4 := by
    simp
  simp only [deserialize,valid,Option.bind_some,cdrEncapsulationSize,cdrVectorLenSize,remaining,
    if_neg room,size,ByteOrder.decode_swapped]
  rfl

theorem deserialize_incomplete (incomplete : payload.length.toNat < 8) :
    deserialize cdr serializer host payload built = none := by
  have short : (payload.content.drop cdrEncapsulationSize).length < cdrVectorLenSize := by
    simp [SerializedPayload.content,cdrEncapsulationSize,cdrVectorLenSize]
    omega
  unfold deserialize
  cases cdr.readEncapsulation payload.content with
  | none => rfl
  | some endianness => exact if_pos short

theorem decodes_safely_iff :
    DecodesSafely cdr serializer host payload built ↔ WellFramed cdr payload := by
  constructor
  · intro safe
    obtain ⟨decoded,returned,_,received⟩ := safe
    have complete : 8 ≤ payload.length.toNat := by
      by_contra incomplete
      rw [deserialize_incomplete cdr serializer host payload built (by omega)] at returned
      cases returned
    cases valid : cdr.readEncapsulation payload.content with
    | none => simp [deserialize,valid] at returned
    | some endianness =>
      rw [deserialize_complete cdr serializer host payload built endianness valid complete] at returned
      cases returned
      exact ⟨endianness,valid,complete,received⟩
  · intro framed
    obtain ⟨endianness,valid,complete,received⟩ := framed
    exact ⟨_,deserialize_complete cdr serializer host payload built endianness valid complete,rfl,received⟩

/-- A payload without a byte, and one whose header declares a body that it does not carry. -/
theorem malformed_payloads_unsafe :
    ¬ DecodesSafely plainCdr bytesSerializer .little ⟨fun _ => 0,0,0,.little⟩ [] ∧
      ¬ DecodesSafely plainCdr bytesSerializer .little
        ⟨fun address => if address = 1 ∨ address = 4 then 1 else 0,8,8,.little⟩ [] := by
  constructor
  · intro safe
    obtain ⟨decoded,returned,_⟩ := safe
    cases returned
  · intro safe
    obtain ⟨decoded,returned,_,received⟩ := safe
    cases returned
    revert received
    decide

end Deserialize

section RoundTrip
variable {T : Type} (cdr : FastCdr) (serializer : Serializer T) (value : T)

def framing (host : ByteOrder) : List Write := [
  ⟨0,cdr.encapsulation host⟩,
  ⟨4,host.encode 4 (UInt32.ofNat (serializer.getSize value)).toNat⟩,
  ⟨8,(serializer.serialize value).2⟩]

def framed (host : ByteOrder) (memory : Nat → UInt8) : Nat → UInt8 :=
  (framing cdr serializer value host).foldl Write.apply memory

theorem serialize_roomy (host : ByteOrder) (payload : SerializedPayload)
    (room : 8 ≤ payload.maxSize.toNat) :
    serialize cdr serializer host value payload = some {
      result := (serializer.serialize value).1
      payload := {payload with
        data := framed cdr serializer value host payload.data
        length := 8 + UInt32.ofNat (serializer.getSize value)}
      writes := framing cdr serializer value host} := by
  simp only [serialize,cdr.encapsulation_length,cdrVectorLenSize,cdrEncapsulationSize]
  rw [if_neg (by omega)]
  rfl

theorem serialize_narrow (host : ByteOrder) (payload : SerializedPayload)
    (narrow : payload.maxSize.toNat < 8) : serialize cdr serializer host value payload = none := by
  simp only [serialize,cdr.encapsulation_length,cdrVectorLenSize]
  rw [if_pos narrow]

theorem framed_parts (host : ByteOrder) (memory : Nat → UInt8) :
    span (framed cdr serializer value host memory) 0 4 = cdr.encapsulation host ∧
      span (framed cdr serializer value host memory) 4 4 =
        host.encode 4 (UInt32.ofNat (serializer.getSize value)).toNat ∧
      span (framed cdr serializer value host memory) 8 (serializer.serialize value).2.length =
        (serializer.serialize value).2 := by
  have header := cdr.encapsulation_length host
  simp only [framed,framing,List.foldl_cons,List.foldl_nil,Write.apply]
  refine ⟨?_,?_,?_⟩
  · rw [span_fill_apart _ _ _ _ _ (by omega),span_fill_apart _ _ _ _ _ (by omega),← header]
    exact span_fill _ _ _
  · rw [span_fill_apart _ _ _ _ _ (by omega)]
    have written := span_fill (fill memory 0 (cdr.encapsulation host)) 4
      (host.encode 4 (UInt32.ofNat (serializer.getSize value)).toNat)
    rw [ByteOrder.encode_length] at written
    exact written
  · exact span_fill _ _ _

theorem advance_toNat (current amount : UInt32) (room : current.toNat + amount.toNat + 3 < 2 ^ 32) :
    (advance cdr current amount).toNat = current.toNat + amount.toNat + (4 - current.toNat % 4) % 4 := by
  have padding : (UInt32.ofNat ((4 - current.toNat % 4) % 4)).toNat = (4 - current.toNat % 4) % 4 := by
    apply UInt32.toNat_ofNat_of_lt'
    change _ < 4294967296
    omega
  rw [advance,cdr.pads,UInt32.toNat_add,UInt32.toNat_add,padding]
  omega

variable (bounded : serializer.getSize value ≤ 2 ^ 31 - 1)
include bounded

theorem size_toNat : (UInt32.ofNat (serializer.getSize value)).toNat = serializer.getSize value := by
  apply UInt32.toNat_ofNat_of_lt'
  change _ < 4294967296
  omega

theorem length_toNat :
    (8 + UInt32.ofNat (serializer.getSize value) : UInt32).toNat = 8 + serializer.getSize value := by
  rw [UInt32.toNat_add,size_toNat serializer value bounded]
  change (8 + serializer.getSize value) % 4294967296 = 8 + serializer.getSize value
  omega

/-- The running alignment does not wrap: the result is the framed size in whole words. -/
theorem getSerializedSizeProvider_toNat :
    (getSerializedSizeProvider cdr serializer value).toNat = (8 + serializer.getSize value + 3) / 4 * 4 := by
  have size := size_toNat serializer value bounded
  have start : (0 : UInt32).toNat = 0 := rfl
  have four : (UInt32.ofNat 4).toNat = 4 := rfl
  have body := advance_toNat cdr 0 (UInt32.ofNat (serializer.getSize value)) (by omega)
  have sized := advance_toNat cdr (advance cdr 0 (UInt32.ofNat (serializer.getSize value))) (UInt32.ofNat 4)
    (by omega)
  unfold getSerializedSizeProvider cdrVectorLenSize cdrEncapsulationSize
  rw [advance_toNat cdr _ (UInt32.ofNat 4) (by omega)]
  omega

theorem deserialize_received (writer reader : ByteOrder) (memory : Nat → UInt8) (built : T)
    (exactly : (serializer.serialize value).2.length = serializer.getSize value)
    (received sent : SerializedPayload) (data : sent.data = framed cdr serializer value writer memory)
    (size : sent.length.toNat = 8 + serializer.getSize value)
    (length : received.length = sent.length) (same : received.content = sent.content) :
    ∃ decoded, deserialize cdr serializer reader received built = some decoded ∧
      (decoded.result,decoded.value) = serializer.deserialize (serializer.serialize value).2 built := by
  obtain ⟨header,declared,body⟩ := framed_parts cdr serializer value writer memory
  obtain ⟨first,second,third⟩ := content_parts received sent length same (by omega)
  rw [size,Nat.add_sub_cancel_left] at third
  rw [data] at first second third
  have complete : 8 ≤ received.length.toNat := by
    rw [length]
    omega
  have valid : cdr.readEncapsulation received.content = some writer := by
    rw [content_split received complete,first,header]
    exact cdr.reads_back writer _
  have actual : declaredSize received writer = serializer.getSize value := by
    change writer.decode (span received.data 4 4) = _
    rw [second,declared,ByteOrder.decode_encode _ _ _ (UInt32.toNat_lt _)]
    exact size_toNat serializer value bounded
  refine ⟨_,deserialize_complete cdr serializer reader received built writer valid complete,?_⟩
  rw [exactly] at body
  rw [actual,third,body]

theorem framing_round_trip (writer reader : ByteOrder) (payload : SerializedPayload) (built : T)
    (encodes : (serializer.serialize value).1 = true)
    (exactly : (serializer.serialize value).2.length = serializer.getSize value)
    (decodes : serializer.deserialize (serializer.serialize value).2 built = (true,value))
    (roomy : (getSerializedSizeProvider cdr serializer value).toNat ≤ payload.maxSize.toNat) :
    ∃ sent, serialize cdr serializer writer value payload = some sent ∧ sent.result = true ∧
      (∀ write ∈ sent.writes, write.offset + write.bytes.length ≤ payload.maxSize.toNat) ∧
      sent.payload.length.toNat = 8 + serializer.getSize value ∧
      (getSerializedSizeProvider cdr serializer value).toNat = (8 + serializer.getSize value + 3) / 4 * 4 ∧
      sent.payload.length ≤ getSerializedSizeProvider cdr serializer value ∧
      ∀ received : SerializedPayload, received.length = sent.payload.length →
        received.content = sent.payload.content →
        ∃ decoded, deserialize cdr serializer reader received built = some decoded ∧
          decoded.result = true ∧ decoded.value = value := by
  have provided := getSerializedSizeProvider_toNat cdr serializer value bounded
  have length := length_toNat serializer value bounded
  refine ⟨_,serialize_roomy cdr serializer value writer payload (by omega),encodes,?_,length,provided,?_,?_⟩
  · intro write member
    have header := cdr.encapsulation_length writer
    simp only [framing,List.mem_cons,List.not_mem_nil,or_false] at member
    rcases member with rfl | rfl | rfl
    · change 0 + (cdr.encapsulation writer).length ≤ _
      omega
    · change 4 + (writer.encode 4 _).length ≤ _
      rw [ByteOrder.encode_length]
      omega
    · change 8 + (serializer.serialize value).2.length ≤ _
      rw [exactly]
      omega
  · rw [UInt32.le_iff_toNat_le,length,provided]
    omega
  · intro received same_length same
    obtain ⟨decoded,returned,result⟩ := deserialize_received cdr serializer value bounded writer reader
      payload.data built exactly received _ rfl length same_length same
    rw [decodes] at result
    obtain ⟨accepted,carried⟩ := Prod.mk.inj result
    exact ⟨decoded,returned,accepted,carried⟩

omit bounded

theorem three_bytes_round_trip : ∃ sent,
    serialize plainCdr bytesSerializer .big [1,2,3] ⟨fun _ => 0,12,0,.little⟩ = some sent ∧
      sent.payload.length.toNat = 11 ∧ (getSerializedSizeProvider plainCdr bytesSerializer [1,2,3]).toNat = 12 ∧
      ∃ decoded, deserialize plainCdr bytesSerializer .little sent.payload [] = some decoded ∧
        decoded.result = true ∧ decoded.value = [1,2,3] := by
  have carried := framing_round_trip plainCdr bytesSerializer [1,2,3] (by decide) .big .little
    ⟨fun _ => 0,12,0,.little⟩ [] rfl rfl rfl (by decide)
  obtain ⟨sent,returned,_,_,length,provided,_,received⟩ := carried
  exact ⟨sent,returned,length,provided,received sent.payload rfl rfl⟩

end RoundTrip
end Smw.FastDDSDataType
