import Smw.Foundation.WireFormat
import Smw.ServiceDescription
import Smw.IceoryxWriter

/-! The generated code of the discovery messages: how they are written, measured, parsed and
merged, field by field. The runtime of protobuf that it calls is a parameter. -/
namespace Smw.DiscoveryEncoding
open Foundation Foundation.Reading Foundation.WireFormat

/-- A parsed enum is the low 32 bits of its varint; a negative one is written with ten groups. -/
def enumVarint (value : Int32) : UInt64 := value.toInt64.toUInt64

def enumOfVarint (value : UInt64) : Int32 := value.toInt64.toInt32

theorem enumOfVarint_enumVarint (value : Int32) : enumOfVarint (enumVarint value) = value := by
  simp [enumOfVarint,enumVarint]

/-- A reader has the bytes up to the limit of the message, and none is a null pointer; a read
past the limit ends the parse in the same way. -/
structure Runtime where
  UnknownField : Type
  tagOf : UnknownField → UInt32
  readTag : Reader UInt8 UInt32
  readVarint32 : Reader UInt8 UInt32
  readVarint64 : Reader UInt8 UInt64
  /-- The bytes of a string, and those under the limit of an embedded message. -/
  readLengthDelimited : Reader UInt8 (List UInt8)
  unknownFieldParse : UInt32 → Reader UInt8 UnknownField
  verifyUTF8 : List UInt8 → Bool
  writeUInt32ToArray : Nat → UInt32 → List UInt8
  writeEnumToArray : Nat → Int32 → List UInt8
  writeStringMaybeAliased : Nat → List UInt8 → List UInt8
  /-- What precedes an embedded message of the given cached size. -/
  writeMessageHeader : Nat → Nat → List UInt8
  serializeUnknownField : UnknownField → List UInt8
  uint32SizePlusOne : UInt32 → Nat
  enumSize : Int32 → Nat
  lengthDelimitedSize : Nat → Nat
  unknownFieldSize : UnknownField → Nat
  tag_advances : Advances readTag
  tag_delimited : SelfDelimiting readTag
  varint32_delimited : SelfDelimiting readVarint32
  varint64_delimited : SelfDelimiting readVarint64
  block_delimited : SelfDelimiting readLengthDelimited
  unknown_delimited : ∀ tag, SelfDelimiting (unknownFieldParse tag)
  unknown_tag : ∀ tag input field rest, unknownFieldParse tag input = some (field,rest) → tagOf field = tag
  reads_tag : ∀ (tag : UInt32) rest, readTag (varint tag.toNat ++ rest) = some (tag,rest)
  reads_varint32 : ∀ (value : UInt32) rest, readVarint32 (varint value.toNat ++ rest) = some (value,rest)
  reads_varint64 : ∀ (value : UInt64) rest, readVarint64 (varint value.toNat ++ rest) = some (value,rest)
  reads_block : ∀ bytes rest, bytes.length + 16 < 2 ^ 31 →
    readLengthDelimited (block bytes ++ rest) = some (bytes,rest)
  reads_unknown : ∀ field rest, (serializeUnknownField field).length + 16 < 2 ^ 31 →
    ∃ body, readTag (serializeUnknownField field ++ rest) = some (tagOf field,body) ∧
      unknownFieldParse (tagOf field) body = some (field,rest)
  accepts_text : ∀ text : String, verifyUTF8 text.toByteArray.data.toList = true
  writes_uint32 : ∀ number (value : UInt32),
    writeUInt32ToArray number value = varint (8 * number) ++ varint value.toNat
  writes_enum : ∀ number value,
    writeEnumToArray number value = varint (8 * number) ++ varint (enumVarint value).toNat
  writes_string : ∀ number bytes, writeStringMaybeAliased number bytes = varint (8 * number + 2) ++ block bytes
  writes_header : ∀ number size, writeMessageHeader number size = varint (8 * number + 2) ++ varint size
  measures_uint32 : ∀ value : UInt32, uint32SizePlusOne value = 1 + (varint value.toNat).length
  measures_enum : ∀ value, enumSize value = (varint (enumVarint value).toNat).length
  measures_block : ∀ size, lengthDelimitedSize size = (varint size).length + size
  measures_unknown : ∀ field, unknownFieldSize field = (serializeUnknownField field).length

def narrow (bound : Nat) {X : Type} (ofNat : Nat → X) : Reader UInt8 X :=
  andThen readVarint (fun value => if value < bound then give (ofNat value) else refuse)

theorem narrow_delimited (bound : Nat) {X : Type} (ofNat : Nat → X) : SelfDelimiting (narrow bound ofNat) := by
  refine selfDelimiting_readVarint.andThen _ _ ?_
  intro value
  split
  next => exact selfDelimiting_give _
  next => exact selfDelimiting_refuse

theorem narrow_varint (bound : Nat) {X : Type} (ofNat : Nat → X) (value : Nat) (small : value < bound)
    (rest : List UInt8) : narrow bound ofNat (varint value ++ rest) = some (ofNat value,rest) := by
  rw [narrow,andThen_of_read _ _ _ _ _ (readVarint_varint value rest),if_pos small]
  rfl

/-- The wire format as it is documented, for fields without groups. -/
def plainRuntime : Runtime where
  UnknownField := Field
  tagOf := Field.tag
  readTag := narrow (2 ^ 32) UInt32.ofNat
  readVarint32 := narrow (2 ^ 64) UInt32.ofNat
  readVarint64 := narrow (2 ^ 64) UInt64.ofNat
  readLengthDelimited := readBlock
  unknownFieldParse := readField
  verifyUTF8 bytes := (ByteArray.mk bytes.toArray).validateUTF8
  writeUInt32ToArray number value := varint (8 * number) ++ varint value.toNat
  writeEnumToArray number value := varint (8 * number) ++ varint (enumVarint value).toNat
  writeStringMaybeAliased number bytes := varint (8 * number + 2) ++ block bytes
  writeMessageHeader number size := varint (8 * number + 2) ++ varint size
  serializeUnknownField field := varint field.tag.toNat ++ field.value.encode
  uint32SizePlusOne value := 1 + (varint value.toNat).length
  enumSize value := (varint (enumVarint value).toNat).length
  lengthDelimitedSize size := (varint size).length + size
  unknownFieldSize field := (varint field.tag.toNat ++ field.value.encode).length
  tag_advances := by
    refine advances_readVarint.andThen _ _ ?_
    intro value
    split
    next => exact selfDelimiting_give _
    next => exact selfDelimiting_refuse
  tag_delimited := narrow_delimited _ _
  varint32_delimited := narrow_delimited _ _
  varint64_delimited := narrow_delimited _ _
  block_delimited := selfDelimiting_readBlock
  unknown_delimited := selfDelimiting_readField
  unknown_tag tag input field rest done := readField_tag tag input rest field done
  reads_tag tag rest := by
    rw [narrow_varint _ _ _ tag.toNat_lt,UInt32.ofNat_toNat]
  reads_varint32 value rest := by
    have small : value.toNat < 2 ^ 64 := Nat.lt_trans value.toNat_lt (by decide)
    rw [narrow_varint _ _ _ small,UInt32.ofNat_toNat]
  reads_varint64 value rest := by
    rw [narrow_varint _ _ _ value.toNat_lt,UInt64.ofNat_toNat]
  reads_block bytes rest _ := readBlock_block bytes rest
  reads_unknown field rest _ := by
    refine ⟨field.value.encode ++ rest,?_,readField_encode field rest⟩
    rw [List.append_assoc,narrow_varint _ _ _ field.tag.toNat_lt,UInt32.ofNat_toNat]
  accepts_text text := by
    rw [ByteArray.validateUTF8_eq_true_iff]
    simpa using text.isValidUTF8
  writes_uint32 number value := rfl
  writes_enum number value := rfl
  writes_string number bytes := rfl
  writes_header number size := rfl
  measures_uint32 value := rfl
  measures_enum value := rfl
  measures_block size := rfl
  measures_unknown field := rfl

variable (runtime : Runtime)

/-- The message as the generated class holds it, with its strings as bytes. -/
structure ServiceInfo where
  serviceId : UInt32 := 0
  instanceId : UInt32 := 0
  hostId : List UInt8 := []
  processId : List UInt8 := []
  unknownFields : List runtime.UnknownField := []

structure ServiceDiscovery where
  operation : Int32 := 0
  serviceInfo : Option (ServiceInfo runtime) := none
  unknownFields : List runtime.UnknownField := []

inductive InfoField
  | serviceId
  | instanceId
  | hostId
  | processId
deriving DecidableEq,Repr

inductive DiscoveryField
  | operation
  | serviceInfo
deriving DecidableEq,Repr

/-- The case of the switch that a tag takes, none where it is unusual. -/
def infoField (tag : UInt32) : Option InfoField :=
  if tag >>> 3 = 1 then if tag.toUInt8 = 8 then some .serviceId else none
  else if tag >>> 3 = 2 then if tag.toUInt8 = 16 then some .instanceId else none
  else if tag >>> 3 = 4 then if tag.toUInt8 = 34 then some .hostId else none
  else if tag >>> 3 = 5 then if tag.toUInt8 = 42 then some .processId else none
  else none

def discoveryField (tag : UInt32) : Option DiscoveryField :=
  if tag >>> 3 = 1 then if tag.toUInt8 = 8 then some .operation else none
  else if tag >>> 3 = 2 then if tag.toUInt8 = 18 then some .serviceInfo else none
  else none

/-- The tag ends the message it stands in; then the caller finds that the limit was not reached. -/
def endsMessage (tag : UInt32) : Bool := tag = 0 || tag &&& 7 = 4

def handleUnusual (tag : UInt32) : Reader UInt8 runtime.UnknownField :=
  if endsMessage tag then refuse else runtime.unknownFieldParse tag

def readText : Reader UInt8 (List UInt8) :=
  andThen runtime.readLengthDelimited (fun bytes => if runtime.verifyUTF8 bytes then give bytes else refuse)


namespace ServiceInfo
variable {runtime}

def parseField (info : ServiceInfo runtime) (tag : UInt32) : Reader UInt8 (ServiceInfo runtime) :=
  match infoField tag with
  | some .serviceId => andThen runtime.readVarint32 (fun value => give {info with serviceId := value})
  | some .instanceId => andThen runtime.readVarint32 (fun value => give {info with instanceId := value})
  | some .hostId => andThen (readText runtime) (fun text => give {info with hostId := text})
  | some .processId => andThen (readText runtime) (fun text => give {info with processId := text})
  | none => andThen (handleUnusual runtime tag) (fun field =>
      give {info with unknownFields := info.unknownFields ++ [field]})

/-- One turn of the parse loop. -/
def turn (info : ServiceInfo runtime) : Reader UInt8 (ServiceInfo runtime) :=
  andThen runtime.readTag info.parseField

def internalParse (info : ServiceInfo runtime) (input : List UInt8) : Option (ServiceInfo runtime) :=
  run turn info input

def internalSerialize (info : ServiceInfo runtime) : List UInt8 :=
  (if info.serviceId ≠ 0 then runtime.writeUInt32ToArray 1 info.serviceId else []) ++
  ((if info.instanceId ≠ 0 then runtime.writeUInt32ToArray 2 info.instanceId else []) ++
  ((if info.hostId ≠ [] then runtime.writeStringMaybeAliased 4 info.hostId else []) ++
  ((if info.processId ≠ [] then runtime.writeStringMaybeAliased 5 info.processId else []) ++
  info.unknownFields.flatMap runtime.serializeUnknownField)))

def byteSizeLong (info : ServiceInfo runtime) : Nat :=
  (if info.hostId ≠ [] then 1 + runtime.lengthDelimitedSize info.hostId.length else 0) +
  (if info.processId ≠ [] then 1 + runtime.lengthDelimitedSize info.processId.length else 0) +
  (if info.serviceId ≠ 0 then runtime.uint32SizePlusOne info.serviceId else 0) +
  (if info.instanceId ≠ 0 then runtime.uint32SizePlusOne info.instanceId else 0) +
  (info.unknownFields.map runtime.unknownFieldSize).sum

def mergeFrom (info other : ServiceInfo runtime) : ServiceInfo runtime where
  hostId := if other.hostId ≠ [] then other.hostId else info.hostId
  processId := if other.processId ≠ [] then other.processId else info.processId
  serviceId := if other.serviceId ≠ 0 then other.serviceId else info.serviceId
  instanceId := if other.instanceId ≠ 0 then other.instanceId else info.instanceId
  unknownFields := info.unknownFields ++ other.unknownFields

end ServiceInfo

namespace ServiceDiscovery
variable {runtime}

def mutableServiceInfo (discovery : ServiceDiscovery runtime) : ServiceInfo runtime :=
  discovery.serviceInfo.getD {}

def parseField (discovery : ServiceDiscovery runtime) (tag : UInt32) :
    Reader UInt8 (ServiceDiscovery runtime) :=
  match discoveryField tag with
  | some .operation => andThen runtime.readVarint64 (fun value =>
      give {discovery with operation := enumOfVarint value})
  | some .serviceInfo => andThen runtime.readLengthDelimited (fun bytes =>
      match discovery.mutableServiceInfo.internalParse bytes with
      | some info => give {discovery with serviceInfo := some info}
      | none => refuse)
  | none => andThen (handleUnusual runtime tag) (fun field =>
      give {discovery with unknownFields := discovery.unknownFields ++ [field]})

def turn (discovery : ServiceDiscovery runtime) : Reader UInt8 (ServiceDiscovery runtime) :=
  andThen runtime.readTag discovery.parseField

def internalParse (discovery : ServiceDiscovery runtime) (input : List UInt8) :
    Option (ServiceDiscovery runtime) := run turn discovery input

/-- The message is cleared first. The code gives the length as an int, so an array that it
passes is shorter than 2 ^ 31. -/
def parseFromArray (input : List UInt8) : Option (ServiceDiscovery runtime) :=
  internalParse {} input

def internalSerialize (discovery : ServiceDiscovery runtime) : List UInt8 :=
  (if discovery.operation ≠ 0 then runtime.writeEnumToArray 1 discovery.operation else []) ++
  ((match discovery.serviceInfo with
    | some info => runtime.writeMessageHeader 2 info.byteSizeLong ++ info.internalSerialize
    | none => []) ++
  discovery.unknownFields.flatMap runtime.serializeUnknownField)

def byteSizeLong (discovery : ServiceDiscovery runtime) : Nat :=
  (match discovery.serviceInfo with
    | some info => 1 + runtime.lengthDelimitedSize info.byteSizeLong
    | none => 0) +
  (if discovery.operation ≠ 0 then 1 + runtime.enumSize discovery.operation else 0) +
  (discovery.unknownFields.map runtime.unknownFieldSize).sum

def mergeFrom (discovery other : ServiceDiscovery runtime) : ServiceDiscovery runtime where
  serviceInfo := match other.serviceInfo with
    | some info => some (discovery.mutableServiceInfo.mergeFrom info)
    | none => discovery.serviceInfo
  operation := if other.operation ≠ 0 then other.operation else discovery.operation
  unknownFields := discovery.unknownFields ++ other.unknownFields

end ServiceDiscovery

/-- The field is none of the message, and its tag does not end the message. -/
def Unusual {F : Type} (fieldOf : UInt32 → Option F) (field : runtime.UnknownField) : Prop :=
  fieldOf (runtime.tagOf field) = none ∧ endsMessage (runtime.tagOf field) = false

/-- A string that is written can be verified, and what is kept as unknown is unknown. -/
structure ServiceInfo.WellFormed {runtime : Runtime} (info : ServiceInfo runtime) : Prop where
  host : info.hostId = [] ∨ runtime.verifyUTF8 info.hostId = true
  process : info.processId = [] ∨ runtime.verifyUTF8 info.processId = true
  unknown : ∀ field ∈ info.unknownFields, Unusual runtime infoField field

structure ServiceDiscovery.WellFormed {runtime : Runtime} (discovery : ServiceDiscovery runtime) : Prop where
  info : ∀ info, discovery.serviceInfo = some info → info.WellFormed
  unknown : ∀ field ∈ discovery.unknownFields, Unusual runtime discoveryField field

theorem overwrites_default {V : Type} [DecidableEq V] (value default : V) :
    (if value ≠ default then value else default) = value := by
  split
  next => rfl
  next same => exact (not_not.mp same).symm

section Readers
variable {runtime}

theorem handleUnusual_delimited (tag : UInt32) : SelfDelimiting (handleUnusual runtime tag) := by
  unfold handleUnusual
  split
  next => exact selfDelimiting_refuse
  next => exact runtime.unknown_delimited tag

theorem handleUnusual_unusual {F : Type} (fieldOf : UInt32 → Option F) (tag : UInt32)
    (field : runtime.UnknownField) (input rest : List UInt8) (unknown : fieldOf tag = none)
    (done : handleUnusual runtime tag input = some (field,rest)) : Unusual runtime fieldOf field := by
  unfold handleUnusual at done
  split at done
  next => cases done
  next goes_on =>
    have same := runtime.unknown_tag tag input field rest done
    unfold Unusual
    rw [same]
    exact ⟨unknown,eq_false_of_ne_true goes_on⟩

theorem readText_delimited : SelfDelimiting (readText runtime) := by
  refine runtime.block_delimited.andThen _ _ ?_
  intro bytes
  split
  next => exact selfDelimiting_give bytes
  next => exact selfDelimiting_refuse

theorem readText_verified (input text rest : List UInt8) (done : readText runtime input = some (text,rest)) :
    runtime.verifyUTF8 text = true := by
  obtain ⟨bytes,middle,_,given⟩ := (andThen_eq_some _ _ _ _ _).mp done
  split at given
  next verified =>
    cases given
    exact verified
  next => cases given

theorem readText_block (text rest : List UInt8) (verified : runtime.verifyUTF8 text = true)
    (small : text.length + 16 < 2 ^ 31) : readText runtime (block text ++ rest) = some (text,rest) := by
  rw [readText,andThen_of_read _ _ _ _ _ (runtime.reads_block text rest small),if_pos verified]
  rfl

theorem readTag_written (number kind : Nat) (small : 8 * number + kind < 2 ^ 32) (rest : List UInt8) :
    runtime.readTag (varint (8 * number + kind) ++ rest) = some (UInt32.ofNat (8 * number + kind),rest) := by
  have same : (UInt32.ofNat (8 * number + kind)).toNat = 8 * number + kind := UInt32.toNat_ofNat_of_lt' small
  have read := runtime.reads_tag (UInt32.ofNat (8 * number + kind)) rest
  rw [same] at read
  exact read

theorem unknownFields_length (fields : List runtime.UnknownField) :
    (fields.flatMap runtime.serializeUnknownField).length = (fields.map runtime.unknownFieldSize).sum := by
  rw [List.length_flatMap]
  congr 1
  apply List.map_congr_left
  intro field _
  exact (runtime.measures_unknown field).symm

end Readers

namespace ServiceInfo
variable {runtime}

theorem parseField_delimited (info : ServiceInfo runtime) (tag : UInt32) :
    SelfDelimiting (info.parseField tag) := by
  unfold parseField
  split
  next => exact runtime.varint32_delimited.andThen _ _ (fun value => selfDelimiting_give _)
  next => exact runtime.varint32_delimited.andThen _ _ (fun value => selfDelimiting_give _)
  next => exact readText_delimited.andThen _ _ (fun text => selfDelimiting_give _)
  next => exact readText_delimited.andThen _ _ (fun text => selfDelimiting_give _)
  next => exact (handleUnusual_delimited tag).andThen _ _ (fun field => selfDelimiting_give _)

theorem turn_advances (info : ServiceInfo runtime) : Advances info.turn :=
  runtime.tag_advances.andThen _ _ info.parseField_delimited

theorem turn_delimited (info : ServiceInfo runtime) : SelfDelimiting info.turn :=
  runtime.tag_delimited.andThen _ _ info.parseField_delimited

theorem internalParse_field (info next : ServiceInfo runtime) (tag : UInt32) (input body rest : List UInt8)
    (tagged : runtime.readTag input = some (tag,body)) (parsed : info.parseField tag body = some (next,rest)) :
    info.internalParse input = next.internalParse rest := by
  apply run_of_step turn_advances info next input rest
  rw [turn,andThen_of_read _ _ _ _ _ tagged]
  exact parsed

theorem internalParse_uint32 (info next : ServiceInfo runtime) (number : Nat) (value : UInt32) (rest : List UInt8)
    (small : 8 * number < 2 ^ 32)
    (parsed : ∀ body, runtime.readVarint32 body = some (value,rest) →
      info.parseField (UInt32.ofNat (8 * number)) body = some (next,rest)) :
    info.internalParse (runtime.writeUInt32ToArray number value ++ rest) = next.internalParse rest := by
  rw [runtime.writes_uint32,List.append_assoc]
  exact internalParse_field info next _ _ _ rest (readTag_written number 0 small _)
    (parsed _ (runtime.reads_varint32 value rest))

theorem internalParse_text (info next : ServiceInfo runtime) (number : Nat) (text rest : List UInt8)
    (small : 8 * number + 2 < 2 ^ 32) (short : text.length + 16 < 2 ^ 31)
    (verified : runtime.verifyUTF8 text = true)
    (parsed : ∀ body, readText runtime body = some (text,rest) →
      info.parseField (UInt32.ofNat (8 * number + 2)) body = some (next,rest)) :
    info.internalParse (runtime.writeStringMaybeAliased number text ++ rest) = next.internalParse rest := by
  rw [runtime.writes_string,List.append_assoc]
  exact internalParse_field info next _ _ _ rest (readTag_written number 2 small _)
    (parsed _ (readText_block text rest verified short))

theorem internalParse_unknown (info : ServiceInfo runtime) (fields : List runtime.UnknownField)
    (rest : List UInt8) (unusual : ∀ field ∈ fields, Unusual runtime infoField field)
    (short : (fields.map runtime.unknownFieldSize).sum + 16 < 2 ^ 31) :
    info.internalParse (fields.flatMap runtime.serializeUnknownField ++ rest) =
      ({info with unknownFields := info.unknownFields ++ fields}).internalParse rest := by
  induction fields generalizing info with
  | nil => simp
  | cons field fields ih =>
    obtain ⟨unknown,goes_on⟩ := unusual field (by simp)
    simp only [List.map_cons,List.sum_cons,runtime.measures_unknown] at short
    obtain ⟨body,tagged,read⟩ := runtime.reads_unknown field
      (fields.flatMap runtime.serializeUnknownField ++ rest) (by omega)
    have parsed : info.parseField (runtime.tagOf field) body =
        some ({info with unknownFields := info.unknownFields ++ [field]},
          fields.flatMap runtime.serializeUnknownField ++ rest) := by
      simp only [parseField,unknown,handleUnusual,goes_on]
      exact andThen_of_read _ _ _ _ _ read
    rw [List.flatMap_cons,List.append_assoc,internalParse_field info _ _ _ body _ tagged parsed,
      ih _ (fun other member => unusual other (by simp [member])) (by omega)]
    simp

theorem text_length_le (text : List UInt8) :
    text.length ≤ if text ≠ [] then 1 + runtime.lengthDelimitedSize text.length else 0 := by
  split
  next =>
    rw [runtime.measures_block]
    omega
  next empty => simp [not_not.mp empty]

/-- A field is left as it is where it was not written. -/
theorem parses_uint32 (number : Nat) (get : ServiceInfo runtime → UInt32)
    (set : ServiceInfo runtime → UInt32 → ServiceInfo runtime) (small : 8 * number < 2 ^ 32)
    (unchanged : ∀ info, set info (get info) = info)
    (field : ∀ info : ServiceInfo runtime, info.parseField (UInt32.ofNat (8 * number)) =
      andThen runtime.readVarint32 (fun value => give (set info value)))
    (info : ServiceInfo runtime) (value : UInt32) (rest : List UInt8) :
    info.internalParse ((if value ≠ 0 then runtime.writeUInt32ToArray number value else []) ++ rest) =
      (set info (if value ≠ 0 then value else get info)).internalParse rest := by
  split
  next =>
    apply internalParse_uint32 info _ number value rest small
    intro body read
    rw [field]
    exact andThen_of_read _ _ _ _ _ read
  next => rw [unchanged,List.nil_append]

theorem parses_text (number : Nat) (get : ServiceInfo runtime → List UInt8)
    (set : ServiceInfo runtime → List UInt8 → ServiceInfo runtime) (small : 8 * number + 2 < 2 ^ 32)
    (unchanged : ∀ info, set info (get info) = info)
    (field : ∀ info : ServiceInfo runtime, info.parseField (UInt32.ofNat (8 * number + 2)) =
      andThen (readText runtime) (fun text => give (set info text)))
    (info : ServiceInfo runtime) (text rest : List UInt8) (short : text.length + 16 < 2 ^ 31)
    (verified : text = [] ∨ runtime.verifyUTF8 text = true) :
    info.internalParse ((if text ≠ [] then runtime.writeStringMaybeAliased number text else []) ++ rest) =
      (set info (if text ≠ [] then text else get info)).internalParse rest := by
  split
  next written =>
    apply internalParse_text info _ number text rest small short (verified.resolve_left written)
    intro body read
    rw [field]
    exact andThen_of_read _ _ _ _ _ read
  next => rw [unchanged,List.nil_append]

/-- Parsing what was written for a message does to a message what merging it does. -/
theorem internalParse_serialize (info other : ServiceInfo runtime) (rest : List UInt8)
    (formed : other.WellFormed) (short : other.byteSizeLong + 16 < 2 ^ 31) :
    info.internalParse (other.internalSerialize ++ rest) = (info.mergeFrom other).internalParse rest := by
  have host := @text_length_le runtime other.hostId
  have process := @text_length_le runtime other.processId
  unfold byteSizeLong at short
  rw [internalSerialize,List.append_assoc,
    parses_uint32 1 serviceId (fun info value => {info with serviceId := value}) (by decide)
      (fun _ => rfl) (fun _ => rfl),List.append_assoc,
    parses_uint32 2 instanceId (fun info value => {info with instanceId := value}) (by decide)
      (fun _ => rfl) (fun _ => rfl),List.append_assoc,
    parses_text 4 hostId (fun info text => {info with hostId := text}) (by decide)
      (fun _ => rfl) (fun _ => rfl) _ _ _ (by omega) formed.host,List.append_assoc,
    parses_text 5 processId (fun info text => {info with processId := text}) (by decide)
      (fun _ => rfl) (fun _ => rfl) _ _ _ (by omega) formed.process,
    internalParse_unknown _ _ _ formed.unknown (by omega)]
  rfl

theorem internalSerialize_length (info : ServiceInfo runtime) :
    info.internalSerialize.length = info.byteSizeLong := by
  have number (field : Nat) (value : UInt32) (small : field < 16) :
      (if value ≠ 0 then runtime.writeUInt32ToArray field value else []).length =
        if value ≠ 0 then runtime.uint32SizePlusOne value else 0 := by
    split
    next => rw [runtime.writes_uint32,runtime.measures_uint32,List.length_append,varint_small _ (by omega)]; rfl
    next => rfl
  have text (field : Nat) (bytes : List UInt8) (small : field < 15) :
      (if bytes ≠ [] then runtime.writeStringMaybeAliased field bytes else []).length =
        if bytes ≠ [] then 1 + runtime.lengthDelimitedSize bytes.length else 0 := by
    split
    next =>
      rw [runtime.writes_string,runtime.measures_block,List.length_append,varint_small _ (by omega),block,
        List.length_append]
      rfl
    next => rfl
  rw [internalSerialize,byteSizeLong,List.length_append,List.length_append,List.length_append,List.length_append,
    number 1 _ (by decide),number 2 _ (by decide),text 4 _ (by decide),text 5 _ (by decide),
    unknownFields_length]
  omega

/-- What was parsed can be written and parsed again. -/
theorem internalParse_wellFormed (info parsed : ServiceInfo runtime) (input : List UInt8)
    (start : info.WellFormed) (done : info.internalParse input = some parsed) : parsed.WellFormed := by
  refine run_invariant turn_advances WellFormed ?_ info parsed input done start
  intro state input next rest taken formed
  obtain ⟨tag,middle,_,field⟩ := (andThen_eq_some _ _ _ _ _).mp taken
  cases known : infoField tag with
  | none =>
    simp only [parseField,known] at field
    obtain ⟨unknown,_,read,given⟩ := (andThen_eq_some _ _ _ _ _).mp field
    cases given
    refine ⟨formed.host,formed.process,?_⟩
    intro other member
    rcases List.mem_append.mp member with old | new
    · exact formed.unknown other old
    · cases List.mem_singleton.mp new
      exact handleUnusual_unusual infoField tag unknown _ _ known read
  | some kind =>
    cases kind with
    | serviceId =>
      simp only [parseField,known] at field
      obtain ⟨value,_,_,given⟩ := (andThen_eq_some _ _ _ _ _).mp field
      cases given
      exact ⟨formed.host,formed.process,formed.unknown⟩
    | instanceId =>
      simp only [parseField,known] at field
      obtain ⟨value,_,_,given⟩ := (andThen_eq_some _ _ _ _ _).mp field
      cases given
      exact ⟨formed.host,formed.process,formed.unknown⟩
    | hostId =>
      simp only [parseField,known] at field
      obtain ⟨text,_,read,given⟩ := (andThen_eq_some _ _ _ _ _).mp field
      cases given
      exact ⟨.inr (readText_verified _ _ _ read),formed.process,formed.unknown⟩
    | processId =>
      simp only [parseField,known] at field
      obtain ⟨text,_,read,given⟩ := (andThen_eq_some _ _ _ _ _).mp field
      cases given
      exact ⟨formed.host,.inr (readText_verified _ _ _ read),formed.unknown⟩

theorem empty_wellFormed : ({} : ServiceInfo runtime).WellFormed := by
  refine ⟨.inl rfl,.inl rfl,?_⟩
  intro field member
  cases member

end ServiceInfo

namespace ServiceDiscovery
variable {runtime}

theorem parseField_delimited (discovery : ServiceDiscovery runtime) (tag : UInt32) :
    SelfDelimiting (discovery.parseField tag) := by
  unfold parseField
  split
  next => exact runtime.varint64_delimited.andThen _ _ (fun value => selfDelimiting_give _)
  next =>
    refine runtime.block_delimited.andThen _ _ ?_
    intro bytes
    split
    next => exact selfDelimiting_give _
    next => exact selfDelimiting_refuse
  next => exact (handleUnusual_delimited tag).andThen _ _ (fun field => selfDelimiting_give _)

theorem turn_advances (discovery : ServiceDiscovery runtime) : Advances discovery.turn :=
  runtime.tag_advances.andThen _ _ discovery.parseField_delimited

theorem turn_delimited (discovery : ServiceDiscovery runtime) : SelfDelimiting discovery.turn :=
  runtime.tag_delimited.andThen _ _ discovery.parseField_delimited

theorem internalParse_field (discovery next : ServiceDiscovery runtime) (tag : UInt32)
    (input body rest : List UInt8) (tagged : runtime.readTag input = some (tag,body))
    (parsed : discovery.parseField tag body = some (next,rest)) :
    discovery.internalParse input = next.internalParse rest := by
  apply run_of_step turn_advances discovery next input rest
  rw [turn,andThen_of_read _ _ _ _ _ tagged]
  exact parsed

theorem internalParse_unknown (discovery : ServiceDiscovery runtime) (fields : List runtime.UnknownField)
    (rest : List UInt8) (unusual : ∀ field ∈ fields, Unusual runtime discoveryField field)
    (short : (fields.map runtime.unknownFieldSize).sum + 16 < 2 ^ 31) :
    discovery.internalParse (fields.flatMap runtime.serializeUnknownField ++ rest) =
      ({discovery with unknownFields := discovery.unknownFields ++ fields}).internalParse rest := by
  induction fields generalizing discovery with
  | nil => simp
  | cons field fields ih =>
    obtain ⟨unknown,goes_on⟩ := unusual field (by simp)
    simp only [List.map_cons,List.sum_cons,runtime.measures_unknown] at short
    obtain ⟨body,tagged,read⟩ := runtime.reads_unknown field
      (fields.flatMap runtime.serializeUnknownField ++ rest) (by omega)
    have parsed : discovery.parseField (runtime.tagOf field) body =
        some ({discovery with unknownFields := discovery.unknownFields ++ [field]},
          fields.flatMap runtime.serializeUnknownField ++ rest) := by
      simp only [parseField,unknown,handleUnusual,goes_on]
      exact andThen_of_read _ _ _ _ _ read
    rw [List.flatMap_cons,List.append_assoc,internalParse_field discovery _ _ _ body _ tagged parsed,
      ih _ (fun other member => unusual other (by simp [member])) (by omega)]
    simp

theorem parses_operation (discovery : ServiceDiscovery runtime) (value : Int32) (rest : List UInt8) :
    discovery.internalParse ((if value ≠ 0 then runtime.writeEnumToArray 1 value else []) ++ rest) =
      ({discovery with
        operation := if value ≠ 0 then value else discovery.operation}).internalParse rest := by
  split
  next =>
    rw [runtime.writes_enum,List.append_assoc]
    refine internalParse_field discovery _ _ _ _ rest (readTag_written 1 0 (by decide) _) ?_
    have known : discoveryField (UInt32.ofNat (8 * 1 + 0)) = some .operation := by decide
    simp only [parseField,known]
    rw [andThen_of_read _ _ _ _ _ (runtime.reads_varint64 _ _),enumOfVarint_enumVarint]
    rfl
  next => rfl

theorem parses_serviceInfo (discovery : ServiceDiscovery runtime) (info : ServiceInfo runtime) (rest : List UInt8)
    (formed : info.WellFormed) (short : info.byteSizeLong + 16 < 2 ^ 31) :
    discovery.internalParse (runtime.writeMessageHeader 2 info.byteSizeLong ++ info.internalSerialize ++ rest) =
      ({discovery with
        serviceInfo := some (discovery.mutableServiceInfo.mergeFrom info)}).internalParse rest := by
  have merged := ServiceInfo.internalParse_serialize discovery.mutableServiceInfo info [] formed short
  rw [List.append_nil,ServiceInfo.internalParse,ServiceInfo.internalParse,run_nil] at merged
  have size := info.internalSerialize_length
  have framed : runtime.writeMessageHeader 2 info.byteSizeLong ++ info.internalSerialize ++ rest =
      varint (8 * 2 + 2) ++ (block info.internalSerialize ++ rest) := by
    rw [runtime.writes_header,block,size]
    simp only [List.append_assoc]
  rw [framed]
  refine internalParse_field discovery _ _ _ _ rest (readTag_written 2 2 (by decide) _) ?_
  have known : discoveryField (UInt32.ofNat (8 * 2 + 2)) = some .serviceInfo := by decide
  simp only [parseField,known]
  rw [andThen_of_read _ _ _ _ _ (runtime.reads_block _ _ (by omega)),ServiceInfo.internalParse,merged]
  rfl

theorem internalParse_serialize (discovery other : ServiceDiscovery runtime) (rest : List UInt8)
    (formed : other.WellFormed) (short : other.byteSizeLong + 16 < 2 ^ 31) :
    discovery.internalParse (other.internalSerialize ++ rest) =
      (discovery.mergeFrom other).internalParse rest := by
  unfold byteSizeLong at short
  rw [internalSerialize,List.append_assoc,parses_operation,List.append_assoc]
  cases held : other.serviceInfo with
  | none =>
    simp only [List.nil_append]
    rw [internalParse_unknown _ _ _ formed.unknown (by omega)]
    simp only [mergeFrom,held]
  | some info =>
    simp only [held,runtime.measures_block] at short
    simp only
    rw [parses_serviceInfo _ info _ (formed.info info held) (by omega),
      internalParse_unknown _ _ _ formed.unknown (by omega)]
    simp only [mergeFrom,held,mutableServiceInfo]

theorem internalSerialize_length (discovery : ServiceDiscovery runtime) :
    discovery.internalSerialize.length = discovery.byteSizeLong := by
  have operation : (if discovery.operation ≠ 0 then runtime.writeEnumToArray 1 discovery.operation else []).length =
      if discovery.operation ≠ 0 then 1 + runtime.enumSize discovery.operation else 0 := by
    split
    next => rw [runtime.writes_enum,runtime.measures_enum,List.length_append,varint_small _ (by decide)]; rfl
    next => rfl
  rw [internalSerialize,byteSizeLong,List.length_append,List.length_append,operation,unknownFields_length]
  cases discovery.serviceInfo with
  | none =>
    simp only [List.length_nil]
    omega
  | some info =>
    simp only [List.length_append]
    rw [runtime.writes_header,runtime.measures_block,List.length_append,varint_small _ (by decide),
      info.internalSerialize_length,List.length_singleton]
    omega

theorem internalParse_wellFormed (discovery parsed : ServiceDiscovery runtime) (input : List UInt8)
    (start : discovery.WellFormed) (done : discovery.internalParse input = some parsed) :
    parsed.WellFormed := by
  refine run_invariant turn_advances WellFormed ?_ discovery parsed input done start
  intro state input next rest taken formed
  obtain ⟨tag,middle,_,field⟩ := (andThen_eq_some _ _ _ _ _).mp taken
  cases known : discoveryField tag with
  | none =>
    simp only [parseField,known] at field
    obtain ⟨unknown,_,read,given⟩ := (andThen_eq_some _ _ _ _ _).mp field
    cases given
    refine ⟨formed.info,?_⟩
    intro other member
    rcases List.mem_append.mp member with old | new
    · exact formed.unknown other old
    · cases List.mem_singleton.mp new
      exact handleUnusual_unusual discoveryField tag unknown _ _ known read
  | some kind =>
    cases kind with
    | operation =>
      simp only [parseField,known] at field
      obtain ⟨value,_,_,given⟩ := (andThen_eq_some _ _ _ _ _).mp field
      cases given
      exact ⟨formed.info,formed.unknown⟩
    | serviceInfo =>
      simp only [parseField,known] at field
      obtain ⟨bytes,_,_,given⟩ := (andThen_eq_some _ _ _ _ _).mp field
      have before : state.mutableServiceInfo.WellFormed := by
        cases held : state.serviceInfo with
        | none =>
          rw [mutableServiceInfo,held]
          exact ServiceInfo.empty_wellFormed
        | some info =>
          rw [mutableServiceInfo,held]
          exact formed.info info held
      cases nested : state.mutableServiceInfo.internalParse bytes with
      | none =>
        rw [nested] at given
        cases given
      | some info =>
        rw [nested] at given
        cases given
        refine ⟨?_,formed.unknown⟩
        intro other same
        cases same
        exact ServiceInfo.internalParse_wellFormed _ _ bytes before nested

theorem empty_wellFormed : ({} : ServiceDiscovery runtime).WellFormed := by
  refine ⟨?_,?_⟩
  · intro info held
    cases held
  · intro field member
    cases member

theorem mergeFrom_empty (other : ServiceDiscovery runtime) :
    ({} : ServiceDiscovery runtime).mergeFrom other = other := by
  obtain ⟨operation,held,unknown⟩ := other
  cases held with
  | none => simp only [mergeFrom,overwrites_default,List.nil_append]
  | some info => simp only [mergeFrom,overwrites_default,List.nil_append,mutableServiceInfo,Option.getD_none,
      ServiceInfo.mergeFrom]

/-- What was accepted, followed by what was written for any number of messages, is accepted as
the merge of them all in their order, as long as the whole is short enough to be parsed. -/
theorem parseFromArray_append (input : List UInt8) (accepted : ServiceDiscovery runtime)
    (messages : List (ServiceDiscovery runtime)) (parsed : parseFromArray input = some accepted)
    (formed : ∀ message ∈ messages, message.WellFormed)
    (short : (input ++ messages.flatMap internalSerialize).length + 16 < 2 ^ 31) :
    parseFromArray (input ++ messages.flatMap internalSerialize) = some (messages.foldl mergeFrom accepted) := by
  have merges (state : ServiceDiscovery runtime)
      (small : (messages.flatMap internalSerialize).length + 16 < 2 ^ 31) :
      state.internalParse (messages.flatMap internalSerialize) = some (messages.foldl mergeFrom state) := by
    clear short
    induction messages generalizing state with
    | nil => rfl
    | cons message messages ih =>
      rw [List.flatMap_cons,List.length_append,internalSerialize_length] at small
      rw [List.flatMap_cons,List.foldl_cons,internalParse_serialize _ message _ (formed message (by simp))
        (by omega)]
      exact ih (fun other member => formed other (by simp [member])) _ (by omega)
  rw [List.length_append] at short
  rw [parseFromArray,internalParse,run_append turn_advances turn_delimited _ accepted _ _ parsed]
  exact merges accepted (by omega)

theorem parseFromArray_serialize (message : ServiceDiscovery runtime)
    (short : message.byteSizeLong + 16 < 2 ^ 31) (formed : message.WellFormed) :
    parseFromArray message.internalSerialize = some message := by
  have merged := internalParse_serialize {} message [] formed short
  rw [List.append_nil,mergeFrom_empty] at merged
  exact merged

/-- A stop with a field that a later version might add. -/
def stopOffer : ServiceDiscovery plainRuntime where
  operation := 1
  serviceInfo := some {serviceId := 10,instanceId := 300,hostId := [49,47],processId := [49,48,48]}
  unknownFields := [⟨3,.varint 300,by decide,by decide⟩]

theorem stopOffer_wellFormed : stopOffer.WellFormed := by
  refine ⟨?_,?_⟩
  · intro info held
    cases held
    refine ⟨.inr (by decide),.inr (by decide),?_⟩
    intro field member
    cases member
  · intro field member
    cases List.mem_singleton.mp member
    exact ⟨by decide,by decide⟩

theorem stopOffer_after_find :
    @parseFromArray plainRuntime ([8,2,18,2,8,20] ++ [stopOffer].flatMap internalSerialize) =
      some ([stopOffer].foldl mergeFrom {operation := 2,serviceInfo := some {serviceId := 20}}) := by
  refine parseFromArray_append [8,2,18,2,8,20] _ [stopOffer] rfl ?_ (by decide)
  intro message member
  cases List.mem_singleton.mp member
  exact stopOffer_wellFormed

/-- A message is parsed from what was written for it exactly if it is well formed. -/
theorem parseFromArray_serialize_iff (message : ServiceDiscovery runtime)
    (short : message.byteSizeLong + 16 < 2 ^ 31) :
    message.internalSerialize.length = message.byteSizeLong ∧
      (parseFromArray message.internalSerialize = some message ↔ message.WellFormed) := by
  refine ⟨message.internalSerialize_length,?_,?_⟩
  · intro parsed
    exact internalParse_wellFormed {} message _ empty_wellFormed parsed
  · exact parseFromArray_serialize message short

theorem stopOffer_parsed :
    stopOffer.internalSerialize.length = 21 ∧ parseFromArray stopOffer.internalSerialize = some stopOffer :=
  have whole := parseFromArray_serialize_iff stopOffer (by decide)
  ⟨whole.1,whole.2.mpr stopOffer_wellFormed⟩

/-- Whatever bytes a message was parsed from, it is parsed again from what is written for it. -/
theorem parseFromArray_stable (input : List UInt8) (message : ServiceDiscovery runtime)
    (parsed : parseFromArray input = some message) (short : message.byteSizeLong + 16 < 2 ^ 31) :
    parseFromArray message.internalSerialize = some message :=
  (parseFromArray_serialize_iff message short).2.mpr
    (internalParse_wellFormed {} message input empty_wellFormed parsed)

/-- A value with a group too many, and an operation that no longer counts. -/
theorem parsed_loosely : ∃ message : ServiceDiscovery plainRuntime,
    parseFromArray [8,3,8,0x81,0,18,2,8,10,18,2,16,1] = some message ∧
      parseFromArray message.internalSerialize = some message :=
  ⟨_,rfl,parseFromArray_stable [8,3,8,0x81,0,18,2,8,10,18,2,16,1] _ rfl (by decide)⟩

end ServiceDiscovery
end Smw.DiscoveryEncoding
