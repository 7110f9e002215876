import Smw.Foundation.Bytes
import Smw.Foundation.Reading

/-! Records of tagged fields: integers in groups of seven bits, the low ones first, blocks
that follow their length, and fields that carry a number and the kind of their value. -/
namespace Foundation.WireFormat
open Reading

def groups : Nat → Nat → List UInt8
  | 0, value => [UInt8.ofNat value]
  | more + 1, value =>
    if value < 128 then [UInt8.ofNat value]
    else UInt8.ofNat (value % 128 + 128) :: groups more (value / 128)

/-- All groups but the last have their high bit set. -/
def varint (value : Nat) : List UInt8 := groups value value

def readVarint : Reader UInt8 Nat
  | [] => none
  | byte :: rest =>
    if byte.toNat < 128 then some (byte.toNat,rest)
    else (readVarint rest).map (fun (high,left) => (byte.toNat - 128 + 128 * high,left))

theorem groups_enough (more value : Nat) (enough : value ≤ more) : groups more value = varint value := by
  induction more using Nat.strongRecOn generalizing value with
  | ind more ih =>
    cases value with
    | zero =>
      cases more with
      | zero => rfl
      | succ more => rfl
    | succ value =>
      obtain ⟨turns,rfl⟩ : ∃ turns, more = turns + 1 := ⟨more - 1,by omega⟩
      rw [varint,groups,groups]
      split
      next => rfl
      next large =>
        rw [ih turns (by omega) _ (by omega),ih value (by omega) _ (by omega)]

theorem varint_small (value : Nat) (small : value < 128) : varint value = [UInt8.ofNat value] := by
  unfold varint
  cases value with
  | zero => rfl
  | succ value => rw [groups,if_pos small]

theorem varint_large (value : Nat) (large : 128 ≤ value) :
    varint value = UInt8.ofNat (value % 128 + 128) :: varint (value / 128) := by
  obtain ⟨turns,rfl⟩ : ∃ turns, value = turns + 1 := ⟨value - 1,by omega⟩
  rw [varint,groups,if_neg (by omega),groups_enough turns _ (by omega)]

theorem readVarint_varint (value : Nat) (rest : List UInt8) :
    readVarint (varint value ++ rest) = some (value,rest) := by
  induction value using Nat.strongRecOn with
  | ind value ih =>
    rcases Nat.lt_or_ge value 128 with small | large
    · have byte : (UInt8.ofNat value).toNat = value := UInt8.toNat_ofNat_of_lt' (by change value < 256; omega)
      rw [varint_small value small,List.singleton_append,readVarint,byte,if_pos small]
    · have byte : (UInt8.ofNat (value % 128 + 128)).toNat = value % 128 + 128 :=
        UInt8.toNat_ofNat_of_lt' (by change _ < 256; omega)
      have whole : value % 128 + 128 - 128 + 128 * (value / 128) = value := by omega
      rw [varint_large value large,List.cons_append,readVarint,byte,if_neg (by omega),ih (value / 128) (by omega)]
      simp only [Option.map_some,whole]

theorem varint_length_le (more value : Nat) (bounded : value < 128 ^ (more + 1)) :
    (varint value).length ≤ more + 1 := by
  induction more generalizing value with
  | zero => simp [varint_small value (by simpa using bounded)]
  | succ more ih =>
    rcases Nat.lt_or_ge value 128 with small | large
    · simp [varint_small value small]
    · have high : value / 128 < 128 ^ (more + 1) := by
        rw [Nat.pow_succ] at bounded
        exact Nat.div_lt_of_lt_mul (by rw [Nat.mul_comm]; exact bounded)
      have shorter := ih (value / 128) high
      rw [varint_large value large,List.length_cons]
      omega

theorem advances_readVarint : Advances readVarint := by
  intro input
  induction input with
  | nil =>
    intro value rest done
    cases done
  | cons byte tail ih =>
    intro value rest done
    rw [readVarint] at done
    split at done
    next =>
      cases done
      simp
    next =>
      obtain ⟨⟨high,left⟩,read,same⟩ := Option.map_eq_some_iff.mp done
      cases same
      have shorter := ih high rest read
      rw [List.length_cons]
      omega

theorem selfDelimiting_readVarint : SelfDelimiting readVarint := by
  intro input
  induction input with
  | nil =>
    intro value rest done
    cases done
  | cons byte tail ih =>
    intro value rest done
    rw [readVarint] at done
    split at done
    next last =>
      cases done
      refine ⟨[byte],rfl,?_⟩
      intro more
      rw [List.singleton_append,readVarint,if_pos last]
    next goes_on =>
      obtain ⟨⟨high,left⟩,read,same⟩ := Option.map_eq_some_iff.mp done
      cases same
      obtain ⟨consumed,split,reads⟩ := ih high rest read
      refine ⟨byte :: consumed,by rw [split,List.cons_append],?_⟩
      intro more
      rw [List.cons_append,readVarint,if_neg goes_on,reads more]
      rfl

/-- A block after its length. -/
def block (bytes : List UInt8) : List UInt8 := varint bytes.length ++ bytes

def readBlock : Reader UInt8 (List UInt8) := andThen readVarint exactly

theorem readBlock_block (bytes rest : List UInt8) : readBlock (block bytes ++ rest) = some (bytes,rest) := by
  rw [block,List.append_assoc,readBlock,andThen_of_read _ _ _ _ _ (readVarint_varint _ _)]
  exact exactly_append bytes rest

theorem selfDelimiting_readBlock : SelfDelimiting readBlock :=
  selfDelimiting_readVarint.andThen _ _ selfDelimiting_exactly

/-- The kinds of value that a field can carry; a pair of group marks is not one. -/
inductive Value
  | varint (value : UInt64)
  | fixed64 (value : UInt64)
  | block (bytes : List UInt8)
  | fixed32 (value : UInt32)
deriving DecidableEq,Repr

def Value.kind : Value → Nat
  | .varint _ => 0
  | .fixed64 _ => 1
  | .block _ => 2
  | .fixed32 _ => 5

def Value.encode : Value → List UInt8
  | .varint value => WireFormat.varint value.toNat
  | .fixed64 value => ByteOrder.little.encode 8 value.toNat
  | .block bytes => WireFormat.block bytes
  | .fixed32 value => ByteOrder.little.encode 4 value.toNat

/-- A number of a field leaves three bits of 32 for the kind of its value. -/
structure Field where
  number : Nat
  value : Value
  positive : 0 < number
  small : number < 2 ^ 29
deriving DecidableEq

def Field.tag (field : Field) : UInt32 := UInt32.ofNat (8 * field.number + field.value.kind)

theorem Field.tag_toNat (field : Field) : field.tag.toNat = 8 * field.number + field.value.kind := by
  have small := field.small
  apply UInt32.toNat_ofNat_of_lt'
  change _ < 4294967296
  cases field.value with
  | varint value =>
    change 8 * field.number + 0 < _
    omega
  | fixed64 value =>
    change 8 * field.number + 1 < _
    omega
  | block bytes =>
    change 8 * field.number + 2 < _
    omega
  | fixed32 value =>
    change 8 * field.number + 5 < _
    omega

def readValue : Nat → Reader UInt8 Value
  | 0 => andThen readVarint (fun value => give (.varint (UInt64.ofNat value)))
  | 1 => andThen (exactly 8) (fun bytes => give (.fixed64 (UInt64.ofNat (ByteOrder.little.decode bytes))))
  | 2 => andThen readBlock (fun bytes => give (.block bytes))
  | 5 => andThen (exactly 4) (fun bytes => give (.fixed32 (UInt32.ofNat (ByteOrder.little.decode bytes))))
  | _ => refuse

theorem selfDelimiting_readValue (kind : Nat) : SelfDelimiting (readValue kind) := by
  unfold readValue
  split
  next => exact selfDelimiting_readVarint.andThen _ _ (fun value => selfDelimiting_give _)
  next => exact (selfDelimiting_exactly 8).andThen _ _ (fun bytes => selfDelimiting_give _)
  next => exact selfDelimiting_readBlock.andThen _ _ (fun bytes => selfDelimiting_give _)
  next => exact (selfDelimiting_exactly 4).andThen _ _ (fun bytes => selfDelimiting_give _)
  next => exact selfDelimiting_refuse

theorem exactly_encode (order : ByteOrder) (width value : Nat) (rest : List UInt8) :
    exactly width (order.encode width value ++ rest) = some (order.encode width value,rest) := by
  have whole := exactly_append (order.encode width value) rest
  rw [ByteOrder.encode_length] at whole
  exact whole

theorem readValue_encode (value : Value) (rest : List UInt8) :
    readValue value.kind (value.encode ++ rest) = some (value,rest) := by
  cases value with
  | varint value =>
    simp only [Value.kind,readValue,Value.encode]
    rw [andThen_of_read _ _ _ _ _ (readVarint_varint _ _),UInt64.ofNat_toNat]
    rfl
  | fixed64 value =>
    simp only [Value.kind,readValue,Value.encode]
    rw [andThen_of_read _ _ _ _ _ (exactly_encode _ _ _ _),ByteOrder.decode_encode _ _ _ value.toNat_lt,
      UInt64.ofNat_toNat]
    rfl
  | block bytes =>
    simp only [Value.kind,readValue,Value.encode]
    rw [andThen_of_read _ _ _ _ _ (readBlock_block _ _)]
    rfl
  | fixed32 value =>
    simp only [Value.kind,readValue,Value.encode]
    rw [andThen_of_read _ _ _ _ _ (exactly_encode _ _ _ _),ByteOrder.decode_encode _ _ _ value.toNat_lt,
      UInt32.ofNat_toNat]
    rfl

/-- The value that a tag announces, where the tag has a number. -/
def readField (tag : UInt32) : Reader UInt8 Field :=
  if positive : 0 < tag.toNat / 8 then
    andThen (readValue (tag.toNat % 8)) (fun value => give
      ⟨tag.toNat / 8,value,positive,Nat.div_lt_of_lt_mul (by have bound := tag.toNat_lt; omega)⟩)
  else refuse

theorem selfDelimiting_readField (tag : UInt32) : SelfDelimiting (readField tag) := by
  unfold readField
  split
  next => exact (selfDelimiting_readValue _).andThen _ _ (fun value => selfDelimiting_give _)
  next => exact selfDelimiting_refuse

theorem Value.kind_lt (value : Value) : value.kind < 8 := by
  cases value <;> simp [Value.kind]

theorem readField_encode (field : Field) (rest : List UInt8) :
    readField field.tag (field.value.encode ++ rest) = some (field,rest) := by
  have kind := field.value.kind_lt
  have positive := field.positive
  have number : field.tag.toNat / 8 = field.number := by
    rw [Field.tag_toNat]
    omega
  have same_kind : field.tag.toNat % 8 = field.value.kind := by
    rw [Field.tag_toNat]
    omega
  unfold readField
  rw [dif_pos (by omega)]
  simp only [same_kind,number]
  rw [andThen_of_read _ _ _ _ _ (readValue_encode field.value rest)]
  rfl

theorem readValue_kind (kind : Nat) (input rest : List UInt8) (value : Value)
    (done : readValue kind input = some (value,rest)) : value.kind = kind := by
  unfold readValue at done
  split at done
  next =>
    obtain ⟨first,rfl⟩ := built_of_andThen _ _ _ _ _ done
    rfl
  next =>
    obtain ⟨first,rfl⟩ := built_of_andThen _ _ _ _ _ done
    rfl
  next =>
    obtain ⟨first,rfl⟩ := built_of_andThen _ _ _ _ _ done
    rfl
  next =>
    obtain ⟨first,rfl⟩ := built_of_andThen _ _ _ _ _ done
    rfl
  next => cases done

/-- A field is read back under the tag that announced it. -/
theorem readField_tag (tag : UInt32) (input rest : List UInt8) (field : Field)
    (done : readField tag input = some (field,rest)) : field.tag = tag := by
  unfold readField at done
  split at done
  next positive =>
    obtain ⟨value,middle,read,given⟩ := (andThen_eq_some _ _ _ _ _).mp done
    cases given
    apply UInt32.toNat_inj.mp
    rw [Field.tag_toNat,readValue_kind _ _ _ _ read]
    exact Nat.div_add_mod _ _
  next => cases done

end Foundation.WireFormat
