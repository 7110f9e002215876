import Smw.FastDDSDataType

/-! The two paths of a value, from a writer to the callback of a reader, where the serializer
of its type may fail on either side. -/
namespace Smw.SerialisationFailures
open Foundation IceoryxWriter FastDDSDataType

/-- A path that carries values in buffers. Its operations have no result where the process
is terminated. -/
structure Path (T B : Type) where
  write : T → Option (Bool × List B)
  /-- The values that the callback is invoked with. -/
  onDataAvailable : B → Option (List T)

namespace Path
variable {T B : Type} (path : Path T B) (serializes : T → Bool) (deserializes : B → Bool)

def sent (value : T) : List B := ((path.write value).map Prod.snd).getD []

def invoked (received : B) : List T := (path.onDataAvailable received).getD []

structure CarriesFailures (value : T) (received : B) : Prop where
  reported : serializes value = false → ∃ buffers, path.write value = some (false,buffers)
  silent : serializes value = false → (path.sent value).flatMap path.invoked = []
  decoded : path.invoked received ≠ [] → deserializes received = true

/-- A path that gives up as soon as the serializer fails. -/
theorem carriesFailures_of_strict (value : T) (received : B)
    (gives_up : serializes value = false → path.write value = some (false,[]))
    (drops : deserializes received = false → path.invoked received = []) :
    path.CarriesFailures serializes deserializes value received where
  reported := fun failed => ⟨[],gives_up failed⟩
  silent := by
    intro failed
    simp [sent,gives_up failed]
  decoded := by
    intro invoked
    by_contra failed
    exact invoked (drops (by simpa using failed))

end Path

/-- What the paths rest on of Fast-DDS: its answers to a write and a take, given the result
of the serializer, and the payload that it reserves for a write. -/
structure FastDds where
  write : Bool → Bool
  take : Bool → Bool
  reserve : UInt32 → SerializedPayload
  write_failed : write false = false
  take_failed : take false = false
  reserves : ∀ size, size ≤ (reserve size).maxSize

section Paths
variable {T : Type} [Inhabited T] (cdr : FastCdr) (serializer : Serializer T)

def serializes (value : T) : Bool := (serializer.serialize value).1

section Dds
variable (dds : FastDds) (writer reader : ByteOrder) (callback : Bool)

/-- `callback` tells whether the reader has one. -/
def ddsPath : Path T SerializedPayload where
  write value :=
    let reserved := dds.reserve (getSerializedSizeProvider cdr serializer value)
    (serialize cdr serializer writer value reserved).map (fun sent =>
      (dds.write sent.result,if dds.write sent.result then [sent.payload] else []))
  onDataAvailable received :=
    (deserialize cdr serializer reader received default).map (fun decoded =>
      if dds.take decoded.result && callback then [decoded.value] else [])

def ddsDeserializes (received : SerializedPayload) : Bool :=
  (deserialize cdr serializer reader received default).any (fun decoded => decoded.result)

def HeaderFits (value : T) : Prop :=
  8 ≤ (dds.reserve (getSerializedSizeProvider cdr serializer value)).maxSize.toNat

omit [Inhabited T] in
theorem headerFits_of_bounded (value : T) (bounded : serializer.getSize value ≤ 2 ^ 31 - 1) :
    HeaderFits cdr serializer dds value := by
  have provided := getSerializedSizeProvider_toNat cdr serializer value bounded
  have reserved := UInt32.le_iff_toNat_le.mp (dds.reserves (getSerializedSizeProvider cdr serializer value))
  unfold HeaderFits
  omega

theorem ddsPath_drops (received : SerializedPayload)
    (failed : ddsDeserializes cdr serializer reader received = false) :
    (ddsPath cdr serializer dds writer reader callback).invoked received = [] := by
  unfold ddsDeserializes at failed
  unfold Path.invoked ddsPath
  cases returned : deserialize cdr serializer reader received default with
  | none => simp [returned]
  | some decoded =>
    have refused : decoded.result = false := by simpa [returned] using failed
    simp [returned,refused,dds.take_failed]

theorem ddsPath_carriesFailures_iff (value : T) (received : SerializedPayload) :
    (ddsPath cdr serializer dds writer reader callback).CarriesFailures (serializes serializer)
      (ddsDeserializes cdr serializer reader) value received ↔
      serializes serializer value = true ∨ HeaderFits cdr serializer dds value := by
  constructor
  · intro carries
    by_contra neither
    obtain ⟨failed,narrow⟩ := not_or.mp neither
    obtain ⟨buffers,reported⟩ := carries.reported (by simpa using failed)
    have full := serialize_narrow cdr serializer value writer _ (Nat.lt_of_not_le narrow)
    simp [ddsPath,full] at reported
  · intro condition
    apply Path.carriesFailures_of_strict
    · intro failed
      have room := condition.resolve_left (by simp [failed])
      have refused : (serializer.serialize value).1 = false := failed
      simp [ddsPath,serialize_roomy cdr serializer value writer _ room,refused,dds.write_failed]
    · exact ddsPath_drops cdr serializer dds writer reader callback received

end Dds

section Iceoryx
variable (granted : Option Grant) (address : Address) (iox : IoxState T) (callback : Bool)

def sentBuffers (before after : IoxState T) : List (List UInt8) :=
  (after.published.drop before.published.length).filterMap (fun payload =>
    match payload with
    | .bytes buffer => some buffer
    | .object _ => none)

/-- The value lies at an address of its own. Calling an empty callback terminates. -/
def iceoryxPath : Path T (List UInt8) where
  write value :=
    let written := write (.dynamic serializer) granted (SamplePtr.ofPtr address) (iox.store address value)
    some (written.1,sentBuffers iox written.2.2)
  onDataAvailable received :=
    if callback then some (receive (.dynamic serializer) (.bytes received)).toList else none

def iceoryxDeserializes (received : List UInt8) : Bool := (serializer.deserialize received default).1

theorem iceoryxPath_write (value : T) :
    (iceoryxPath serializer granted address iox callback).write value =
      some (granted.isSome,granted.toList.map (fun grant =>
        chunkContent (serializer.getSize value) grant.before (serializer.serialize value).2)) := by
  cases granted with
  | none => simp [iceoryxPath,write,SamplePtr.ofPtr,sentBuffers,IoxState.store]
  | some grant =>
    simp [iceoryxPath,write,SamplePtr.ofPtr,sentBuffers,IoxState.store,IoxState.serialized,IoxState.publish]

theorem iceoryxPath_invoked (received : List UInt8) :
    (iceoryxPath serializer granted address iox callback).invoked received =
      if callback then [(serializer.deserialize received default).2] else [] := by
  cases callback with
  | false => rfl
  | true => rfl

theorem iceoryxPath_carriesFailures_iff (value : T) (received : List UInt8) :
    (iceoryxPath serializer granted address iox callback).CarriesFailures (serializes serializer)
      (iceoryxDeserializes serializer) value received ↔
      (serializes serializer value = true ∨ granted = none) ∧
        (iceoryxDeserializes serializer received = true ∨ callback = false) := by
  have written := iceoryxPath_write serializer granted address iox callback value
  have invoked := iceoryxPath_invoked serializer granted address iox callback received
  constructor
  · intro carries
    constructor
    · by_contra neither
      obtain ⟨failed,loaned⟩ := not_or.mp neither
      obtain ⟨buffers,reported⟩ := carries.reported (by simpa using failed)
      rw [written,Option.isSome_iff_ne_none.mpr loaned] at reported
      cases reported
    · by_contra neither
      obtain ⟨failed,called⟩ := not_or.mp neither
      apply failed
      apply carries.decoded
      rw [invoked,if_pos (by simpa using called)]
      exact List.cons_ne_nil _ _
  · intro condition
    obtain ⟨encodes,decodes⟩ := condition
    apply Path.carriesFailures_of_strict
    · intro failed
      rcases encodes with encodes | unloaned
      · rw [failed] at encodes
        cases encodes
      · rw [written,unloaned]
        rfl
    · intro failed
      rcases decodes with decodes | empty
      · rw [failed] at decodes
        cases decodes
      · rw [invoked,empty]
        rfl

end Iceoryx

theorem failures_agree_iff (dds : FastDds) (writer reader : ByteOrder) (dds_callback : Bool)
    (payload : SerializedPayload) (granted : Option Grant) (address : Address) (iox : IoxState T)
    (iox_callback : Bool) (buffer : List UInt8) (value : T) :
    (ddsPath cdr serializer dds writer reader dds_callback).CarriesFailures (serializes serializer)
        (ddsDeserializes cdr serializer reader) value payload ∧
      (iceoryxPath serializer granted address iox iox_callback).CarriesFailures (serializes serializer)
        (iceoryxDeserializes serializer) value buffer ↔
    (serializes serializer value = true ∨ HeaderFits cdr serializer dds value) ∧
      (serializes serializer value = true ∨ granted = none) ∧
      (iceoryxDeserializes serializer buffer = true ∨ iox_callback = false) := by
  rw [ddsPath_carriesFailures_iff,iceoryxPath_carriesFailures_iff]

end Paths

def failingSerializer : Serializer (List UInt8) where
  getSize := List.length
  serialize value := (false,List.replicate value.length 0)
  deserialize bytes _ := (false,bytes)

theorem failed_encoding_delivered :
    (iceoryxPath failingSerializer (some ⟨0,fun _ => 0⟩) (.heap 0) {} true).write [1,2] = some (true,[[0,0]]) ∧
      (iceoryxPath failingSerializer (some ⟨0,fun _ => 0⟩) (.heap 0) {} true).invoked [0,0] = [[0,0]] ∧
      ¬ (iceoryxPath failingSerializer (some ⟨0,fun _ => 0⟩) (.heap 0) {} true).CarriesFailures
        (serializes failingSerializer) (iceoryxDeserializes failingSerializer) [1,2] [0,0] := by
  refine ⟨rfl,rfl,?_⟩
  intro carries
  obtain ⟨buffers,reported⟩ := carries.reported rfl
  cases reported

end Smw.SerialisationFailures
