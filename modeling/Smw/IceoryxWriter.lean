import Smw.SamplePtr
import Smw.Foundation.OrderedMap
import Mathlib.Logic.Function.Basic

/-! The writer of iceoryx and what it shares with its pool. A fixed data type is built in
the loaned chunk itself; a dynamic one lives on the heap and is serialised into a chunk. -/
namespace Smw.IceoryxWriter
open Foundation

/-- Both operations report success and hand back what they have written. -/
structure Serializer (T : Type) where
  getSize : T → Nat
  serialize : T → Bool × List UInt8
  deserialize : List UInt8 → T → Bool × T

inductive DataType (T : Type)
  | fixed
  | dynamic (serializer : Serializer T)

inductive Payload (T : Type)
  | object (value : T)
  | bytes (buffer : List UInt8)
deriving DecidableEq,Repr

/-- A chunk that the pool gives to a loan, with the byte that it finds at each place of it. -/
structure Grant where
  chunk : Nat
  before : Nat → UInt8

structure IoxState (T : Type) [Inhabited T] where
  /-- The chunks that were loaned and neither published nor released. -/
  loaned : OrderedSet Nat := OrderedMap.empty
  object : Address → T := fun _ => default
  blocks : Nat := 0
  disposed : List Disposal := []
  published : List (Payload T) := []
  /-- How often a serializer has written past the end of its chunk. -/
  overruns : Nat := 0

variable {T : Type} [Inhabited T]

/-- A loan fails, or gives a chunk that is not on loan. -/
def IoxState.grants (iox : IoxState T) : Option Grant → Bool
  | some grant => grant.chunk ∉ iox.loaned
  | none => true

def IoxState.dispose (iox : IoxState T) (sample : SamplePtr) : IoxState T :=
  {iox with disposed := iox.disposed ++ sample.destroy}

def IoxState.store (iox : IoxState T) (address : Address) (value : T) : IoxState T :=
  {iox with object := Function.update iox.object address value}

def IoxState.publish (iox : IoxState T) (chunk : Nat) (payload : Payload T) : IoxState T :=
  {iox with
    loaned := iox.loaned.erase chunk
    published := iox.published ++ [payload]}

def IoxState.serialized (iox : IoxState T) (size : Nat) (buffer : List UInt8) : IoxState T :=
  {iox with overruns := iox.overruns + if size < buffer.length then 1 else 0}

/-- Nothing clears a chunk: where the serializer has not written, it holds what it held. -/
def chunkContent (size : Nat) (before : Nat → UInt8) (buffer : List UInt8) : List UInt8 :=
  (List.range size).map (fun place => buffer.getD place (before place))

/-- `granted` is the answer of the pool to the loan. -/
def loan (type : DataType T) (granted : Option Grant) (iox : IoxState T) : SamplePtr × IoxState T :=
  match type with
  | .dynamic _ =>
    let address := Address.heap iox.blocks
    (SamplePtr.ofPtr address,({iox with blocks := iox.blocks + 1}).store address default)
  | .fixed =>
    match granted with
    | none => ({},iox)
    | some grant =>
      let address := Address.chunk grant.chunk
      ((SamplePtr.ofPtr address).markAsNoHeapAllocated,
        ({iox with loaned := iox.loaned.emplace grant.chunk}).store address default)

/-- Success, and the sample and the pool afterwards. A heap address in a sample of a fixed
type reaches the pool as it is; no such sample comes from `loan`. -/
def write (type : DataType T) (granted : Option Grant) (sample : SamplePtr) (iox : IoxState T) :
    Bool × SamplePtr × IoxState T :=
  match sample.dataPtr with
  | none => (false,sample,iox)
  | some address =>
    match type with
    | .dynamic serializer =>
      match granted with
      | none => (false,sample,iox)
      | some grant =>
        let value := iox.object address
        let size := serializer.getSize value
        let buffer := (serializer.serialize value).2
        let filled := ({iox with loaned := iox.loaned.emplace grant.chunk}).serialized size buffer
        (true,sample,filled.publish grant.chunk (.bytes (chunkContent size grant.before buffer)))
    | .fixed =>
      match address with
      | .chunk chunk => (true,sample.release,iox.publish chunk (.object (iox.object address)))
      | .heap _ =>
        (true,sample.release,{iox with published := iox.published ++ [.object (iox.object address)]})

def payloadOf (type : DataType T) (before : Nat → UInt8) (value : T) : Payload T :=
  match type with
  | .fixed => .object value
  | .dynamic serializer =>
    .bytes (chunkContent (serializer.getSize value) before (serializer.serialize value).2)

/-- What a reader of iceoryx builds from a chunk. Both sides use one data type, so a chunk of
the other representation does not come. -/
def receive (type : DataType T) (payload : Payload T) : Option T :=
  match type,payload with
  | .fixed,.object value => some value
  | .dynamic serializer,.bytes buffer => some (serializer.deserialize buffer default).2
  | _,_ => none

def Transportable (type : DataType T) (value : T) : Prop :=
  match type with
  | .fixed => True
  | .dynamic serializer =>
    (serializer.serialize value).2.length = serializer.getSize value ∧
      ∀ built, (serializer.deserialize (serializer.serialize value).2 built).2 = value

theorem chunkContent_exact (size : Nat) (before : Nat → UInt8) (buffer : List UInt8)
    (exactly : buffer.length = size) : chunkContent size before buffer = buffer := by
  apply List.ext_getElem
  · simp [chunkContent,exactly]
  · intro place left right
    simp [chunkContent,right]

theorem receive_payloadOf (type : DataType T) (before : Nat → UInt8) (value : T)
    (transportable : Transportable type value) : receive type (payloadOf type before value) = some value := by
  cases type with
  | fixed => rfl
  | dynamic serializer =>
    obtain ⟨size,carried⟩ := transportable
    simp [receive,payloadOf,chunkContent_exact _ _ _ size,carried]

end Smw.IceoryxWriter
