import Smw.IceoryxWriter

/-! One round trip over iceoryx, through both overloads of write and the reader. The
overload for a sample transports it; the one for a value does not look at the value. -/
namespace Smw.IceoryxRoundTrip
open Foundation IceoryxWriter

/-- An enabled reader with a callback, which was called with `calls`. -/
structure ReaderState (T : Type) where
  waiting : List (Payload T) := []
  calls : List T := []

variable {T : Type} [Inhabited T]

def onDataAvailable (type : DataType T) (reader : ReaderState T) : ReaderState T :=
  match reader.waiting with
  | [] => reader
  | payload :: rest => {waiting := rest,calls := reader.calls ++ (receive type payload).toList}

def listen (type : DataType T) (reader : ReaderState T) : ReaderState T :=
  (onDataAvailable type)^[reader.waiting.length] reader

def writeValue (type : DataType T) (granted : Option Grant) (_data : T) (iox : IoxState T) :
    Bool × IoxState T :=
  let loaned := loan type granted iox
  let (written,sample,after) := write type granted loaned.1 loaned.2
  (written,after.dispose sample)

def writeSample (type : DataType T) (granted : Option Grant) (sample : SamplePtr) (iox : IoxState T) :
    Bool × IoxState T :=
  let (written,_,after) := write type granted sample iox
  (written,after)

def Holds (type : DataType T) (iox : IoxState T) (sample : SamplePtr) (value : T) : Prop :=
  ∃ address, sample.dataPtr = some address ∧ iox.object address = value ∧
    (type = .fixed → ∃ chunk, chunk ∈ iox.loaned ∧ address = .chunk chunk)

def arrive (reader : ReaderState T) (before after : IoxState T) : ReaderState T :=
  {reader with waiting := reader.waiting ++ after.published.drop before.published.length}

/-- The write succeeds, stays within its chunk and gives the callback of any reader one more
call, with the value. -/
def Delivers (type : DataType T) (value : T) (before : IoxState T) (done : Bool × IoxState T) : Prop :=
  done.1 = true ∧ done.2.overruns = before.overruns ∧ ∀ reader : ReaderState T,
    (listen type (arrive reader before done.2)).calls = (listen type reader).calls ++ [value]

def RoundTrips (type : DataType T) (value : T) (grant : Grant) (iox : IoxState T) : Prop :=
  (∀ sample, Holds type iox sample value →
    Delivers type value iox (writeSample type (some grant) sample iox)) ∧
  Delivers type value iox (writeValue type (some grant) value iox)

def StaysWithin (type : DataType T) (value : T) : Prop :=
  match type with
  | .fixed => True
  | .dynamic serializer => (serializer.serialize value).2.length ≤ serializer.getSize value

/-- The value is what T{} is, or what the chunk is read as once T{} is serialised into it,
over the bytes that it held before. -/
def ReadsAsFresh (type : DataType T) (before : Nat → UInt8) (value : T) : Prop :=
  match type with
  | .fixed => default = value
  | .dynamic serializer =>
    let bytes := chunkContent (serializer.getSize default) before (serializer.serialize default).2
    (serializer.deserialize bytes default).2 = value

section Reader
variable (type : DataType T)

theorem listen_calls (reader : ReaderState T) :
    (listen type reader).calls = reader.calls ++ reader.waiting.filterMap (receive type) := by
  obtain ⟨waiting,calls⟩ := reader
  induction waiting generalizing calls with
  | nil => simp [listen]
  | cons payload rest ih =>
    have taken : listen type ⟨payload :: rest,calls⟩ =
        listen type ⟨rest,calls ++ (receive type payload).toList⟩ := by
      simp [listen,onDataAvailable]
    rw [taken,ih]
    cases received : receive type payload with
    | none => simp [received]
    | some value => simp [received]

theorem delivers_published (value : T) (before : IoxState T) (done : Bool × IoxState T)
    (payload : Payload T) (written : done.1 = true)
    (published : done.2.published = before.published ++ [payload]) :
    Delivers type value before done ↔
      done.2.overruns = before.overruns ∧ receive type payload = some value := by
  have arrived (reader : ReaderState T) : arrive reader before done.2 =
      {reader with waiting := reader.waiting ++ [payload]} := by
    simp [arrive,published]
  have calls (reader : ReaderState T) : (listen type (arrive reader before done.2)).calls =
      (listen type reader).calls ++ (receive type payload).toList := by
    rw [arrived,listen_calls,listen_calls]
    cases received : receive type payload with
    | none => simp [received]
    | some value => simp [received]
  constructor
  · intro delivered
    obtain ⟨_,within,called⟩ := delivered
    have called := called {}
    rw [calls] at called
    exact ⟨within,Option.toList_eq_singleton_iff.mp (List.append_cancel_left called)⟩
  · intro condition
    obtain ⟨within,received⟩ := condition
    refine ⟨written,within,?_⟩
    intro reader
    rw [calls,received]
    rfl

end Reader

section Overloads
variable (type : DataType T) (grant : Grant) (iox : IoxState T)

structure Writes (value : T) (done : Bool × IoxState T) : Prop where
  written : done.1 = true
  published : done.2.published = iox.published ++ [payloadOf type grant.before value]
  within : done.2.overruns = iox.overruns ↔ StaysWithin type value

theorem writeSample_writes (sample : SamplePtr) (value : T) (holds : Holds type iox sample value) :
    Writes type grant iox value (writeSample type (some grant) sample iox) := by
  obtain ⟨address,pointer,content,home⟩ := holds
  cases type with
  | dynamic serializer =>
    constructor
    · simp [writeSample,write,pointer]
    · simp [writeSample,write,pointer,IoxState.serialized,IoxState.publish,payloadOf,content]
    · simp [writeSample,write,pointer,IoxState.serialized,IoxState.publish,content,StaysWithin]
  | fixed =>
    obtain ⟨index,_,place⟩ := home rfl
    subst place
    constructor
    · simp [writeSample,write,pointer]
    · simp [writeSample,write,pointer,IoxState.publish,payloadOf,content]
    · simp [writeSample,write,pointer,IoxState.publish,StaysWithin]

theorem writeValue_writes (value : T) :
    Writes type grant iox default (writeValue type (some grant) value iox) := by
  cases type with
  | dynamic serializer =>
    constructor
    · simp [writeValue,loan,write,SamplePtr.ofPtr]
    · simp [writeValue,loan,write,SamplePtr.ofPtr,IoxState.dispose,IoxState.publish,IoxState.store,
        IoxState.serialized,payloadOf]
    · simp [writeValue,loan,write,SamplePtr.ofPtr,IoxState.dispose,IoxState.publish,IoxState.store,
        IoxState.serialized,StaysWithin]
  | fixed =>
    constructor
    · simp [writeValue,loan,write,SamplePtr.ofPtr,SamplePtr.markAsNoHeapAllocated]
    · simp [writeValue,loan,write,SamplePtr.ofPtr,SamplePtr.markAsNoHeapAllocated,IoxState.dispose,
        IoxState.publish,IoxState.store,payloadOf]
    · simp [writeValue,loan,write,SamplePtr.ofPtr,SamplePtr.markAsNoHeapAllocated,IoxState.dispose,
        IoxState.publish,IoxState.store,StaysWithin]

theorem Writes.delivers_iff {content value : T} {done : Bool × IoxState T}
    (writes : Writes type grant iox content done) :
    Delivers type value iox done ↔
      StaysWithin type content ∧ receive type (payloadOf type grant.before content) = some value := by
  rw [delivers_published type value iox done _ writes.written writes.published,writes.within]

omit [Inhabited T] in
theorem staysWithin_of_transportable (value : T) (transportable : Transportable type value) :
    StaysWithin type value := by
  cases type with
  | fixed => trivial
  | dynamic serializer => exact Nat.le_of_eq transportable.1

theorem receive_fresh (before : Nat → UInt8) (value : T) :
    receive type (payloadOf type before default) = some value ↔ ReadsAsFresh type before value := by
  cases type with
  | fixed => simp [receive,payloadOf,ReadsAsFresh]
  | dynamic serializer => simp [receive,payloadOf,ReadsAsFresh]

theorem readsAsFresh_iff (before : Nat → UInt8) (value : T)
    (transportable : Transportable type (default : T)) : ReadsAsFresh type before value ↔ value = default := by
  rw [← receive_fresh,receive_payloadOf type before default transportable,Option.some.injEq,eq_comm]
end Overloads

/-- Whatever lay in the chunk: the value comes back through both overloads exactly where T{}
fits its chunk and the reader takes what is published of it for the value. A type that
carries T{} does so for T{} alone. -/
theorem round_trips_iff (type : DataType T) (value : T) (grant : Grant) (iox : IoxState T)
    (transportable : Transportable type value) :
    (RoundTrips type value grant iox ↔
      StaysWithin type (default : T) ∧ ReadsAsFresh type grant.before value) ∧
    ((∀ before, RoundTrips type value ⟨grant.chunk,before⟩ iox) ↔
      StaysWithin type (default : T) ∧ ∀ before, ReadsAsFresh type before value) ∧
    (Transportable type default → (RoundTrips type value grant iox ↔ value = default)) := by
  have exactly (grant : Grant) : RoundTrips type value grant iox ↔
      StaysWithin type (default : T) ∧ ReadsAsFresh type grant.before value := by
    have fresh : Delivers type value iox (writeValue type (some grant) value iox) ↔ _ :=
      (writeValue_writes type grant iox value).delivers_iff
    have samples : ∀ sample, Holds type iox sample value →
        Delivers type value iox (writeSample type (some grant) sample iox) := by
      intro sample holds
      have within := staysWithin_of_transportable type value transportable
      exact (writeSample_writes type grant iox sample value holds).delivers_iff.mpr
        ⟨within,receive_payloadOf type grant.before value transportable⟩
    rw [RoundTrips,fresh,receive_fresh]
    exact and_iff_right samples
  refine ⟨exactly grant,?_,?_⟩
  · rw [← forall_and_left]
    exact forall_congr' (fun before => exactly ⟨grant.chunk,before⟩)
  · intro carried
    rw [exactly,readsAsFresh_iff type grant.before value carried]
    exact and_iff_right (staysWithin_of_transportable type default carried)

theorem seven_round_trips_iff_zero :
    (RoundTrips (.fixed : DataType Nat) 7 ⟨0,fun _ => 0⟩ {} ↔
      StaysWithin .fixed (default : Nat) ∧ ReadsAsFresh .fixed (fun _ => 0) 7) ∧
    ((∀ before, RoundTrips (.fixed : DataType Nat) 7 ⟨0,before⟩ {}) ↔
      StaysWithin .fixed (default : Nat) ∧ ∀ before, ReadsAsFresh .fixed before 7) ∧
    (Transportable (.fixed : DataType Nat) default →
      (RoundTrips (.fixed : DataType Nat) 7 ⟨0,fun _ => 0⟩ {} ↔ (7 : Nat) = default)) :=
  round_trips_iff (.fixed : DataType Nat) 7 ⟨0,fun _ => 0⟩ {} trivial

theorem value_not_delivered :
    ¬ ∀ (value : Nat) (grant : Grant) (iox : IoxState Nat), iox.grants (some grant) = true →
      Transportable .fixed value → RoundTrips .fixed value grant iox := by
  intro every
  have delivered := (every 7 ⟨0,fun _ => 0⟩ {} rfl trivial).2.2.2 {}
  simp [writeValue,loan,write,listen,arrive,onDataAvailable,receive,SamplePtr.ofPtr,
    SamplePtr.markAsNoHeapAllocated,IoxState.publish,IoxState.store,IoxState.dispose,
    SamplePtr.release,SamplePtr.destroy] at delivered

end Smw.IceoryxRoundTrip
