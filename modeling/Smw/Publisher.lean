import Smw.IceoryxWriter
import Smw.ServiceDescription
import Smw.Foundation.Execution

/-! The publisher: both overloads of publish over the two transports, and the operations of
a program that loans, writes, moves, drops and publishes samples. -/
namespace Smw.Publisher
open Foundation IceoryxWriter

inductive PublisherError
  | noImplement
  | loanFailed
  | ddsWriteFailed
  | ipcWriteFailed
deriving DecidableEq,Repr

/-- What a call meets: the status at each of its two queries, the outcome of the DDS write
and the answer of the pool to its loan. -/
structure Environment where
  remoteQuery : ServiceStatus := {}
  localQuery : ServiceStatus := {}
  ddsWrite : Bool := true
  granted : Option Grant := none

/-- The result of a call, none for success, with the values handed to the DDS writer. -/
structure Published (T : Type) [Inhabited T] where
  error : Option PublisherError
  dds : List T
  iox : IoxState T

variable {T : Type} [Inhabited T]

def writeRemote (env : Environment) (value : T) : Option PublisherError × List T :=
  if env.remoteQuery.hasRemoteConsumer then
    (if env.ddsWrite then none else some .ddsWriteFailed,[value])
  else (none,[])

def loanSample (type : DataType T) (granted : Option Grant) (iox : IoxState T) :
    Except PublisherError SamplePtr × IoxState T :=
  let loaned := loan type granted iox
  (.ok loaned.1,loaned.2)

/-- The call and the sample that it leaves behind; none where it dereferences a null sample. -/
def publishSample (type : DataType T) (env : Environment) (sample : SamplePtr) (iox : IoxState T) :
    Option (Published T × SamplePtr) :=
  let remote :=
    if env.remoteQuery.hasRemoteConsumer then
      sample.dataPtr.map (fun address => writeRemote env (iox.object address))
    else some (none,[])
  remote.map (fun (error,dds) =>
    if env.localQuery.hasLocalConsumer then
      let (written,left,after) := write type env.granted sample iox
      (⟨if written then error else some .ipcWriteFailed,dds,after⟩,left)
    else (⟨error,dds,iox⟩,if sample.isHeapAllocated then sample else sample.release))

/-- The sample of the call is destroyed when it returns. -/
def publishValue (type : DataType T) (env : Environment) (value : T) (iox : IoxState T) : Published T :=
  let (error,dds) := writeRemote env value
  if env.localQuery.hasLocalConsumer then
    let (sample,loaned) := loan type env.granted iox
    let (error,ready) := match sample.dataPtr with
      | none => (some .loanFailed,loaned)
      | some address => (error,loaned.store address value)
    if error = none then
      let (written,left,after) := write type env.granted sample ready
      ⟨if written then none else some .ipcWriteFailed,dds,after.dispose left⟩
    else ⟨error,dds,ready.dispose sample⟩
  else ⟨error,dds,iox⟩

/-- Loaning a sample, assigning the value to it and publishing it, with the sample destroyed
after that; none where the sample is null. -/
def publishLoaned (type : DataType T) (env : Environment) (value : T) (iox : IoxState T) :
    Option (Published T) :=
  let (result,loaned) := loanSample type env.granted iox
  match result with
  | .error error => some ⟨some error,[],loaned⟩
  | .ok sample =>
    sample.dataPtr.bind (fun address =>
      (publishSample type env sample (loaned.store address value)).map (fun (done,left) =>
        {done with iox := done.iox.dispose left}))

structure PublisherState (T : Type) [Inhabited T] where
  samples : Nat → Option SamplePtr := fun _ => none
  iox : IoxState T := {}
  dds : List T := []

inductive Label (T : Type)
  | loanSample (sample : Nat) (granted : Option Grant)
  | write (sample : Nat) (value : T)
  | moveConstruct (target source : Nat)
  | moveAssign (target source : Nat)
  | drop (sample : Nat)
  | publishSample (sample : Nat) (env : Environment)
  | publishValue (value : T) (env : Environment)

/-- An operation, none where its objects are not alive, where it dereferences a null sample
or where the pool would give a chunk twice. -/
def step (type : DataType T) (state : PublisherState T) : Label T → Option (PublisherState T)
  | .loanSample sample granted =>
    if state.samples sample = none ∧ state.iox.grants granted then
      let loaned := loanSample type granted state.iox
      match loaned.1 with
      | .ok value =>
        some {state with samples := Function.update state.samples sample (some value),iox := loaned.2}
      | .error _ => some {state with iox := loaned.2}
    else none
  | .write sample value =>
    (state.samples sample).bind (fun pointer =>
      pointer.dataPtr.map (fun address => {state with iox := state.iox.store address value}))
  | .moveConstruct target source =>
    if state.samples target = none then
      (state.samples source).map (fun pointer =>
        let left := Function.update state.samples source (some pointer.moved)
        {state with samples := Function.update left target (some pointer)})
    else none
  | .moveAssign target source =>
    (state.samples target).bind (fun overwritten =>
      (state.samples source).map (fun pointer =>
        if target = source then state
        else
          let left := Function.update state.samples source (some pointer.moved)
          {state with
            samples := Function.update left target (some pointer)
            iox := state.iox.dispose overwritten}))
  | .drop sample =>
    (state.samples sample).map (fun pointer =>
      {state with
        samples := Function.update state.samples sample none
        iox := state.iox.dispose pointer})
  | .publishSample sample env =>
    if state.iox.grants env.granted then
      (state.samples sample).bind (fun pointer =>
        (publishSample type env pointer state.iox).map (fun (done,left) =>
          {state with
            samples := Function.update state.samples sample (some left)
            iox := done.iox
            dds := state.dds ++ done.dds}))
    else none
  | .publishValue value env =>
    if state.iox.grants env.granted then
      let done := publishValue type env value state.iox
      some {state with iox := done.iox,dds := state.dds ++ done.dds}
    else none

section Transports
variable (type : DataType T) (env : Environment) (value : T) (iox : IoxState T)

/-- A call succeeds: it hands the value to DDS if there is a remote consumer, and publishes
a chunk for it if there is a local one. -/
def Transports (before : Nat → UInt8) (done : Published T) : Prop :=
  done.error = none ∧ done.dds = (if env.remoteQuery.hasRemoteConsumer then [value] else []) ∧
    done.iox.published = iox.published ++
      (if env.localQuery.hasLocalConsumer then [payloadOf type before value] else [])

omit [Inhabited T] in
theorem writeRemote_written (written : env.ddsWrite = true) :
    writeRemote env value = (none,if env.remoteQuery.hasRemoteConsumer then [value] else []) := by
  unfold writeRemote
  rw [written]
  split <;> rfl

theorem publishValue_transports (written : env.ddsWrite = true) (grant : Grant)
    (granted : env.granted = some grant) :
    Transports type env value iox grant.before (publishValue type env value iox) := by
  unfold Transports publishValue
  rw [writeRemote_written env value written,granted]
  cases env.localQuery.hasLocalConsumer with
  | false => simp
  | true =>
    cases type with
    | fixed => simp [loan,write,SamplePtr.ofPtr,SamplePtr.markAsNoHeapAllocated,IoxState.store,
        IoxState.publish,IoxState.dispose,payloadOf]
    | dynamic serializer => simp [loan,write,SamplePtr.ofPtr,IoxState.store,IoxState.serialized,
        IoxState.publish,IoxState.dispose,payloadOf]

theorem publishLoaned_transports (written : env.ddsWrite = true) (grant : Grant)
    (granted : env.granted = some grant) :
    ∃ done, publishLoaned type env value iox = some done ∧
      Transports type env value iox grant.before done := by
  unfold Transports publishLoaned publishSample loanSample
  rw [granted]
  cases type with
  | fixed =>
    cases remote : env.remoteQuery.hasRemoteConsumer <;> cases env.localQuery.hasLocalConsumer <;>
      simp [loan,write,SamplePtr.ofPtr,SamplePtr.markAsNoHeapAllocated,SamplePtr.release,IoxState.store,
        IoxState.publish,IoxState.dispose,payloadOf,writeRemote_written,written,remote]
  | dynamic serializer =>
    cases remote : env.remoteQuery.hasRemoteConsumer <;> cases env.localQuery.hasLocalConsumer <;>
      simp [loan,write,SamplePtr.ofPtr,IoxState.store,IoxState.serialized,IoxState.publish,
        IoxState.dispose,payloadOf,writeRemote_written,written,remote]

end Transports
end Smw.Publisher
