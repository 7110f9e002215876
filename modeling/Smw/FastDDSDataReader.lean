import Smw.Foundation.Execution

/-! The data reader inside a DDS reader, which is created and deleted as the reader is enabled
and disabled, while the receiving thread of Fast-DDS takes samples through the pointer to it.
Nothing is assumed of Fast-DDS about listeners that run while their data reader goes. -/
namespace Smw.FastDDSDataReader
open Foundation.Execution

inductive Call
  | createDatareader (reader : Nat)
  | setListener (reader : Nat)
  | close (reader : Nat)
  | deleteDatareader (reader : Nat)
deriving DecidableEq,Repr

/-- Where the holder of the mutex of the data reader stands. -/
inductive Control
  | idle
  /-- The data reader exists and its listener may run, but create_datareader has not returned. -/
  | creating (reader : Nat)
  /-- It has returned; what it returned is not stored yet. -/
  | returned (reader : Nat)
  | detached (reader : Nat)
  | closed (reader : Nat)
  | deleted (reader : Nat)
deriving DecidableEq,Repr

/-- What onDataAvailable found under the pointer, on behalf of which data reader. -/
structure Take where
  notified : Nat
  target : Option Nat
deriving DecidableEq,Repr

structure ReaderState where
  created : Nat := 0
  /-- The data readers of the subscriber, and those that have the listener. -/
  alive : List Nat := []
  listening : List Nat := []
  dataReader : Option Nat := none
  control : Control := .idle
  notifyCallback : Bool := true
  /-- The data reader whose listener runs, with the mutex of the notify callback. -/
  notified : Option Nat := none
  calls : List Call := []
  takes : List Take := []

inductive Label
  | enable
  | created
  | assign
  | disable
  | close
  | delete
  | clear
  | notify (reader : Nat)
  | take
  | setNotifyCallback (present : Bool)
deriving DecidableEq,Repr

/-- A step of the thread that enables or disables, or of the receiving thread; none where the
thread is elsewhere or blocked. -/
def step (state : ReaderState) : Label → Option ReaderState
  | .enable =>
    match state.control,state.dataReader with
    | .idle,some _ => some state
    | .idle,none => some {state with
        created := state.created + 1
        alive := state.created :: state.alive
        listening := state.created :: state.listening
        control := .creating state.created
        calls := state.calls ++ [.createDatareader state.created]}
    | _,_ => none
  | .created =>
    match state.control with
    | .creating reader => some {state with control := .returned reader}
    | _ => none
  | .assign =>
    match state.control with
    | .returned reader => some {state with dataReader := some reader,control := .idle}
    | _ => none
  | .disable =>
    match state.control,state.dataReader with
    | .idle,none => some state
    | .idle,some reader => some {state with
        listening := state.listening.erase reader
        control := .detached reader
        calls := state.calls ++ [.setListener reader]}
    | _,_ => none
  | .close =>
    match state.control with
    | .detached reader =>
      some {state with control := .closed reader,calls := state.calls ++ [.close reader]}
    | _ => none
  | .delete =>
    match state.control with
    | .closed reader => some {state with
        alive := state.alive.erase reader
        control := .deleted reader
        calls := state.calls ++ [.deleteDatareader reader]}
    | _ => none
  | .clear =>
    match state.control with
    | .deleted _ => some {state with dataReader := none,control := .idle}
    | _ => none
  | .notify reader =>
    if reader ∈ state.listening ∧ state.notified = none ∧ state.notifyCallback = true then
      some {state with notified := some reader}
    else none
  | .take =>
    match state.notified with
    | some reader =>
      some {state with notified := none,takes := state.takes ++ [⟨reader,state.dataReader⟩]}
    | none => none
  | .setNotifyCallback present =>
    if state.notified = none then some {state with notifyCallback := present} else none

section Property

/-- How far the life of the only data reader has come, as Fast-DDS sees it. -/
inductive Life
  | absent
  | attached (reader : Nat)
  | silent (reader : Nat)
  | closed (reader : Nat)
deriving DecidableEq

/-- No result where the calls do not follow the life of one data reader after another. -/
def live : Option Life → Call → Option Life
  | some .absent,.createDatareader reader => some (.attached reader)
  | some (.attached reader),.setListener target => if target = reader then some (.silent reader) else none
  | some (.silent reader),.close target => if target = reader then some (.closed reader) else none
  | some (.closed reader),.deleteDatareader target => if target = reader then some .absent else none
  | _,_ => none

def lifeAfter (calls : List Call) : Option Life := calls.foldl live (some .absent)

/-- One data reader at a time, created, silenced, closed and deleted in this order. -/
structure Orderly (state : ReaderState) : Prop where
  single : state.alive.length ≤ 1
  calls : lifeAfter state.calls ≠ none

/-- The listener that runs will find its own data reader under the pointer, and alive. -/
def Safe (state : ReaderState) : Prop :=
  ∀ reader, state.notified = some reader → reader ∈ state.alive ∧ state.dataReader = some reader

/-- The receiving thread no longer enters onDataAvailable. -/
def Quiet (state : ReaderState) : Prop := state.notified = none ∧ state.notifyCallback = false

end Property

@[simp] theorem lifeAfter_snoc (calls : List Call) (call : Call) :
    lifeAfter (calls ++ [call]) = live (lifeAfter calls) call := by
  simp [lifeAfter]

theorem safe_of_quiet (state : ReaderState) (quiet : state.notified = none) : Safe state := by
  intro reader notified
  rw [quiet] at notified
  cases notified

/-- A listener that waits for the return of create_datareader may still find a null pointer. -/
example : (exec step {} [.enable,.created,.notify 0,.take]).map ReaderState.takes = some [⟨0,none⟩] := rfl

theorem quiet_step (state : ReaderState) (label : Label) (next : ReaderState)
    (kept : label ≠ .setNotifyCallback true) (stepped : step state label = some next) (quiet : Quiet state) :
    Quiet next ∧ next.takes = state.takes := by
  obtain ⟨silent,cleared⟩ := quiet
  cases label with
  | notify reader =>
    simp [step,cleared] at stepped
  | take =>
    simp [step,silent] at stepped
  | setNotifyCallback present =>
    cases present with
    | true => exact absurd rfl kept
    | false =>
      simp only [step,if_pos silent] at stepped
      cases stepped
      exact ⟨⟨silent,rfl⟩,rfl⟩
  | enable | created | assign | disable | close | delete | clear =>
    simp only [step] at stepped
    split at stepped
    all_goals cases stepped
    all_goals exact ⟨⟨silent,cleared⟩,rfl⟩

/-- The destructor needs no help: it clears the notify callback before it disables, so that no
listener takes a sample while the data reader goes. -/
theorem destructor_safe (state cleared : ReaderState) (after : List Label)
    (stepped : step state (.setNotifyCallback false) = some cleared)
    (kept : ∀ label ∈ after, label ≠ .setNotifyCallback true) (final : ReaderState)
    (ran : exec step cleared after = some final) : Safe final ∧ final.takes = state.takes := by
  simp only [step] at stepped
  split at stepped
  next silent =>
    cases stepped
    have held := exec_allowed step (fun label => label ≠ .setNotifyCallback true)
      (fun later => Quiet later ∧ later.takes = state.takes)
      (fun before label next allowed moved known => by
        obtain ⟨quiet,same⟩ := quiet_step before label next allowed moved known.1
        exact ⟨quiet,same.trans known.2⟩)
      after kept _ final ran ⟨⟨silent,rfl⟩,rfl⟩
    exact ⟨safe_of_quiet final held.1.1,held.2⟩
  next => cases stepped

end Smw.FastDDSDataReader
