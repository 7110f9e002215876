import Smw.ServiceRegistry
import Smw.Foundation.Execution

/-! A subscriber and its two readers. They are switched by the callback of the subscriber,
at its registration and at every notification, and by the constructor after that. -/
namespace Smw.Subscriber
open Foundation Foundation.Execution ServiceRegistry

inductive Reader
  | iox
  | dds
deriving DecidableEq,Repr

structure Switch where
  reader : Reader
  enable : Bool
deriving DecidableEq,Repr

/-- The calls that the callback makes, in order. -/
def onServiceStatusChanged (status : ServiceStatus) : List Switch :=
  if status.hasLocalProvider then [⟨.dds,false⟩,⟨.iox,true⟩]
  else if status.hasRemoteProvider then [⟨.iox,false⟩,⟨.dds,true⟩]
  else []

theorem switches_local (status : ServiceStatus) (home : status.hasLocalProvider = true) :
    onServiceStatusChanged status = [⟨.dds,false⟩,⟨.iox,true⟩] := by
  simp [onServiceStatusChanged,home]

theorem switches_remote (status : ServiceStatus) (away : status.hasLocalProvider = false)
    (remote : status.hasRemoteProvider = true) :
    onServiceStatusChanged status = [⟨.iox,false⟩,⟨.dds,true⟩] := by
  simp [onServiceStatusChanged,away,remote]

/-- Where the constructor stands; it holds the mutex of the observers while registering. -/
inductive ConstructorPc
  | start
  | registering (todo : List Switch)
  | registered
  | ioxDisabled
  | returned
deriving DecidableEq,Repr

/-- The constructor has disabled the reader. -/
def ConstructorPc.disabled : ConstructorPc → Reader → Bool
  | .returned,_ => true
  | .ioxDisabled,.iox => true
  | _,_ => false

/-- Where a delivery stands; it holds the mutex of the observers while notifying. -/
inductive Delivery
  | changed (service : ServiceDescription)
  | notifying (todo : List Switch)
deriving DecidableEq,Repr

structure SubscriberState where
  registry : Registry
  delivery : Option Delivery := none
  construction : ConstructorPc := .start
  /-- Both readers are created enabled. -/
  enabled : Reader → Bool := fun _ => true

inductive Label
  | update (discovery : ServiceDiscovery)
  | notify
  | callback
  | construct
deriving DecidableEq

namespace SubscriberState

def call (state : SubscriberState) (switch : Switch) : SubscriberState :=
  {state with enabled := Function.update state.enabled switch.reader switch.enable}

def disable (state : SubscriberState) (reader : Reader) : SubscriberState :=
  {state with enabled := Function.update state.enabled reader false}

def notifying (state : SubscriberState) : List Switch :=
  match state.delivery with
  | some (.notifying todo) => todo
  | _ => []

/-- The calls that the callback in progress has still to make. -/
def pending (state : SubscriberState) : List Switch :=
  match state.construction with
  | .registering todo => todo
  | _ => state.notifying

theorem pending_congr (first second : SubscriberState)
    (construction : first.construction = second.construction)
    (notifying : first.notifying = second.notifying) : first.pending = second.pending := by
  unfold pending
  rw [construction,notifying]

theorem pending_of_unlocked (state : SubscriberState)
    (unlocked : ∀ todo, state.construction ≠ .registering todo) : state.pending = state.notifying := by
  unfold pending
  split
  next todo registering => exact absurd registering (unlocked todo)
  next => rfl

end SubscriberState

section Step
variable (own : String) (service : ServiceDescription)

def immediate (registry : Registry) : List Switch :=
  if (registry.find service).isSome then onServiceStatusChanged (statusOf registry service) else []

def notification (registry : Registry) (changed : ServiceDescription) : List Switch :=
  if changed = service then onServiceStatusChanged (statusOf registry service) else []

/-- A step of a delivery or of the constructor, none where a mutex is held. -/
def step (state : SubscriberState) : Label → Option SubscriberState
  | .update discovery =>
    match state.delivery with
    | none =>
      some {state with
        registry := updateRegistryFromServiceDiscovery own state.registry discovery
        delivery := some (.changed discovery.serviceDesc)}
    | some _ => none
  | .notify =>
    match state.delivery,state.construction with
    | some (.changed _),.registering _ => none
    | some (.changed _),.start => some {state with delivery := some (.notifying [])}
    | some (.changed changed),_ =>
      some {state with delivery := some (.notifying (notification service state.registry changed))}
    | _,_ => none
  | .callback =>
    match state.delivery with
    | some (.notifying (switch :: todo)) =>
      some {state.call switch with delivery := some (.notifying todo)}
    | some (.notifying []) => some {state with delivery := none}
    | _ => none
  | .construct =>
    match state.construction with
    | .start =>
      match state.delivery with
      | some (.notifying _) => none
      | _ => some {state with construction := .registering (immediate service state.registry)}
    | .registering (switch :: todo) =>
      some {state.call switch with construction := .registering todo}
    | .registering [] => some {state with construction := .registered}
    | .registered => some {state.disable .iox with construction := .ioxDisabled}
    | .ioxDisabled => some {state.disable .dds with construction := .returned}
    | .returned => none

inductive Move (state : SubscriberState) : Label → SubscriberState → Prop
  | update (discovery) (free : state.delivery = none) :
      Move state (.update discovery)
        {state with
          registry := updateRegistryFromServiceDiscovery own state.registry discovery
          delivery := some (.changed discovery.serviceDesc)}
  | notifyOthers (changed) (waiting : state.delivery = some (.changed changed))
      (unregistered : state.construction = .start) :
      Move state .notify {state with delivery := some (.notifying [])}
  | notify (changed) (waiting : state.delivery = some (.changed changed))
      (registered : state.construction ≠ .start)
      (unlocked : ∀ todo, state.construction ≠ .registering todo) :
      Move state .notify
        {state with delivery := some (.notifying (notification service state.registry changed))}
  | call (switch todo) (running : state.delivery = some (.notifying (switch :: todo))) :
      Move state .callback {state.call switch with delivery := some (.notifying todo)}
  | delivered (running : state.delivery = some (.notifying [])) :
      Move state .callback {state with delivery := none}
  | register (at_start : state.construction = .start)
      (unlocked : ∀ todo, state.delivery ≠ some (.notifying todo)) :
      Move state .construct
        {state with construction := .registering (immediate service state.registry)}
  | callAtOnce (switch todo) (running : state.construction = .registering (switch :: todo)) :
      Move state .construct {state.call switch with construction := .registering todo}
  | registered (running : state.construction = .registering []) :
      Move state .construct {state with construction := .registered}
  | disableIox (at_body : state.construction = .registered) :
      Move state .construct {state.disable .iox with construction := .ioxDisabled}
  | disableDds (at_body : state.construction = .ioxDisabled) :
      Move state .construct {state.disable .dds with construction := .returned}

theorem step_move (state next : SubscriberState) (label : Label)
    (stepped : step own service state label = some next) : Move own service state label next := by
  cases label with
  | update discovery =>
    simp only [step] at stepped
    split at stepped
    next free =>
      cases stepped
      exact .update discovery free
    next => cases stepped
  | notify =>
    simp only [step] at stepped
    split at stepped
    next => cases stepped
    next changed waiting unregistered =>
      cases stepped
      exact .notifyOthers changed waiting unregistered
    next changed waiting unlocked unregistered =>
      cases stepped
      exact .notify changed waiting unregistered unlocked
    next => cases stepped
  | callback =>
    simp only [step] at stepped
    split at stepped
    next switch todo running =>
      cases stepped
      exact .call switch todo running
    next running =>
      cases stepped
      exact .delivered running
    next => cases stepped
  | construct =>
    simp only [step] at stepped
    split at stepped
    next at_start =>
      split at stepped
      next => cases stepped
      next unlocked =>
        cases stepped
        exact .register at_start unlocked
    next switch todo running =>
      cases stepped
      exact .callAtOnce switch todo running
    next running =>
      cases stepped
      exact .registered running
    next at_body =>
      cases stepped
      exact .disableIox at_body
    next at_body =>
      cases stepped
      exact .disableDds at_body
    next => cases stepped

end Step
end Smw.Subscriber
