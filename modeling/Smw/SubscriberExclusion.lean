import Smw.Subscriber

/-! A subscriber whose constructor has returned never listens to both transports: each
callback disables one reader before it enables the other. -/
namespace Smw.SubscriberExclusion
open Foundation Foundation.Execution ServiceRegistry Subscriber

variable {own : String} {service : ServiceDescription}

def other : Reader → Reader
  | .iox => .dds
  | .dds => .iox

/-- The calls ahead are a whole callback, or its second call while the other reader is off. -/
inductive Orderly (enabled : Reader → Bool) : List Switch → Prop
  | idle : Orderly enabled []
  | whole (reader) : Orderly enabled [⟨other reader,false⟩,⟨reader,true⟩]
  | halfway (reader) (off : enabled (other reader) = false) : Orderly enabled [⟨reader,true⟩]

def Apart (enabled : Reader → Bool) : Prop := ∃ reader, enabled reader = false

structure Excluding (state : SubscriberState) : Prop where
  exclusive : ∀ todo calls, state.construction = .registering todo →
    state.delivery ≠ some (.notifying calls)
  orderly : Orderly state.enabled state.pending
  apart : state.construction.disabled .iox = true → Apart state.enabled

section Switches
variable (enabled : Reader → Bool)

theorem onServiceStatusChanged_orderly (status : ServiceStatus) :
    Orderly enabled (onServiceStatusChanged status) := by
  unfold onServiceStatusChanged
  split
  next => exact .whole .iox
  next =>
    split
    next => exact .whole .dds
    next => exact .idle

theorem immediate_orderly (registry : Registry) : Orderly enabled (immediate service registry) := by
  unfold immediate
  split
  next => exact onServiceStatusChanged_orderly enabled _
  next => exact .idle

theorem notification_orderly (registry : Registry) (changed : ServiceDescription) :
    Orderly enabled (notification service registry changed) := by
  unfold notification
  split
  next => exact onServiceStatusChanged_orderly enabled _
  next => exact .idle

theorem other_ne (reader : Reader) : other reader ≠ reader := by
  cases reader <;> decide

theorem call_orderly (switch : Switch) (todo : List Switch) (held : Orderly enabled (switch :: todo)) :
    Orderly (Function.update enabled switch.reader switch.enable) todo ∧
      Apart (Function.update enabled switch.reader switch.enable) := by
  cases held with
  | whole reader =>
    have off : Function.update enabled (other reader) false (other reader) = false :=
      Function.update_self _ _ _
    exact ⟨.halfway reader off,other reader,off⟩
  | halfway reader off =>
    refine ⟨.idle,other reader,?_⟩
    rw [Function.update_of_ne (other_ne reader)]
    exact off

theorem disable_orderly (reader : Reader) (calls : List Switch) (held : Orderly enabled calls) :
    Orderly (Function.update enabled reader false) calls := by
  cases held with
  | idle => exact .idle
  | whole ahead => exact .whole ahead
  | halfway ahead off =>
    refine .halfway ahead ?_
    by_cases same : other ahead = reader
    · rw [same]
      exact Function.update_self _ _ _
    · rw [Function.update_of_ne same]
      exact off

end Switches

section Preservation

theorem initial_excluding (registry : Registry) : Excluding {registry := registry} where
  exclusive := by
    intro todo calls running
    cases running
  orderly := .idle
  apart := by
    intro late
    cases late

/-- A step of a delivery that calls no reader. -/
theorem quiet_excluding (state next : SubscriberState) (construction : next.construction = state.construction)
    (enabled : next.enabled = state.enabled)
    (exclusive : ∀ todo calls, state.construction = .registering todo → next.delivery ≠ some (.notifying calls))
    (orderly : Orderly state.enabled next.pending) (held : Excluding state) : Excluding next where
  exclusive := by
    rw [construction]
    exact exclusive
  orderly := by
    rw [enabled]
    exact orderly
  apart := by
    rw [construction,enabled]
    exact held.apart

theorem call_excluding (state : SubscriberState) (switch : Switch) (todo : List Switch)
    (running : state.delivery = some (.notifying (switch :: todo))) (held : Excluding state) :
    Excluding {state.call switch with delivery := some (.notifying todo)} := by
  have unlocked (calls : List Switch) : state.construction ≠ .registering calls :=
    fun registering => held.exclusive _ _ registering running
  have pending : state.pending = switch :: todo := by
    rw [SubscriberState.pending_of_unlocked state unlocked,SubscriberState.notifying,running]
  have before := held.orderly
  rw [pending] at before
  obtain ⟨orderly,apart⟩ := call_orderly state.enabled switch todo before
  refine ⟨?_,?_,fun _ => apart⟩
  · intro calls _ registering
    exact absurd registering (unlocked calls)
  · have rest : SubscriberState.pending {state.call switch with delivery := some (.notifying todo)} = todo :=
      SubscriberState.pending_of_unlocked _ unlocked
    rw [rest]
    exact orderly

theorem callAtOnce_excluding (state : SubscriberState) (switch : Switch) (todo : List Switch)
    (running : state.construction = .registering (switch :: todo)) (held : Excluding state) :
    Excluding {state.call switch with construction := .registering todo} := by
  have before := held.orderly
  have pending : state.pending = switch :: todo := by simp [SubscriberState.pending,running]
  rw [pending] at before
  obtain ⟨orderly,apart⟩ := call_orderly state.enabled switch todo before
  refine ⟨?_,orderly,fun _ => apart⟩
  intro _ calls _
  exact held.exclusive _ calls running

theorem registered_excluding (state : SubscriberState) (running : state.construction = .registering [])
    (held : Excluding state) : Excluding {state with construction := .registered} := by
  have nothing : state.notifying = [] := by
    unfold SubscriberState.notifying
    split
    next calls notifying => exact absurd notifying (held.exclusive [] calls running)
    next => rfl
  refine ⟨?_,?_,?_⟩
  · intro todo calls registering
    cases registering
  · change Orderly state.enabled state.notifying
    rw [nothing]
    exact .idle
  · intro late
    cases late

theorem disable_excluding (state : SubscriberState) (reader : Reader) (pc : ConstructorPc)
    (unlocked : ∀ todo, state.construction ≠ .registering todo) (later : ∀ todo, pc ≠ .registering todo)
    (held : Excluding state) : Excluding {state.disable reader with construction := pc} := by
  refine ⟨?_,?_,?_⟩
  · intro todo calls registering
    exact absurd registering (later todo)
  · have same : SubscriberState.pending {state.disable reader with construction := pc} = state.pending := by
      rw [SubscriberState.pending_of_unlocked _ later,SubscriberState.pending_of_unlocked _ unlocked]
      rfl
    rw [same]
    exact disable_orderly state.enabled reader _ held.orderly
  · intro _
    exact ⟨reader,Function.update_self _ _ _⟩

theorem step_excluding (state next : SubscriberState) (label : Label)
    (stepped : step own service state label = some next) (held : Excluding state) : Excluding next := by
  cases step_move own service state next label stepped with
  | update discovery free =>
    refine quiet_excluding state _ rfl rfl (by simp) ?_ held
    have same : SubscriberState.pending {state with
        registry := updateRegistryFromServiceDiscovery own state.registry discovery
        delivery := some (.changed discovery.serviceDesc)} = state.pending := by
      refine SubscriberState.pending_congr _ state rfl ?_
      simp [SubscriberState.notifying,free]
    rw [same]
    exact held.orderly
  | notifyOthers changed waiting unregistered =>
    refine quiet_excluding state _ rfl rfl (by simp [unregistered]) ?_ held
    have idle : SubscriberState.pending {state with delivery := some (.notifying [])} = [] :=
      SubscriberState.pending_of_unlocked _ (by simp [unregistered])
    rw [idle]
    exact .idle
  | notify changed waiting registered unlocked =>
    refine quiet_excluding state _ rfl rfl (fun todo _ registering => absurd registering (unlocked todo)) ?_ held
    have pending : SubscriberState.pending {state with
        delivery := some (.notifying (notification service state.registry changed))} =
        notification service state.registry changed := SubscriberState.pending_of_unlocked _ unlocked
    rw [pending]
    exact notification_orderly state.enabled state.registry changed
  | call switch todo running => exact call_excluding state switch todo running held
  | delivered running =>
    refine quiet_excluding state _ rfl rfl (by simp) ?_ held
    have same : SubscriberState.pending {state with delivery := none} = state.pending := by
      refine SubscriberState.pending_congr _ state rfl ?_
      simp [SubscriberState.notifying,running]
    rw [same]
    exact held.orderly
  | register at_start unlocked =>
    refine ⟨fun _ calls _ => unlocked calls,immediate_orderly state.enabled state.registry,?_⟩
    intro late
    cases late
  | callAtOnce switch todo running => exact callAtOnce_excluding state switch todo running held
  | registered running => exact registered_excluding state running held
  | disableIox at_body => exact disable_excluding state .iox _ (by simp [at_body]) (by simp) held
  | disableDds at_body => exact disable_excluding state .dds _ (by simp [at_body]) (by simp) held

end Preservation

theorem never_both_enabled (own : String) (service : ServiceDescription) (registry : Registry)
    (labels : List Label) (final : SubscriberState)
    (ran : exec (step own service) {registry := registry} labels = some final)
    (returned : final.construction = .returned) :
    ¬ (final.enabled .iox = true ∧ final.enabled .dds = true) := by
  have held : Excluding final := exec_invariant (step own service) Excluding
    (fun state label next stepped before => step_excluding state next label stepped before)
    labels _ final ran (initial_excluding registry)
  have late : final.construction.disabled .iox = true := by
    rw [returned]
    rfl
  obtain ⟨reader,off⟩ := held.apart late
  intro both
  cases reader with
  | iox => simp [off] at both
  | dds => simp [off] at both

def knownProvider : Registry := applyAll "10.0.0.1/" [⟨0,⟨10,1,"10.0.0.1/","100"⟩⟩]

def duringCallback : List Label :=
  List.replicate 6 .construct ++ [.update ⟨2,⟨10,1,"10.0.0.1/","100"⟩⟩,.notify,.callback]

/-- A callback that has disabled the DDS reader and has still to enable the one of iceoryx. -/
theorem halfway_not_both_enabled : ∃ final,
    exec (step "10.0.0.1/" ⟨10,1⟩) {registry := knownProvider} duringCallback = some final ∧
    final.pending = [⟨.iox,true⟩] ∧ ¬ (final.enabled .iox = true ∧ final.enabled .dds = true) := by
  refine ⟨_,rfl,rfl,?_⟩
  exact never_both_enabled "10.0.0.1/" ⟨10,1⟩ knownProvider duringCallback _ rfl rfl

end Smw.SubscriberExclusion
