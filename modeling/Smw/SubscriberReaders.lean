import Smw.Subscriber

/-! Which readers of a subscriber are enabled once its constructor has returned, and how
that follows from the notifications it has had since. -/
namespace Smw.SubscriberReaders
open Foundation Foundation.Execution ServiceRegistry Subscriber

variable {own : String} {service : ServiceDescription}

section Property
variable (service : ServiceDescription)

/-- The subscriber listens where its providers are. -/
def Listens (state : SubscriberState) : Prop :=
  let status := statusOf state.registry service
  (status.hasLocalProvider = true → state.enabled .iox = true ∧ state.enabled .dds = false) ∧
  (status.hasLocalProvider = false → status.hasRemoteProvider = true →
    state.enabled .dds = true ∧ state.enabled .iox = false)

/-- In a notification the callback switches the reader, after the constructor disabled it. -/
def Renotifies (reader : Reader) (state : SubscriberState) (label : Label) : Prop :=
  label = .callback ∧ state.construction.disabled reader = true ∧
    ∃ enable todo, state.delivery = some (.notifying (⟨reader,enable⟩ :: todo))

/-- In the run the callback has switched the reader that is needed at its end since the
constructor disabled it. -/
def Renotified (own : String) (registry : Registry) (labels : List Label) (final : SubscriberState) :
    Prop :=
  let status := statusOf final.registry service
  let reached (reader : Reader) :=
    Sometime (step own service) (Renotifies reader) {registry := registry} labels
  (status.hasLocalProvider = true → reached .iox) ∧
  (status.hasLocalProvider = false → status.hasRemoteProvider = true → reached .dds)

variable (reached : Reader → Prop)

/-- A switch of the current status is still to come, or its reader stands as it says,
unless no notification has reached the reader since the constructor did. -/
def Follows (state : SubscriberState) : Prop :=
  state.pending <:+ onServiceStatusChanged (statusOf state.registry service) ∧
  ∀ switch ∈ onServiceStatusChanged (statusOf state.registry service), switch ∉ state.pending →
    reached switch.reader → state.enabled switch.reader = switch.enable

structure Tracking (state : SubscriberState) : Prop where
  exclusive : ∀ todo other, state.construction = .registering todo →
    state.delivery ≠ some (.notifying other)
  follows : state.construction ≠ .start → state.delivery ≠ some (.changed service) →
    Follows service reached state
  late : ∀ reader, reached reader → state.construction.disabled reader = true
  off : ∀ reader, state.construction.disabled reader = true → ¬ reached reader →
    state.enabled reader = false

end Property

section Switches

theorem switch_unique (status : ServiceStatus) (first second : Switch)
    (left : first ∈ onServiceStatusChanged status) (right : second ∈ onServiceStatusChanged status)
    (same : first.reader = second.reader) : first = second := by
  unfold onServiceStatusChanged at left right
  split at left
  next home =>
    rw [if_pos home] at right
    simp only [List.mem_cons,List.not_mem_nil,or_false] at left right
    rcases left with rfl | rfl <;> rcases right with rfl | rfl <;> simp_all
  next away =>
    rw [if_neg away] at right
    split at left
    next remote =>
      rw [if_pos remote] at right
      simp only [List.mem_cons,List.not_mem_nil,or_false] at left right
      rcases left with rfl | rfl <;> rcases right with rfl | rfl <;> simp_all
    next => cases left

theorem immediate_eq (registry : Registry) :
    immediate service registry = onServiceStatusChanged (statusOf registry service) := by
  unfold immediate statusOf
  cases registry.find service <;> rfl

theorem call_follows (state after : SubscriberState) (switch : Switch) (todo : List Switch)
    (pending : state.pending = switch :: todo) (rest : after.pending = todo)
    (registry : after.registry = state.registry) (enabled : after.enabled = (state.call switch).enabled)
    (before now : Reader → Prop) (only : ∀ reader, reader ≠ switch.reader → now reader → before reader)
    (held : Follows service before state) : Follows service now after := by
  obtain ⟨suffix,stands⟩ := held
  rw [pending] at suffix stands
  unfold Follows
  rw [rest,registry,enabled]
  refine ⟨(List.suffix_cons switch todo).trans suffix,?_⟩
  intro other member done reached
  by_cases same : other.reader = switch.reader
  · have current := suffix.subset (List.mem_cons_self (a := switch))
    have equal : other = switch := switch_unique _ _ _ member current same
    rw [equal]
    exact Function.update_self _ _ _
  · have unequal : other ≠ switch := fun equal => same (congrArg Switch.reader equal)
    have stood := stands other member (by simp [unequal,done]) (only other.reader same reached)
    simpa [SubscriberState.call,same] using stood

theorem disable_follows (state after : SubscriberState) (reader : Reader) (reached : Reader → Prop)
    (pending : after.pending = state.pending) (registry : after.registry = state.registry)
    (enabled : after.enabled = (state.disable reader).enabled) (unreached : ¬ reached reader)
    (held : Follows service reached state) : Follows service reached after := by
  obtain ⟨suffix,stands⟩ := held
  unfold Follows
  rw [pending,registry,enabled]
  refine ⟨suffix,?_⟩
  intro other member done reached_other
  have different : other.reader ≠ reader := by
    intro same
    exact unreached (same ▸ reached_other)
  simpa [SubscriberState.disable,different] using stands other member done reached_other

theorem starting_follows (state : SubscriberState) (reached : Reader → Prop)
    (pending : state.pending = onServiceStatusChanged (statusOf state.registry service)) :
    Follows service reached state := by
  refine ⟨pending ▸ List.suffix_refl _,?_⟩
  intro switch member done
  rw [pending] at done
  exact absurd member done

end Switches

section Preservation
variable {reached : Reader → Prop}

theorem initial_tracking (registry : Registry) :
    Tracking service (fun _ => False) {registry := registry} where
  exclusive := by
    intro todo other running
    cases running
  follows := by
    intro started
    exact absurd rfl started
  late := by
    intro reader reached
    cases reached
  off := by
    intro reader late
    cases late

theorem update_tracking (state : SubscriberState) (discovery : ServiceDiscovery)
    (free : state.delivery = none) (held : Tracking service reached state) :
    Tracking service reached {state with
      registry := updateRegistryFromServiceDiscovery own state.registry discovery
      delivery := some (.changed discovery.serviceDesc)} := by
  refine ⟨?_,?_,held.late,held.off⟩
  · intro todo other running
    simp
  · intro started undelivered
    have different : service ≠ discovery.serviceDesc := by
      intro same
      exact undelivered (by rw [same])
    have before := held.follows started (by simp [free])
    have status : statusOf (updateRegistryFromServiceDiscovery own state.registry discovery) service =
        statusOf state.registry service := by
      rw [updateRegistryFromServiceDiscovery,statusOf_insert,if_neg different]
    have pending : SubscriberState.pending {state with
        registry := updateRegistryFromServiceDiscovery own state.registry discovery
        delivery := some (.changed discovery.serviceDesc)} = state.pending := by
      refine SubscriberState.pending_congr _ state rfl ?_
      simp [SubscriberState.notifying,free]
    unfold Follows at before ⊢
    rw [pending,status]
    exact before

theorem notify_tracking (state : SubscriberState) (changed : ServiceDescription)
    (waiting : state.delivery = some (.changed changed))
    (registered : state.construction ≠ .start)
    (unlocked : ∀ todo, state.construction ≠ .registering todo) (held : Tracking service reached state) :
    Tracking service reached {state with
      delivery := some (.notifying (notification service state.registry changed))} := by
  have pending : SubscriberState.pending {state with
      delivery := some (.notifying (notification service state.registry changed))} =
      notification service state.registry changed := SubscriberState.pending_of_unlocked _ unlocked
  refine ⟨?_,?_,held.late,held.off⟩
  · intro todo other running
    exact absurd running (unlocked todo)
  · intro started undelivered
    by_cases same : changed = service
    · have current : notification service state.registry changed =
          onServiceStatusChanged (statusOf state.registry service) := if_pos same
      exact starting_follows _ reached (pending.trans current)
    · have before := held.follows registered (by simp [waiting,same])
      have nothing : state.pending = [] := by
        rw [SubscriberState.pending_of_unlocked state unlocked,SubscriberState.notifying,waiting]
      unfold Follows at before ⊢
      rw [pending,notification,if_neg same]
      rw [nothing] at before
      exact before

theorem call_tracking (state : SubscriberState) (switch : Switch) (todo : List Switch)
    (running : state.delivery = some (.notifying (switch :: todo)))
    (held : Tracking service reached state) :
    Tracking service (fun reader => reached reader ∨ Renotifies reader state .callback)
      {state.call switch with delivery := some (.notifying todo)} := by
  refine ⟨?_,?_,?_,?_⟩
  · intro todo other registering
    exact absurd running (held.exclusive _ _ registering)
  · intro started _
    have before := held.follows started (by simp [running])
    have unlocked (other : List Switch) : state.construction ≠ .registering other :=
      fun registering => held.exclusive _ _ registering running
    have pending : state.pending = switch :: todo := by
      rw [SubscriberState.pending_of_unlocked state unlocked,SubscriberState.notifying,running]
    refine call_follows state {state.call switch with delivery := some (.notifying todo)} switch todo
      pending (SubscriberState.pending_of_unlocked _ unlocked) rfl rfl reached _ ?_ before
    · intro reader different either
      rcases either with already | ⟨_,_,enable,rest,calling⟩
      · exact already
      · rw [running] at calling
        cases calling
        exact absurd rfl different
  · intro reader either
    rcases either with already | ⟨_,disabled,_⟩
    · exact held.late reader already
    · exact disabled
  · intro reader disabled unreached
    obtain ⟨never,silent⟩ := not_or.mp unreached
    have different : reader ≠ switch.reader := by
      intro same
      subst same
      exact silent ⟨rfl,disabled,switch.enable,todo,running⟩
    simpa [SubscriberState.call,different] using held.off reader disabled never

theorem delivered_tracking (state : SubscriberState) (running : state.delivery = some (.notifying []))
    (held : Tracking service reached state) :
    Tracking service reached {state with delivery := none} := by
  refine ⟨?_,?_,held.late,held.off⟩
  · intro todo other _
    simp
  · intro started _
    have before := held.follows started (by simp [running])
    have same : SubscriberState.pending {state with delivery := none} = state.pending := by
      refine SubscriberState.pending_congr _ state rfl ?_
      simp [SubscriberState.notifying,running]
    unfold Follows at before ⊢
    rw [same]
    exact before

/-- A reader is not reached before the constructor has disabled it. -/
theorem Tracking.unreached {state : SubscriberState} (held : Tracking service reached state)
    (reader : Reader) (early : state.construction.disabled reader = false) : ¬ reached reader := by
  intro already
  have late := held.late reader already
  rw [early] at late
  cases late

/-- A step of the constructor before its body. -/
theorem constructing_tracking (state next : SubscriberState) (pc : ConstructorPc)
    (construction : next.construction = pc) (early : ∀ reader, state.construction.disabled reader = false)
    (still : ∀ reader, pc.disabled reader = false)
    (exclusive : ∀ todo other, pc = .registering todo → next.delivery ≠ some (.notifying other))
    (follows : next.delivery ≠ some (.changed service) → Follows service reached next)
    (held : Tracking service reached state) : Tracking service reached next := by
  subst construction
  refine ⟨exclusive,fun _ => follows,?_,?_⟩
  · intro reader already
    exact absurd already (held.unreached reader (early reader))
  · intro reader disabled
    rw [still reader] at disabled
    cases disabled

theorem register_tracking (state : SubscriberState) (at_start : state.construction = .start)
    (unlocked : ∀ todo, state.delivery ≠ some (.notifying todo)) (held : Tracking service reached state) :
    Tracking service reached
      {state with construction := .registering (immediate service state.registry)} := by
  refine constructing_tracking state _ _ rfl ?_ ?_ ?_ ?_ held
  · intro reader
    rw [at_start]
    rfl
  · intro reader
    rfl
  · intro todo other _
    exact unlocked other
  · intro _
    exact starting_follows _ reached (immediate_eq state.registry)

theorem callAtOnce_tracking (state : SubscriberState) (switch : Switch) (todo : List Switch)
    (running : state.construction = .registering (switch :: todo))
    (held : Tracking service reached state) :
    Tracking service reached {state.call switch with construction := .registering todo} := by
  refine constructing_tracking state _ _ rfl ?_ ?_ ?_ ?_ held
  · intro reader
    rw [running]
    rfl
  · intro reader
    rfl
  · intro _ other _
    exact held.exclusive _ other running
  · intro undelivered
    have before := held.follows (by simp [running]) undelivered
    have pending : state.pending = switch :: todo := by simp [SubscriberState.pending,running]
    exact call_follows state {state.call switch with construction := .registering todo} switch todo
      pending rfl rfl rfl reached reached (fun _ _ => id) before

theorem registered_tracking (state : SubscriberState) (running : state.construction = .registering [])
    (held : Tracking service reached state) :
    Tracking service reached {state with construction := .registered} := by
  refine constructing_tracking state _ _ rfl ?_ ?_ ?_ ?_ held
  · intro reader
    rw [running]
    rfl
  · intro reader
    rfl
  · intro todo other registering
    cases registering
  · intro undelivered
    have before := held.follows (by simp [running]) undelivered
    have nothing : state.notifying = [] := by
      unfold SubscriberState.notifying
      split
      next other notifying => exact absurd notifying (held.exclusive [] other running)
      next => rfl
    have same : SubscriberState.pending {state with construction := .registered} = state.pending := by
      have idle : state.pending = [] := by simp [SubscriberState.pending,running]
      rw [idle]
      exact nothing
    unfold Follows at before ⊢
    rw [same]
    exact before

theorem disable_tracking (state : SubscriberState) (reader : Reader) (pc : ConstructorPc)
    (started : state.construction ≠ .start) (early : state.construction.disabled reader = false)
    (idle : ∀ todo, state.construction ≠ .registering todo) (later : ∀ todo, pc ≠ .registering todo)
    (disabled : ∀ other, pc.disabled other = true ↔
      other = reader ∨ state.construction.disabled other = true)
    (held : Tracking service reached state) :
    Tracking service reached {state.disable reader with construction := pc} := by
  refine ⟨?_,?_,?_,?_⟩
  · intro todo other registering
    exact absurd registering (later todo)
  · intro _ undelivered
    have before := held.follows started undelivered
    have same : SubscriberState.pending {state.disable reader with construction := pc} =
        state.pending := by
      rw [SubscriberState.pending_of_unlocked _ later,SubscriberState.pending_of_unlocked state idle]
      rfl
    exact disable_follows state {state.disable reader with construction := pc} reader reached same rfl rfl
      (held.unreached reader early) before
  · intro other already
    exact (disabled other).mpr (.inr (held.late other already))
  · intro other now unreached
    by_cases same : other = reader
    · subst same
      simp [SubscriberState.disable]
    · have before := ((disabled other).mp now).resolve_left same
      simpa [SubscriberState.disable,same] using held.off other before unreached

theorem move_tracking (state next : SubscriberState) (label : Label)
    (move : Move own service state label next) (held : Tracking service reached state) :
    Tracking service (fun reader => reached reader ∨ Renotifies reader state label) next := by
  have silent (other : label ≠ .callback ∨ state.delivery = some (.notifying [])) :
      (fun reader => reached reader ∨ Renotifies reader state label) = reached := by
    funext reader
    refine propext (or_iff_left ?_)
    intro renotifies
    obtain ⟨calls,_,enable,todo,running⟩ := renotifies
    rcases other with different | finished
    · exact different calls
    · rw [running] at finished
      cases finished
  cases move with
  | update discovery free =>
    rw [silent (.inl (by simp))]
    exact update_tracking state discovery free held
  | notifyOthers changed waiting unregistered =>
    rw [silent (.inl (by simp))]
    refine ⟨?_,?_,held.late,held.off⟩
    · intro todo other registering
      exact absurd (unregistered.symm.trans registering) ConstructorPc.noConfusion
    · intro started
      exact absurd unregistered started
  | notify changed waiting registered unlocked =>
    rw [silent (.inl (by simp))]
    exact notify_tracking state changed waiting registered unlocked held
  | call switch todo running => exact call_tracking state switch todo running held
  | delivered running =>
    rw [silent (.inr running)]
    exact delivered_tracking state running held
  | register at_start unlocked =>
    rw [silent (.inl (by simp))]
    exact register_tracking state at_start unlocked held
  | callAtOnce switch todo running =>
    rw [silent (.inl (by simp))]
    exact callAtOnce_tracking state switch todo running held
  | registered running =>
    rw [silent (.inl (by simp))]
    exact registered_tracking state running held
  | disableIox at_body =>
    rw [silent (.inl (by simp))]
    refine disable_tracking state .iox .ioxDisabled ?_ ?_ ?_ ?_ ?_ held
    · simp [at_body]
    · simp [at_body,ConstructorPc.disabled]
    · simp [at_body]
    · simp
    · intro other
      cases other <;> simp [at_body,ConstructorPc.disabled]
  | disableDds at_body =>
    rw [silent (.inl (by simp))]
    refine disable_tracking state .dds .returned ?_ ?_ ?_ ?_ ?_ held
    · simp [at_body]
    · simp [at_body,ConstructorPc.disabled]
    · simp [at_body]
    · simp
    · intro other
      cases other <;> simp [at_body,ConstructorPc.disabled]

theorem reachable_tracking (registry : Registry) (labels : List Label) (final : SubscriberState)
    (ran : exec (step own service) {registry := registry} labels = some final) :
    Tracking service (fun reader =>
      Sometime (step own service) (Renotifies reader) {registry := registry} labels) final := by
  have both := exec_history (step own service) (fun past state =>
    exec (step own service) {registry := registry} past = some state ∧
      Tracking service (fun reader =>
        Sometime (step own service) (Renotifies reader) {registry := registry} past) state)
    {registry := registry} ?_ ?_ labels final ran
  · exact both.2
  · refine ⟨rfl,?_⟩
    have never : (fun reader => Sometime (step own service) (Renotifies reader)
        {registry := registry} []) = fun _ => False := by
      funext reader
      exact eq_false (not_sometime_nil _ _ _)
    rw [never]
    exact initial_tracking registry
  · intro past state label next stepped held
    obtain ⟨reached,tracking⟩ := held
    refine ⟨(exec_snoc _ _ _ _ _).mpr ⟨state,reached,stepped⟩,?_⟩
    have moved := move_tracking state next label (step_move own service state next label stepped) tracking
    simp only [sometime_snoc _ _ _ _ _ _ reached]
    exact moved

/-- For any registry at its construction and any deliveries since, a subscriber whose
constructor has returned listens where its providers are exactly if in a notification the
callback has switched the reader that is needed after the constructor disabled it. -/
theorem listens_iff_renotified (own : String) (service : ServiceDescription) (registry : Registry)
    (labels : List Label) (final : SubscriberState)
    (ran : exec (step own service) {registry := registry} labels = some final)
    (returned : final.construction = .returned) (idle : final.delivery = none) :
    Listens service final ↔ Renotified service own registry labels final := by
  have held := reachable_tracking registry labels final ran
  have nothing : final.pending = [] := by
    simp [SubscriberState.pending,SubscriberState.notifying,returned,idle]
  obtain ⟨_,stands⟩ := held.follows (by simp [returned]) (by simp [idle])
  have off (reader : Reader)
      (never : ¬ Sometime (step own service) (Renotifies reader) {registry := registry} labels) :
      final.enabled reader = false := by
    refine held.off reader ?_ never
    rw [returned]
    rfl
  have as_said (reader : Reader) (enable : Bool)
      (member : ⟨reader,enable⟩ ∈ onServiceStatusChanged (statusOf final.registry service))
      (reached : Sometime (step own service) (Renotifies reader) {registry := registry} labels) :
      final.enabled reader = enable :=
    stands ⟨reader,enable⟩ member (by simp [nothing]) reached
  have disabled (reader : Reader)
      (member : ⟨reader,false⟩ ∈ onServiceStatusChanged (statusOf final.registry service)) :
      final.enabled reader = false := by
    by_cases reached : Sometime (step own service) (Renotifies reader) {registry := registry} labels
    · exact as_said reader false member reached
    · exact off reader reached
  have enabled_iff (reader : Reader)
      (member : ⟨reader,true⟩ ∈ onServiceStatusChanged (statusOf final.registry service)) :
      final.enabled reader = true ↔
        Sometime (step own service) (Renotifies reader) {registry := registry} labels := by
    by_cases reached : Sometime (step own service) (Renotifies reader) {registry := registry} labels
    · exact iff_of_true (as_said reader true member reached) reached
    · refine iff_of_false ?_ reached
      rw [off reader reached]
      exact Bool.false_ne_true
  unfold Listens Renotified
  apply and_congr
  · refine forall_congr' (fun home => ?_)
    have switches := switches_local _ home
    rw [enabled_iff .iox (by simp [switches]),and_iff_left (disabled .dds (by simp [switches]))]
  · refine forall_congr' (fun away => forall_congr' (fun remote => ?_))
    have switches := switches_remote _ away remote
    rw [enabled_iff .dds (by simp [switches]),and_iff_left (disabled .iox (by simp [switches]))]

def offerMessage : ServiceDiscovery := ⟨0,⟨10,1,"10.0.0.1/","100"⟩⟩

def constructed : List Label := [.construct,.construct,.construct,.construct,.construct,.construct]

def reoffered : List Label := [.update offerMessage,.notify,.callback,.callback,.callback]

theorem listens_after_offer : ∃ final, exec (step "10.0.0.1/" ⟨10,1⟩)
    {registry := applyAll "10.0.0.1/" [offerMessage]} (constructed ++ reoffered) = some final ∧
    Listens ⟨10,1⟩ final := by
  refine ⟨_,rfl,?_⟩
  refine (listens_iff_renotified "10.0.0.1/" ⟨10,1⟩ (applyAll "10.0.0.1/" [offerMessage])
    (constructed ++ reoffered) _ rfl rfl rfl).mpr ⟨?_,?_⟩
  · intro _
    -- The first call of the notification disables the other reader, the second enables this one.
    exact ⟨constructed ++ [.update offerMessage,.notify,.callback],.callback,[.callback],_,rfl,rfl,
      rfl,rfl,true,[],rfl⟩
  · intro away
    exact absurd away (by decide)

/-- A local provider that is known before the construction is not listened to after it. -/
theorem constructed_deaf : ¬ ∀ final, exec (step "10.0.0.1/" ⟨10,1⟩)
    {registry := applyAll "10.0.0.1/" [offerMessage]} constructed = some final →
    final.construction = .returned → final.delivery = none → Listens ⟨10,1⟩ final := by
  intro all
  have listens := all _ rfl rfl rfl
  have enabled := (listens.1 (by decide)).1
  revert enabled
  decide

end Preservation
end Smw.SubscriberReaders
