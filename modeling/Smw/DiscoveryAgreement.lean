import Smw.RequestThreads
import Smw.ServiceRegistry

/-! Agreement of the registries of any number of processes over a lossy ordered topic.
A process has one requesting thread and its write thread; a packet remembers which of
the two wrote it and when, only so that runs can be talked about. -/
namespace Smw.DiscoveryAgreement
open Foundation Foundation.Execution Foundation.LastWord
open PendingMessages RequestThreads ServiceDiscoveryOperation ServiceRegistry

def about : RequestPc → Option ServiceDescription
  | .idle => none
  | .written _ service => some service
  | .cleared _ service => some service

/-- The slots of a service hold what the request leaves: its announcement always, or
its stop some times; neither slot holds anything else. -/
def Settled (own : ServiceEntityInfo) (service : ServiceDescription)
    (operation : ServiceDiscoveryOperation) (pending : Pending) : Prop :=
  (operation.announces = true →
    pending.messageNeedSendAlways.find service = some (discoveryMessage own operation service) ∧
      pending.messageNeedSendSomeTimes.find service = none) ∧
  (operation.announces = false →
    pending.messageNeedSendAlways.find service = none ∧
      ∀ counted, pending.messageNeedSendSomeTimes.find service = some counted →
        counted.discoveryMessage = discoveryMessage own operation service)

def HalfCleared (service : ServiceDescription) (operation : ServiceDiscoveryOperation)
    (pending : Pending) : Prop :=
  (operation.announces = true → pending.messageNeedSendSomeTimes.find service = none) ∧
  (operation.announces = false → pending.messageNeedSendAlways.find service = none)

/-- Every message kept is about its key and from the process itself, and the loop over
the always map sends only what the map holds. -/
structure Sound (own : ServiceEntityInfo) (state : LocalState Unit) : Prop where
  always : ∀ service message, state.pending.messageNeedSendAlways.find service = some message →
    message.serviceDesc = service ∧ message.entityInfo = own
  someTimes : ∀ service counted, state.pending.messageNeedSendSomeTimes.find service = some counted →
    counted.discoveryMessage.serviceDesc = service ∧ counted.discoveryMessage.entityInfo = own
  todo : ∀ rest message, state.cycle = .sendingAlways rest → message ∈ rest →
    ∃ service, state.pending.messageNeedSendAlways.find service = some message

/-- The invariant of a process and the last request it started on a service. -/
structure Tracked (own : ServiceEntityInfo) (service : ServiceDescription)
    (last : Option ServiceDiscoveryOperation) (state : LocalState Unit) : Prop extends
    Sound own state where
  settled : about (state.request ()) ≠ some service →
    ∀ operation, last = some operation → Settled own service operation state.pending
  written : ∀ operation, state.request () = .written operation service → last = some operation
  cleared : ∀ operation, state.request () = .cleared operation service →
    last = some operation ∧ HalfCleared service operation state.pending

section Pending
variable {own : ServiceEntityInfo} {service : ServiceDescription} {operation : ServiceDiscoveryOperation}

theorem Settled.congr {before after : Pending} (held : Settled own service operation before)
    (always : after.messageNeedSendAlways.find service = before.messageNeedSendAlways.find service)
    (someTimes : after.messageNeedSendSomeTimes.find service =
      before.messageNeedSendSomeTimes.find service) : Settled own service operation after := by
  unfold Settled at held ⊢
  rw [always,someTimes]
  exact held

theorem HalfCleared.congr {before after : Pending} (held : HalfCleared service operation before)
    (always : after.messageNeedSendAlways.find service = before.messageNeedSendAlways.find service)
    (someTimes : after.messageNeedSendSomeTimes.find service =
      before.messageNeedSendSomeTimes.find service) : HalfCleared service operation after := by
  unfold HalfCleared at held ⊢
  rw [always,someTimes]
  exact held

theorem firstRegion_halfCleared (operation : ServiceDiscoveryOperation) (pending : Pending) :
    HalfCleared service operation (firstRegion operation service pending) := by
  refine ⟨?_,?_⟩
  · intro announcing
    simp [firstRegion_someTimes,announcing]
  · intro stopping
    simp [firstRegion_always,stopping]

theorem secondRegion_settled {pending : Pending} (half : HalfCleared service operation pending) :
    Settled own service operation (secondRegion own operation service pending) := by
  refine ⟨?_,?_⟩
  · intro announcing
    simpa [secondRegion_always,secondRegion_someTimes,announcing] using half.1 announcing
  · intro stopping
    refine ⟨by simpa [secondRegion_always,stopping] using half.2 stopping,?_⟩
    intro counted found
    have value : ⟨discoveryMessage own operation service,0⟩ = counted := by
      simpa [secondRegion_someTimes,stopping] using found
    rw [← value]

theorem resend_find (someTimes : SomeTimesMap) (visited service : ServiceDescription)
    (counted : DiscoveryMessageWithCounter)
    (found : (resend someTimes visited).2.find service = some counted) :
    ∃ earlier, someTimes.find service = some earlier ∧
      counted.discoveryMessage = earlier.discoveryMessage := by
  rw [resend_eq,OrderedMap.find_alter] at found
  split at found
  next same =>
    obtain ⟨earlier,before,counting⟩ := Option.bind_eq_some_iff.mp found
    subst same
    exact ⟨earlier,before,countUp_message service earlier counted counting⟩
  next => exact ⟨counted,found,rfl⟩

theorem resend_none (someTimes : SomeTimesMap) (visited service : ServiceDescription)
    (absent : someTimes.find service = none) : (resend someTimes visited).2.find service = none := by
  rw [Option.eq_none_iff_forall_ne_some]
  intro counted found
  obtain ⟨earlier,before,_⟩ := resend_find someTimes visited service counted found
  rw [absent] at before
  cases before

theorem resend_written (someTimes : SomeTimesMap) (visited : ServiceDescription)
    (message : ServiceDiscovery) (sent : message ∈ (resend someTimes visited).1) :
    ∃ counted, someTimes.find visited = some counted ∧ counted.discoveryMessage = message := by
  rw [resend_eq] at sent
  simpa using sent

section Filed
variable (holds : ServiceDescription → ServiceDiscovery → Prop) (pending : Pending)
variable (always : ∀ key message, pending.messageNeedSendAlways.find key = some message → holds key message)
variable (someTimes : ∀ key counted, pending.messageNeedSendSomeTimes.find key = some counted →
  holds key counted.discoveryMessage)
include always someTimes

/-- A region takes out messages or files that of the request, so what holds of every message
and the key it is filed under still does. -/
theorem firstRegion_filed (operation : ServiceDiscoveryOperation) (service : ServiceDescription) :
    (∀ key message, (firstRegion operation service pending).messageNeedSendAlways.find key = some message →
      holds key message) ∧
    ∀ key counted, (firstRegion operation service pending).messageNeedSendSomeTimes.find key = some counted →
      holds key counted.discoveryMessage := by
  constructor
  · intro key message found
    rw [firstRegion_always] at found
    split at found
    next => cases found
    next => exact always key message found
  · intro key counted found
    rw [firstRegion_someTimes] at found
    split at found
    next => cases found
    next => exact someTimes key counted found

theorem secondRegion_filed (own : ServiceEntityInfo) (operation : ServiceDiscoveryOperation)
    (service : ServiceDescription) (now : holds service (discoveryMessage own operation service)) :
    (∀ key message, (secondRegion own operation service pending).messageNeedSendAlways.find key = some message →
      holds key message) ∧
    ∀ key counted, (secondRegion own operation service pending).messageNeedSendSomeTimes.find key = some counted →
      holds key counted.discoveryMessage := by
  constructor
  · intro key message found
    rw [secondRegion_always] at found
    split at found
    next filed =>
      cases found
      rw [filed.2]
      exact now
    next => exact always key message found
  · intro key counted found
    rw [secondRegion_someTimes] at found
    split at found
    next filed =>
      cases found
      rw [filed.2]
      exact now
    next => exact someTimes key counted found

end Filed

end Pending

section Process
variable {own : ServiceEntityInfo} {service : ServiceDescription}
variable {state next : LocalState Unit} {label : RequestThreads.Label Unit}
variable {written : List ServiceDiscovery}

theorem sound_move (move : Move own state label next written) (sound : Sound own state) :
    Sound own next := by
  cases move with
  | write thread operation named idle => exact ⟨sound.always,sound.someTimes,sound.todo⟩
  | first thread operation named at_first free =>
    refine ⟨?_,?_,?_⟩
    · intro key message found
      rw [firstRegion_always] at found
      split at found
      · cases found
      · exact sound.always key message found
    · intro key counted found
      rw [firstRegion_someTimes] at found
      split at found
      · cases found
      · exact sound.someTimes key counted found
    · intro rest message sending member
      obtain ⟨key,found⟩ := sound.todo rest message sending member
      have announcing : operation.announces = true := by
        have free : state.cycle.holds (firstMutex operation) = false := free
        rw [sending] at free
        cases operation <;> simp_all [firstMutex,CyclePc.holds,announces]
      exact ⟨key,by simpa [firstRegion_always,announcing] using found⟩
  | second thread operation named at_second free =>
    refine ⟨?_,?_,?_⟩
    · intro key message found
      rw [secondRegion_always] at found
      split at found
      next filled =>
        cases found
        exact ⟨filled.2.symm,rfl⟩
      next => exact sound.always key message found
    · intro key counted found
      rw [secondRegion_someTimes] at found
      split at found
      next filled =>
        cases found
        exact ⟨filled.2.symm,rfl⟩
      next => exact sound.someTimes key counted found
    · intro rest message sending member
      obtain ⟨key,found⟩ := sound.todo rest message sending member
      have stopping : operation.announces = false := by
        have free : state.cycle.holds (secondMutex operation) = false := free
        rw [sending] at free
        cases operation <;> simp_all [secondMutex,CyclePc.holds,announces]
      exact ⟨key,by simpa [secondRegion_always,stopping] using found⟩
  | lockAlways at_lock =>
    refine ⟨sound.always,sound.someTimes,?_⟩
    intro rest message sending member
    cases sending
    obtain ⟨entry,inside,rfl⟩ := List.mem_map.mp member
    exact ⟨entry.1,(OrderedMap.find_eq_some_iff _ _ _).mpr inside⟩
  | sendAlways message todo at_send =>
    refine ⟨sound.always,sound.someTimes,?_⟩
    intro rest other sending member
    cases sending
    have earlier := List.mem_cons_of_mem message member
    exact sound.todo _ other at_send earlier
  | unlockAlways at_end => exact ⟨sound.always,sound.someTimes,fun _ _ sending => by cases sending⟩
  | lockSomeTimes at_lock => exact ⟨sound.always,sound.someTimes,fun _ _ sending => by cases sending⟩
  | resend visited todo at_send =>
    refine ⟨sound.always,?_,fun _ _ sending => by cases sending⟩
    intro key counted found
    obtain ⟨earlier,before,same⟩ := resend_find _ _ _ _ found
    rw [same]
    exact sound.someTimes key earlier before
  | unlockSomeTimes at_end => exact ⟨sound.always,sound.someTimes,fun _ _ sending => by cases sending⟩

theorem move_entity (move : Move own state label next written) (sound : Sound own state)
    (message : ServiceDiscovery) (member : message ∈ written) : message.entityInfo = own := by
  cases move with
  | write thread operation named idle =>
    rw [List.mem_singleton.mp member]
    rfl
  | sendAlways sent todo at_send =>
    rw [List.mem_singleton.mp member]
    obtain ⟨key,found⟩ := sound.todo _ sent at_send List.mem_cons_self
    exact (sound.always key sent found).2
  | resend visited todo at_send =>
    obtain ⟨counted,found,same⟩ := resend_written _ _ _ member
    rw [← same]
    exact (sound.someTimes visited counted found).2
  | _ => cases member

def started (service : ServiceDescription) :
    RequestThreads.Label Unit → Option ServiceDiscoveryOperation
  | .write _ operation named => if named = service then some operation else none
  | _ => none

theorem tracked_move (last : Option ServiceDiscoveryOperation)
    (move : Move own state label next written) (tracked : Tracked own service last state) :
    Tracked own service ((started service label).or last) next := by
  have sound := sound_move move tracked.toSound
  refine ⟨sound,?_,?_,?_⟩
  · cases move with
    | write thread operation named idle =>
      intro elsewhere latest word
      cases thread
      have different : named ≠ service := by
        intro same
        exact elsewhere (by simp [about,same])
      have before : last = some latest := by simpa [started,different] using word
      have outside : about (state.request ()) ≠ some service := by simp [idle,about]
      exact tracked.settled outside latest before
    | first thread operation named at_first free =>
      intro elsewhere latest word
      cases thread
      have different : service ≠ named := by
        intro same
        exact elsewhere (by simp [about,same])
      have outside : about (state.request ()) ≠ some service := by
        rw [at_first]
        simpa [about] using different.symm
      have kept := firstRegion_other operation named service state.pending different
      have before := tracked.settled outside latest word
      exact before.congr kept.1 kept.2
    | second thread operation named at_second free =>
      intro elsewhere latest word
      cases thread
      by_cases same : named = service
      · subst same
        obtain ⟨current,half⟩ := tracked.cleared operation at_second
        have equal : latest = operation := Option.some.inj (word.symm.trans current)
        rw [equal]
        exact secondRegion_settled half
      · have outside : about (state.request ()) ≠ some service := by
          rw [at_second]
          simpa [about] using same
        have kept := secondRegion_other own operation named service state.pending (Ne.symm same)
        have before := tracked.settled outside latest word
        exact before.congr kept.1 kept.2
    | resend visited todo at_send =>
      intro elsewhere latest word
      obtain ⟨announcing,stopping⟩ := tracked.settled elsewhere latest word
      refine ⟨?_,?_⟩
      · intro kind
        exact ⟨(announcing kind).1,resend_none _ _ _ (announcing kind).2⟩
      · intro kind
        refine ⟨(stopping kind).1,?_⟩
        intro counted found
        obtain ⟨earlier,before,equal⟩ := resend_find _ _ _ _ found
        rw [equal]
        exact (stopping kind).2 earlier before
    | _ => exact tracked.settled
  · cases move with
    | write thread operation named idle =>
      intro latest at_written
      cases thread
      have same : RequestPc.written operation named = .written latest service := by
        simpa using at_written
      cases same
      simp [started]
    | first thread operation named at_first free =>
      intro latest at_written
      cases thread
      simp at at_written
    | second thread operation named at_second free =>
      intro latest at_written
      cases thread
      simp at at_written
    | _ => exact tracked.written
  · cases move with
    | write thread operation named idle =>
      intro latest at_cleared
      cases thread
      simp at at_cleared
    | first thread operation named at_first free =>
      intro latest at_cleared
      cases thread
      have same : RequestPc.cleared operation named = .cleared latest service := by
        simpa using at_cleared
      cases same
      have current := tracked.written operation at_first
      exact ⟨current,firstRegion_halfCleared operation state.pending⟩
    | second thread operation named at_second free =>
      intro latest at_cleared
      cases thread
      simp at at_cleared
    | resend visited todo at_send =>
      intro latest at_cleared
      obtain ⟨current,half⟩ := tracked.cleared latest at_cleared
      exact ⟨current,fun kind => resend_none _ _ _ (half.1 kind),half.2⟩
    | _ => exact tracked.cleared

/-- After a request on a service has returned, and until the next one starts, everything
that the process writes about the service is that request again. -/
theorem move_repeats (operation : ServiceDiscoveryOperation)
    (move : Move own state label next written) (quiet : started service label = none)
    (tracked : Tracked own service (some operation) state)
    (returned : about (state.request ()) ≠ some service) :
    about (next.request ()) ≠ some service ∧
      ∀ message ∈ written, message.serviceDesc = service →
        message = discoveryMessage own operation service := by
  have settled := tracked.settled returned operation rfl
  refine ⟨?_,?_⟩
  · cases move with
    | write thread started_operation named idle =>
      cases thread
      have different : named ≠ service := by simpa [started] using quiet
      simpa [about] using different
    | first thread started_operation named at_first free =>
      cases thread
      rw [at_first] at returned
      simpa [about] using returned
    | second thread started_operation named at_second free =>
      cases thread
      simp [about]
    | _ => exact returned
  · intro message member same
    cases move with
    | write thread started_operation named idle =>
      rw [List.mem_singleton.mp member] at same
      have different : named ≠ service := by simpa [started] using quiet
      exact absurd same different
    | sendAlways sent todo at_send =>
      have equal := List.mem_singleton.mp member
      obtain ⟨key,found⟩ := tracked.todo _ sent at_send List.mem_cons_self
      have about_key := (tracked.always key sent found).1
      have key_eq : key = service := about_key.symm.trans (equal ▸ same)
      rw [key_eq] at found
      cases kind : operation.announces with
      | true =>
        rw [(settled.1 kind).1] at found
        rw [equal,← Option.some.inj found]
      | false =>
        rw [(settled.2 kind).1] at found
        cases found
    | resend visited todo at_send =>
      obtain ⟨counted,found,value⟩ := resend_written _ _ _ member
      have about_key := (tracked.someTimes visited counted found).1
      have key_eq : visited = service := about_key.symm.trans (value ▸ same)
      rw [key_eq] at found
      cases kind : operation.announces with
      | true =>
        rw [(settled.1 kind).2] at found
        cases found
      | false => exact value.symm.trans ((settled.2 kind).2 counted found)
    | _ => cases member

end Process

/-- A message on its way, with the thread that wrote it and the time of the write. -/
structure Packet where
  message : ServiceDiscovery
  fromCycle : Bool
  stamp : Nat

structure Network (P : Type) where
  process : P → LocalState Unit := fun _ => {}
  registry : P → Registry := fun _ => OrderedMap.empty
  /-- What the receiver has not yet applied of the sender's messages, oldest first. -/
  channel : P → P → List Packet := fun _ _ => []
  clock : Nat := 0

inductive Label (P : Type)
  | act (sender : P) (label : RequestThreads.Label Unit)
  | deliver (sender receiver : P)
  | lose (sender receiver : P) (index : Nat)

section Network
variable {P : Type} [DecidableEq P] (identity : P → ServiceEntityInfo)

def setChannel (channel : P → P → List Packet) (sender receiver : P) (packets : List Packet) :
    P → P → List Packet :=
  Function.update channel sender (Function.update (channel sender) receiver packets)

def packets (fromCycle : Bool) (stamp : Nat) (written : List ServiceDiscovery) : List Packet :=
  written.map (fun message => ⟨message,fromCycle,stamp⟩)

/-- A process acts and its messages enter every channel from it, a receiver applies the
oldest message of a channel, or a channel loses a message. -/
def step (net : Network P) : Label P → Option (Network P)
  | .act sender label =>
    (RequestThreads.step (identity sender) (net.process sender) label).map (fun done =>
      {net with
        process := Function.update net.process sender done.1
        channel := Function.update net.channel sender (fun receiver =>
          net.channel sender receiver ++ packets (label = .cycle) net.clock done.2)
        clock := net.clock + 1})
  | .deliver sender receiver =>
    match net.channel sender receiver with
    | [] => none
    | packet :: rest =>
      some {net with
        registry := Function.update net.registry receiver
          (updateRegistryFromServiceDiscovery (identity receiver).hostId (net.registry receiver)
            packet.message)
        channel := setChannel net.channel sender receiver rest
        clock := net.clock + 1}
  | .lose sender receiver index =>
    if index < (net.channel sender receiver).length then
      some {net with
        channel := setChannel net.channel sender receiver
          ((net.channel sender receiver).eraseIdx index)
        clock := net.clock + 1}
    else none

def requested (sender : P) (service : ServiceDescription) : Label P → Option ServiceDiscoveryOperation
  | .act actor label => if actor = sender then started service label else none
  | _ => none

/-- Every channel is ordered by the time of the writes and carries messages of its
sender only. -/
structure Channels (net : Network P) : Prop where
  process : ∀ sender, Sound (identity sender) (net.process sender)
  sender : ∀ sender receiver, ∀ packet ∈ net.channel sender receiver,
    packet.message.entityInfo = identity sender
  past : ∀ sender receiver, ∀ packet ∈ net.channel sender receiver, packet.stamp < net.clock
  ordered : ∀ sender receiver, (net.channel sender receiver).Pairwise (fun a b => a.stamp ≤ b.stamp)

theorem initial_tracked (own : ServiceEntityInfo) (service : ServiceDescription) :
    Tracked own service none {} where
  always := by
    intro key message found
    cases found
  someTimes := by
    intro key counted found
    cases found
  todo := by
    intro rest message sending member
    cases sending
  settled := by
    intro _ operation word
    cases word
  written := by
    intro operation at_written
    cases at_written
  cleared := by
    intro operation at_cleared
    cases at_cleared

omit [DecidableEq P] in
theorem Channels.with_registry {net : Network P} (channels : Channels identity net) (registry : P → Registry) :
    Channels identity {net with registry := registry} :=
  ⟨channels.process,channels.sender,channels.past,channels.ordered⟩

omit [DecidableEq P] in
theorem initial_channels : Channels identity ({} : Network P) where
  process := fun sender => (initial_tracked (identity sender) {}).toSound
  sender := by
    intro sender receiver packet member
    cases member
  past := by
    intro sender receiver packet member
    cases member
  ordered := fun _ _ => .nil

theorem setChannel_eq (channel : P → P → List Packet) (sender receiver source target : P)
    (packets : List Packet) :
    setChannel channel sender receiver packets source target =
      if source = sender ∧ target = receiver then packets else channel source target := by
  unfold setChannel
  by_cases first : source = sender
  · subst first
    by_cases second : target = receiver
    · subst second
      simp
    · simp [second]
  · simp [first]

theorem Channels.drop (net : Network P) (channels : Channels identity net) (sender receiver : P)
    (rest : List Packet) (fewer : rest.Sublist (net.channel sender receiver))
    (registry : P → Registry) :
    Channels identity {net with
      registry := registry
      channel := setChannel net.channel sender receiver rest
      clock := net.clock + 1} where
  process := channels.process
  sender := by
    intro source target packet member
    simp only [setChannel_eq] at member
    split at member
    next same =>
      rw [same.1]
      exact channels.sender sender receiver packet (fewer.mem member)
    next => exact channels.sender source target packet member
  past := by
    intro source target packet member
    simp only [setChannel_eq] at member
    split at member
    next =>
      have earlier := channels.past sender receiver packet (fewer.mem member)
      exact Nat.lt_succ_of_lt earlier
    next =>
      have earlier := channels.past source target packet member
      exact Nat.lt_succ_of_lt earlier
  ordered := by
    intro source target
    simp only [setChannel_eq]
    split
    next => exact (channels.ordered sender receiver).sublist fewer
    next => exact channels.ordered source target

theorem mem_packets (fromCycle : Bool) (stamp : Nat) (written : List ServiceDiscovery) (packet : Packet)
    (member : packet ∈ packets fromCycle stamp written) :
    packet.message ∈ written ∧ packet.stamp = stamp := by
  obtain ⟨message,inside,rfl⟩ := List.mem_map.mp member
  exact ⟨inside,rfl⟩

theorem act_channel (channel : P → P → List Packet) (actor source target : P)
    (fresh : List Packet) :
    Function.update channel actor (fun receiver => channel actor receiver ++ fresh) source target =
      if source = actor then channel source target ++ fresh else channel source target := by
  by_cases same : source = actor
  · subst same
    simp
  · simp [same]

inductive Effect (net : Network P) : Label P → Network P → Prop
  | act (actor label next written)
      (move : Move (identity actor) (net.process actor) label next written) :
      Effect net (.act actor label) {net with
        process := Function.update net.process actor next
        channel := Function.update net.channel actor (fun receiver =>
          net.channel actor receiver ++ packets (label = .cycle) net.clock written)
        clock := net.clock + 1}
  | deliver (sender receiver packet rest) (waiting : net.channel sender receiver = packet :: rest) :
      Effect net (.deliver sender receiver) {net with
        registry := Function.update net.registry receiver
          (updateRegistryFromServiceDiscovery (identity receiver).hostId (net.registry receiver)
            packet.message)
        channel := setChannel net.channel sender receiver rest
        clock := net.clock + 1}
  | lose (sender receiver index) (inside : index < (net.channel sender receiver).length) :
      Effect net (.lose sender receiver index) {net with
        channel := setChannel net.channel sender receiver
          ((net.channel sender receiver).eraseIdx index)
        clock := net.clock + 1}

theorem step_effect (net next : Network P) (label : Label P)
    (stepped : step identity net label = some next) : Effect identity net label next := by
  cases label with
  | act actor label =>
    obtain ⟨done,ran,rfl⟩ := Option.map_eq_some_iff.mp stepped
    exact .act actor label done.1 done.2 (step_move _ _ _ _ _ ran)
  | deliver sender receiver =>
    cases waiting : net.channel sender receiver with
    | nil => simp [step,waiting] at stepped
    | cons packet rest =>
      simp only [step,waiting,Option.some.injEq] at stepped
      rw [← stepped]
      exact .deliver sender receiver packet rest waiting
  | lose sender receiver index =>
    simp only [step] at stepped
    split at stepped
    next inside =>
      rw [← Option.some.inj stepped]
      exact .lose sender receiver index inside
    next => cases stepped

theorem effect_channels (net next : Network P) (label : Label P) (effect : Effect identity net label next)
    (channels : Channels identity net) : Channels identity next := by
  cases effect with
  | act actor label done written move =>
    refine ⟨?_,?_,?_,?_⟩
    · intro sender
      by_cases same : sender = actor
      · subst same
        simpa using sound_move move (channels.process sender)
      · simpa [same] using channels.process sender
    · intro source target packet member
      simp only [act_channel] at member
      split at member
      next same =>
        rcases List.mem_append.mp member with old | fresh
        · exact channels.sender source target packet old
        · have written_now := (mem_packets _ _ _ _ fresh).1
          rw [same]
          exact move_entity move (channels.process actor) _ written_now
      next => exact channels.sender source target packet member
    · intro source target packet member
      simp only [act_channel] at member
      split at member
      next =>
        rcases List.mem_append.mp member with old | fresh
        · have earlier := channels.past source target packet old
          exact Nat.lt_succ_of_lt earlier
        · have now := (mem_packets _ _ _ _ fresh).2
          rw [now]
          exact Nat.lt_succ_self _
      next =>
        have earlier := channels.past source target packet member
        exact Nat.lt_succ_of_lt earlier
    · intro source target
      simp only [act_channel]
      split
      next =>
        refine List.pairwise_append.mpr ⟨channels.ordered source target,?_,?_⟩
        · exact List.pairwise_map.mpr (List.pairwise_of_forall (fun _ _ => le_refl _))
        · intro old member new fresh
          have now := (mem_packets _ _ _ _ fresh).2
          have earlier := channels.past source target old member
          rw [now]
          exact Nat.le_of_lt earlier
      next => exact channels.ordered source target
  | deliver sender receiver packet rest waiting =>
    exact Channels.drop identity net channels sender receiver rest
      (by rw [waiting]; exact List.sublist_cons_self _ _) _
  | lose sender receiver index inside =>
    exact Channels.drop identity net channels sender receiver _ (List.eraseIdx_sublist _ _) _

theorem effect_tracked (service : ServiceDescription) (sender : P)
    (last : Option ServiceDiscoveryOperation) (net next : Network P) (label : Label P)
    (effect : Effect identity net label next)
    (tracked : Tracked (identity sender) service last (net.process sender)) :
    Tracked (identity sender) service ((requested sender service label).or last)
      (next.process sender) := by
  cases effect with
  | act actor label done written move =>
    by_cases same : actor = sender
    · subst same
      simpa [requested] using tracked_move _ move tracked
    · simpa [requested,same,Ne.symm same] using tracked
  | deliver from_process receiver packet rest waiting => exact tracked
  | lose from_process receiver index inside => exact tracked

/-- Also where steps that only change registries are mixed in. -/
theorem tracked_run {L : Type} (step : Network P → L → Option (Network P))
    (asks : L → Option ServiceDiscoveryOperation) (sender : P) (service : ServiceDescription)
    (moves : ∀ net label next, step net label = some next →
      (∃ inner, Effect identity net inner next ∧ asks label = requested sender service inner) ∨
        (asks label = none ∧ ∃ registry, next = {net with registry := registry}))
    (labels : List L) (net : Network P) (ran : exec step {} labels = some net) :
    Channels identity net ∧
      Tracked (identity sender) service (lastWord asks labels) (net.process sender) := by
  refine exec_history step (fun past net => Channels identity net ∧
    Tracked (identity sender) service (lastWord asks past) (net.process sender))
    {} ⟨initial_channels identity,initial_tracked _ _⟩ ?_ labels net ran
  intro past state label next stepped held
  rw [lastWord_snoc]
  rcases moves state label next stepped with ⟨inner,effect,same⟩ | ⟨silent,registry,rfl⟩
  · rw [same]
    exact ⟨effect_channels identity state next inner effect held.1,
      effect_tracked identity service sender _ state next inner effect held.2⟩
  · rw [silent]
    exact ⟨held.1.with_registry identity registry,held.2⟩

theorem reachable (sender : P) (service : ServiceDescription) (labels : List (Label P))
    (net : Network P) (ran : exec (step identity) {} labels = some net) :
    Channels identity net ∧ Tracked (identity sender) service
      (lastWord (requested sender service) labels) (net.process sender) :=
  tracked_run identity (step identity) (requested sender service) sender service
    (fun state label next stepped => .inl ⟨label,step_effect identity state next label stepped,rfl⟩)
    labels net ran

/-- The sender's last request on the service has returned, and whatever the sender wrote
about the service from time `since` on and is still on its way repeats that request. -/
structure Repeating (service : ServiceDescription) (operation : ServiceDiscoveryOperation)
    (sender receiver : P) (since : Nat) (net : Network P) : Prop where
  channels : Channels identity net
  tracked : Tracked (identity sender) service (some operation) (net.process sender)
  returned : about ((net.process sender).request ()) ≠ some service
  reached : since ≤ net.clock
  repeats : ∀ packet ∈ net.channel sender receiver, since ≤ packet.stamp →
    packet.message.serviceDesc = service →
    packet.message = discoveryMessage (identity sender) operation service

/-- The receiver has applied a message from that time, so only such messages are left,
and its registry says what the last request says. -/
structure Agreed (service : ServiceDescription) (operation : ServiceDiscoveryOperation)
    (sender receiver : P) (since : Nat) (net : Network P) : Prop extends
    Repeating identity service operation sender receiver since net where
  fresh : ∀ packet ∈ net.channel sender receiver, since ≤ packet.stamp
  member : identity sender ∈ (statusOf (net.registry receiver) service).entities operation.role
    (decide ((identity sender).hostId = (identity receiver).hostId)) ↔ operation.announces = true

section Steps
variable {identity} {service : ServiceDescription} {operation : ServiceDiscoveryOperation}
variable {sender receiver : P} {since : Nat} {net next : Network P} {label : Label P}

omit [DecidableEq P] in
/-- Nothing that is on its way when the request has returned was written after that. -/
theorem Repeating.start (channels : Channels identity net)
    (tracked : Tracked (identity sender) service (some operation) (net.process sender))
    (returned : about ((net.process sender).request ()) ≠ some service) :
    Repeating identity service operation sender receiver net.clock net := by
  refine ⟨channels,tracked,returned,le_refl _,?_⟩
  intro packet member late
  have earlier := channels.past sender receiver packet member
  exact absurd earlier (Nat.not_lt.mpr late)

theorem Repeating.drop (held : Repeating identity service operation sender receiver since net)
    (source target : P) (rest : List Packet) (fewer : rest.Sublist (net.channel source target))
    (registry : P → Registry) :
    Repeating identity service operation sender receiver since {net with
      registry := registry
      channel := setChannel net.channel source target rest
      clock := net.clock + 1} where
  channels := Channels.drop identity net held.channels source target rest fewer registry
  tracked := held.tracked
  returned := held.returned
  reached := Nat.le_succ_of_le held.reached
  repeats := by
    intro packet member
    simp only [setChannel_eq] at member
    split at member
    next same =>
      apply held.repeats packet
      rw [same.1,same.2]
      exact fewer.mem member
    next => exact held.repeats packet member

theorem repeating_step (quiet : requested sender service label = none)
    (effect : Effect identity net label next)
    (held : Repeating identity service operation sender receiver since net) :
    Repeating identity service operation sender receiver since next := by
  have channels := effect_channels identity net next label effect held.channels
  have tracked := effect_tracked identity service sender _ net next label effect held.tracked
  rw [quiet,Option.none_or] at tracked
  cases effect with
  | act actor label done written move =>
    by_cases same : actor = sender
    · subst same
      have silent : started service label = none := by simpa [requested] using quiet
      obtain ⟨returned,repeats⟩ := move_repeats operation move silent held.tracked held.returned
      refine ⟨channels,tracked,by simpa using returned,Nat.le_succ_of_le held.reached,?_⟩
      intro packet member since_le about_service
      simp only [act_channel,if_true] at member
      rcases List.mem_append.mp member with old | fresh
      · exact held.repeats packet old since_le about_service
      · have written_now := (mem_packets _ _ _ _ fresh).1
        exact repeats _ written_now about_service
    · refine ⟨channels,tracked,?_,Nat.le_succ_of_le held.reached,?_⟩
      · simpa [Ne.symm same] using held.returned
      · intro packet member
        simp only [act_channel,Ne.symm same,if_false] at member
        exact held.repeats packet member
  | deliver source target packet rest waiting =>
    exact held.drop source target rest (by rw [waiting]; exact List.sublist_cons_self _ _) _
  | lose source target index inside =>
    exact held.drop source target _ (List.eraseIdx_sublist _ _) _

theorem member_deliver (own : String) (entity : ServiceEntityInfo) (registry : Registry)
    (message : ServiceDiscovery) (role : Role) (onOwnHost : Bool)
    (unrelated : message.entityInfo ≠ entity ∨ message.serviceDesc ≠ service) :
    (entity ∈ (statusOf (updateRegistryFromServiceDiscovery own registry message) service).entities
      role onOwnHost) ↔ entity ∈ (statusOf registry service).entities role onOwnHost := by
  have updated := member_update own service role onOwnHost entity registry message
  have silent : wordOnSide own service role onOwnHost entity message = none := by
    unfold wordOnSide word
    rcases unrelated with other | other <;> cases message.named <;> simp [other]
  rw [silent,Option.getD_none] at updated
  exact decide_eq_decide.mp updated

theorem member_repeat (own : String) (entity : ServiceEntityInfo) (registry : Registry) :
    (entity ∈ (statusOf (updateRegistryFromServiceDiscovery own registry
        (discoveryMessage entity operation service)) service).entities operation.role
      (decide (entity.hostId = own))) ↔ operation.announces = true := by
  have updated := member_update own service operation.role (decide (entity.hostId = own)) entity registry
    (discoveryMessage entity operation service)
  have spoken : wordOnSide own service operation.role (decide (entity.hostId = own)) entity
      (discoveryMessage entity operation service) = some operation.announces := by
    simp [wordOnSide,word]
  rw [spoken,Option.getD_some] at updated
  rw [← updated,decide_eq_true_eq]

theorem fresh_effect (effect : Effect identity net label next) (reached : since ≤ net.clock)
    (fresh : ∀ packet ∈ net.channel sender receiver, since ≤ packet.stamp) :
    ∀ packet ∈ next.channel sender receiver, since ≤ packet.stamp := by
  intro packet member
  cases effect with
  | act actor label done written move =>
    simp only [act_channel] at member
    split at member
    next =>
      rcases List.mem_append.mp member with old | added
      · exact fresh packet old
      · rw [(mem_packets _ _ _ _ added).2]
        exact reached
    next => exact fresh packet member
  | deliver source target first rest waiting =>
    simp only [setChannel_eq] at member
    split at member
    next same =>
      apply fresh packet
      rw [same.1,same.2,waiting]
      exact List.mem_cons_of_mem _ member
    next => exact fresh packet member
  | lose source target index inside =>
    simp only [setChannel_eq] at member
    split at member
    next same =>
      apply fresh packet
      rw [same.1,same.2]
      exact (List.eraseIdx_sublist _ _).mem member
    next => exact fresh packet member

/-- As long as only fresh messages are left, nothing but an applied one changes the membership. -/
theorem member_effect (distinct : Function.Injective identity) (effect : Effect identity net label next)
    (held : Repeating identity service operation sender receiver since net)
    (fresh : ∀ packet ∈ net.channel sender receiver, since ≤ packet.stamp)
    (silent : ¬ (label = .deliver sender receiver ∧ ∃ packet rest, net.channel sender receiver = packet :: rest ∧
      since ≤ packet.stamp ∧ packet.message.serviceDesc = service)) (role : Role) (onOwnHost : Bool) :
    identity sender ∈ (statusOf (next.registry receiver) service).entities role onOwnHost ↔
      identity sender ∈ (statusOf (net.registry receiver) service).entities role onOwnHost := by
  cases effect with
  | act actor label done written move => exact Iff.rfl
  | lose source target index inside => exact Iff.rfl
  | deliver source target packet rest waiting =>
    by_cases here : receiver = target
    · subst here
      simp only [Function.update_self]
      have waits : packet ∈ net.channel source receiver := by rw [waiting]; exact List.mem_cons_self
      apply member_deliver
      by_cases same : source = sender
      · subst same
        right
        intro about_service
        exact silent ⟨rfl,packet,rest,waiting,fresh packet waits,about_service⟩
      · left
        rw [held.channels.sender source receiver packet waits]
        exact fun equal => same (distinct equal)
    · simp only [Function.update_of_ne here]

theorem agreed_of_deliver (held : Repeating identity service operation sender receiver since net)
    (packet : Packet) (rest : List Packet) (waiting : net.channel sender receiver = packet :: rest)
    (late : since ≤ packet.stamp) (about_service : packet.message.serviceDesc = service)
    (effect : Effect identity net (.deliver sender receiver) next) :
    Agreed identity service operation sender receiver since next := by
  have waits : packet ∈ net.channel sender receiver := by rw [waiting]; exact List.mem_cons_self
  refine ⟨repeating_step rfl effect held,?_,?_⟩
  · cases effect with
    | deliver _ _ head tail at_head =>
      have same : packet :: rest = head :: tail := waiting.symm.trans at_head
      cases same
      intro other member
      simp only [setChannel_eq,and_self,if_true] at member
      have ordered := held.channels.ordered sender receiver
      rw [waiting] at ordered
      have later := (List.pairwise_cons.mp ordered).1 other member
      exact late.trans later
  · cases effect with
    | deliver _ _ head tail at_head =>
      have same : packet :: rest = head :: tail := waiting.symm.trans at_head
      cases same
      simp only [Function.update_self]
      rw [held.repeats packet waits late about_service]
      exact member_repeat _ _ _

theorem agreed_step (distinct : Function.Injective identity)
    (quiet : requested sender service label = none) (effect : Effect identity net label next)
    (held : Agreed identity service operation sender receiver since net) :
    Agreed identity service operation sender receiver since next := by
  by_cases applies : label = .deliver sender receiver ∧ ∃ packet rest,
      net.channel sender receiver = packet :: rest ∧ since ≤ packet.stamp ∧ packet.message.serviceDesc = service
  · obtain ⟨rfl,packet,rest,waiting,late,about_service⟩ := applies
    exact agreed_of_deliver held.toRepeating packet rest waiting late about_service effect
  · have member := member_effect distinct effect held.toRepeating held.fresh applies
    exact ⟨repeating_step quiet effect held.toRepeating,fresh_effect effect held.reached held.fresh,
      (member _ _).trans held.member⟩

end Steps

/-- In the run the receiver applies a message on the service that the write thread of the
sender wrote at time `since` or later. -/
def AppliedSince (service : ServiceDescription) (sender receiver : P) (since : Nat) (start : Network P)
    (labels : List (Label P)) : Prop :=
  ∃ before after net packet rest, labels = before ++ .deliver sender receiver :: after ∧
    exec (step identity) start before = some net ∧
    net.channel sender receiver = packet :: rest ∧ packet.fromCycle = true ∧
    since ≤ packet.stamp ∧ packet.message.serviceDesc = service

theorem agreed_of_applied (distinct : Function.Injective identity)
    (before after : List (Label P)) (middle final : Network P) (sender receiver : P)
    (service : ServiceDescription) (operation : ServiceDiscoveryOperation)
    (reached : exec (step identity) {} before = some middle)
    (last : lastWord (requested sender service) before = some operation)
    (returned : about ((middle.process sender).request ()) ≠ some service)
    (quiet : ∀ label ∈ after, requested sender service label = none)
    (applied : AppliedSince identity service sender receiver middle.clock middle after)
    (ran : exec (step identity) middle after = some final) :
    Agreed identity service operation sender receiver middle.clock final := by
  obtain ⟨channels,tracked⟩ := reachable identity sender service before middle reached
  rw [last] at tracked
  have start : Repeating identity service operation sender receiver middle.clock middle :=
    .start channels tracked returned
  obtain ⟨first,second,net,packet,rest,split,ran_first,waiting,_,late,about_service⟩ := applied
  subst split
  obtain ⟨net',ran_first',ran_rest⟩ := (exec_append _ _ _ _ _).mp ran
  cases Option.some.inj (ran_first.symm.trans ran_first')
  obtain ⟨delivered,stepped,ran_second⟩ := (exec_cons _ _ _ _ _).mp ran_rest
  have repeating : Repeating identity service operation sender receiver middle.clock net :=
    exec_allowed (step identity) (fun label => requested sender service label = none) _
      (fun state label next silent ran held => repeating_step silent
        (step_effect identity state next label ran) held)
      first (fun label member => quiet label (by simp [member])) middle net ran_first start
  have agreed := agreed_of_deliver repeating packet rest waiting late about_service
    (step_effect identity net delivered _ stepped)
  exact exec_allowed (step identity) (fun label => requested sender service label = none) _
    (fun state label next silent ran held => agreed_step distinct silent
      (step_effect identity state next label ran) held)
    second (fun label member => quiet label (by simp [member])) delivered final ran_second agreed

/-- Discovery agreement. In `middle` the last request of the sender on the service has
returned; the run goes on without another one, and the receiver applies a message on the
service that the write thread of the sender wrote after that. From then on the receiver
holds the sender's entity in the role of the request exactly if the request announced it. -/
theorem discovery_agreement (distinct : Function.Injective identity)
    (before after : List (Label P)) (middle final : Network P) (sender receiver : P)
    (service : ServiceDescription) (operation : ServiceDiscoveryOperation)
    (reached : exec (step identity) {} before = some middle)
    (last : lastWord (requested sender service) before = some operation)
    (returned : about ((middle.process sender).request ()) ≠ some service)
    (quiet : ∀ label ∈ after, requested sender service label = none)
    (applied : AppliedSince identity service sender receiver middle.clock middle after)
    (ran : exec (step identity) middle after = some final) :
    identity sender ∈ (statusOf (final.registry receiver) service).entities operation.role
      (decide ((identity sender).hostId = (identity receiver).hostId)) ↔ operation.announces = true :=
  (agreed_of_applied identity distinct before after middle final sender receiver service operation reached
    last returned quiet applied ran).member

end Network

def twoHosts : Bool → ServiceEntityInfo
  | true => ⟨"10.0.0.1/","100"⟩
  | false => ⟨"10.0.0.2/","200"⟩

def offerRequest : List (Label Bool) :=
  [.act true (.write () .offer ⟨10,1⟩),.act true (.first ()),.act true (.second ())]

def announceAndApply : List (Label Bool) :=
  [.act true .cycle,.act true .cycle,.deliver true false,.deliver true false]

/-- A process offers a service and a process on another host learns of it. -/
theorem discovery_agreement_across_hosts :
    ∃ middle final, exec (step twoHosts) {} offerRequest = some middle ∧
      exec (step twoHosts) middle announceAndApply = some final ∧
      twoHosts true ∈ (statusOf (final.registry false) ⟨10,1⟩).remoteProviders := by
  refine ⟨_,_,rfl,rfl,?_⟩
  refine (discovery_agreement twoHosts ?_ offerRequest announceAndApply _ _ true false ⟨10,1⟩ .offer
    rfl rfl ?_ ?_ ?_ rfl).mpr rfl
  · intro p q same
    cases p <;> cases q <;> simp_all [twoHosts]
  · decide
  · decide
  · exact ⟨[.act true .cycle,.act true .cycle,.deliver true false],[],_,_,_,rfl,rfl,rfl,rfl,
      by decide,rfl⟩

end Smw.DiscoveryAgreement
