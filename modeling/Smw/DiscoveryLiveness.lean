import Smw.DiscoveryConvergence
import Smw.Foundation.Fairness
import Mathlib.Data.Prod.Lex
import Mathlib.Data.Set.Finite.Lattice
import Mathlib.Data.Finite.Prod

/-! That discovery comes about, and not only that it is right where it has: a write thread that
keeps running announces its last request without end, and a link that does not lose
everything then brings the announcement to the other registries. -/
namespace Smw.DiscoveryLiveness
open Foundation Foundation.Execution Foundation.LastWord
open PendingMessages ServiceDiscoveryOperation ServiceRegistry DiscoveryAgreement DiscoveryConvergence
open RequestThreads (LocalState Move CyclePc cycleStep)

section Announcing

/-- How far the write thread is from sending a message that stays in its always map. -/
def distance (message : ServiceDiscovery) : CyclePc → Nat ×ₗ Nat
  | .sendingAlways todo => toLex (if message ∈ todo then 0 else 4,todo.length)
  | .beforeAlways => toLex (1,0)
  | .sendingSomeTimes todo => toLex (2,todo.length)
  | .beforeSomeTimes => toLex (3,0)

def AtSend (message : ServiceDiscovery) (cycle : CyclePc) : Prop :=
  ∃ todo, cycle = .sendingAlways (message :: todo)

theorem cycle_nearer (message : ServiceDiscovery) (state : LocalState Unit)
    (kept : message ∈ sendAlwaysMessage state.pending.messageNeedSendAlways)
    (elsewhere : ¬ AtSend message state.cycle) :
    distance message (cycleStep state).1.cycle < distance message state.cycle := by
  unfold cycleStep
  split
  next at_lock => simp [distance,at_lock,kept,Prod.Lex.toLex_lt_toLex]
  next sent todo at_send =>
    have other : message ≠ sent := fun same => elsewhere ⟨todo,by rw [at_send,same]⟩
    simp [distance,at_send,other,Prod.Lex.toLex_lt_toLex]
  next at_end => simp [distance,at_end,Prod.Lex.toLex_lt_toLex]
  next at_lock => simp [distance,at_lock,Prod.Lex.toLex_lt_toLex]
  next visited todo at_send => simp [distance,at_send,Prod.Lex.toLex_lt_toLex]
  next at_end => simp [distance,at_end,Prod.Lex.toLex_lt_toLex]

end Announcing

section Links
variable {P : Type} [DecidableEq P] {identity : P → ServiceEntityInfo}

def Sends (identity : P → ServiceEntityInfo) (sender : P) (message : ServiceDiscovery) (net : Network P)
    (label : Label P) : Prop :=
  ∃ action next written, label = .act sender action ∧
    RequestThreads.step (identity sender) (net.process sender) action = some (next,written) ∧ message ∈ written

def Delivers (sender receiver : P) (message : ServiceDiscovery) (net : Network P) (label : Label P) : Prop :=
  label = .deliver sender receiver ∧
    ∃ packet rest, net.channel sender receiver = packet :: rest ∧ packet.message = message

/-- The link may lose any number of messages, but what is sent over it again and again is
delivered again and again. -/
def FairLossy (run : Run (step identity)) (sender receiver : P) : Prop :=
  ∀ message, (∀ start, run.Takes (Sends identity sender message) start) →
    ∀ start, run.Takes (Delivers sender receiver message) start

/-- At the moment `start` the last request of a process on a service has returned, and no
other one follows. -/
structure Ended (run : Run (step identity)) (service : ServiceDescription) (p : P)
    (last : Option ServiceDiscoveryOperation) (start : Nat) : Prop where
  lasts : lastWord (requested p service) (run.past start) = last
  returned : about (((run.state start).process p).request ()) ≠ some service
  quiet : ∀ time ≥ start, ∀ label, run.label time = some label → requested p service label = none

variable {service : ServiceDescription} {operation : ServiceDiscoveryOperation} {sender receiver : P}
variable {since : Nat} {net next : Network P} {label : Label P}

theorem step_cycle (stepped : step identity net label = some next) :
    (label = .act sender .cycle ∧ next.process sender = (cycleStep (net.process sender)).1) ∨
      (label ≠ .act sender .cycle ∧ (next.process sender).cycle = (net.process sender).cycle) := by
  by_cases cycles : label = .act sender .cycle
  · subst cycles
    simp only [step,RequestThreads.step,Option.map_some,Option.some.injEq] at stepped
    rw [← stepped]
    exact .inl ⟨rfl,Function.update_self _ _ _⟩
  · refine .inr ⟨cycles,?_⟩
    cases step_effect identity net next label stepped with
    | act actor action done written move =>
      simp only [Function.update_apply]
      split
      next same =>
        subst same
        have others : action ≠ .cycle := fun cycling => cycles (by rw [cycling])
        exact RequestThreads.move_cycle _ _ _ action written move others
      next => rfl
    | deliver => rfl
    | lose => rfl

omit [DecidableEq P] in
theorem announced_always (announces : operation.announces = true)
    (held : Repeating identity service operation sender receiver since net) :
    discoveryMessage (identity sender) operation service ∈
      sendAlwaysMessage (net.process sender).pending.messageNeedSendAlways := by
  have settled := held.tracked.settled held.returned operation rfl
  have found := (settled.1 announces).1
  exact List.mem_map.mpr ⟨_,(OrderedMap.find_eq_some_iff _ _ _).mp found,rfl⟩

omit [DecidableEq P] in
theorem sends_of_atSend (message : ServiceDiscovery) (at_send : AtSend message (net.process sender).cycle) :
    Sends identity sender message net (.act sender .cycle) := by
  obtain ⟨todo,sending⟩ := at_send
  have sent : cycleStep (net.process sender) =
      ({net.process sender with cycle := .sendingAlways todo},[message]) := by
    simp only [cycleStep,sending]
  exact ⟨.cycle,_,[message],rfl,congrArg some sent,List.mem_singleton_self message⟩

/-- The write thread sends the announcement again and again. -/
theorem announced_often (run : Run (step identity)) (start : Nat) (announces : operation.announces = true)
    (held : ∀ time ≥ start, Repeating identity service operation sender receiver since (run.state time))
    (cycle_fair : run.Fair (fun label => label = .act sender .cycle)) (moment : Nat) :
    run.Takes (Sends identity sender (discoveryMessage (identity sender) operation service)) moment := by
  let message := discoveryMessage (identity sender) operation service
  have sends : run.Takes (fun net label => label = .act sender .cycle ∧
      AtSend message (net.process sender).cycle) (max moment start) := by
    refine run.takes_of_rank (fun net => Repeating identity service operation sender receiver since net)
      (fun _ label => label = .act sender .cycle) _ (fun net => distance message (net.process sender).cycle)
      ?_ ?_ _ (fun time later => held time (by omega)) ?_
    · intro net label next stepped repeating missed
      rcases @step_cycle P _ identity sender net next label stepped with ⟨cycles,same⟩ | ⟨_,same⟩
      · rw [same]
        exact (cycle_nearer message _ (announced_always announces repeating)
          (fun at_send => missed ⟨cycles,at_send⟩)).le
      · rw [same]
    · intro net label next stepped repeating cycles missed
      rcases @step_cycle P _ identity sender net next label stepped with ⟨_,same⟩ | ⟨other,_⟩
      · rw [same]
        exact cycle_nearer message _ (announced_always announces repeating)
          (fun at_send => missed ⟨cycles,at_send⟩)
      · exact absurd cycles other
    · intro time _
      exact cycle_fair time (fun _ _ => ⟨_,rfl,by simp [step,RequestThreads.step]⟩)
  obtain ⟨time,later,label,labelled,cycles,at_send⟩ := sends
  subst cycles
  exact ⟨time,by omega,_,labelled,sends_of_atSend message at_send⟩

/-- The messages on the way that were written before the moment `since`. -/
def stale (sender receiver : P) (since : Nat) (net : Network P) : Nat :=
  (net.channel sender receiver).countP (fun packet => packet.stamp < since)

theorem stale_step (reached : since ≤ net.clock) (stepped : step identity net label = some next) :
    stale sender receiver since next ≤ stale sender receiver since net := by
  have effect := step_effect identity net next label stepped
  cases effect with
  | act actor label done written move =>
    simp only [stale,act_channel]
    split
    next =>
      have new : (packets (label = .cycle) net.clock written).countP (fun packet => packet.stamp < since) = 0 := by
        rw [List.countP_eq_zero]
        intro packet member
        rw [(mem_packets _ _ _ _ member).2]
        simpa using reached
      rw [List.countP_append,new]
      exact le_refl _
    next => exact le_refl _
  | deliver source target packet rest waiting =>
    simp only [stale,setChannel_eq]
    split
    next same =>
      rw [same.1,same.2,waiting]
      exact (List.sublist_cons_self packet rest).countP_le
    next => exact le_refl _
  | lose source target index inside =>
    simp only [stale,setChannel_eq]
    split
    next same =>
      rw [same.1,same.2]
      exact (List.eraseIdx_sublist _ _).countP_le
    next => exact le_refl _

theorem stale_deliver (packet : Packet) (rest : List Packet)
    (waiting : net.channel sender receiver = packet :: rest) (old : packet.stamp < since)
    (stepped : step identity net (.deliver sender receiver) = some next) :
    stale sender receiver since next < stale sender receiver since net := by
  have effect := step_effect identity net next _ stepped
  cases effect with
  | deliver _ _ head tail at_head =>
    simp only [stale,setChannel_eq,and_self,if_true]
    rw [waiting] at at_head ⊢
    cases at_head
    simp [old]

/-- Only finitely many messages are on the way at any moment, so a link that delivers
without end comes to those written later. -/
theorem fresh_delivered (run : Run (step identity)) (start : Nat) (message : ServiceDiscovery)
    (held : ∀ time ≥ start, Repeating identity service operation sender receiver since (run.state time))
    (often : ∀ moment, run.Takes (Delivers sender receiver message) moment) :
    run.Takes (fun net label => label = .deliver sender receiver ∧
      ∃ packet rest, net.channel sender receiver = packet :: rest ∧ packet.message = message ∧
        since ≤ packet.stamp) start := by
  refine run.takes_of_rank (fun net => Repeating identity service operation sender receiver since net)
    (Delivers sender receiver message) _ (stale sender receiver since) ?_ ?_ start held (fun time _ => often time)
  · intro net label next stepped repeating _
    exact stale_step repeating.reached stepped
  · intro net label next stepped repeating delivers missed
    obtain ⟨same,packet,rest,waiting,about_message⟩ := delivers
    subst same
    have old : packet.stamp < since := by
      by_contra late
      exact missed ⟨rfl,packet,rest,waiting,about_message,Nat.le_of_not_lt late⟩
    exact stale_deliver packet rest waiting old stepped

theorem Ended.repeating (run : Run (step identity)) (initial : run.state 0 = {}) (start : Nat)
    (ended : Ended run service sender (some operation) start) (receiver : P) :
    ∀ time ≥ start, Repeating identity service operation sender receiver (run.state start).clock
      (run.state time) := by
  have ran := run.exec_past start
  rw [initial] at ran
  obtain ⟨channels,tracked⟩ := reachable identity sender service _ _ ran
  rw [ended.lasts] at tracked
  refine run.invariant (fun label => requested sender service label = none) _ ?_ start ended.quiet
    (.start channels tracked ended.returned)
  intro net label next quiet stepped held
  exact repeating_step quiet (step_effect identity net next label stepped) held

theorem eventually_agreed (distinct : Function.Injective identity) (run : Run (step identity))
    (initial : run.state 0 = {}) (start : Nat) (announces : operation.announces = true)
    (ended : Ended run service sender (some operation) start)
    (cycle_fair : run.Fair (fun label => label = .act sender .cycle))
    (link_fair : FairLossy run sender receiver) :
    ∃ time ≥ start, ∀ later ≥ time,
      Agreed identity service operation sender receiver (run.state start).clock (run.state later) := by
  have held := ended.repeating run initial start receiver
  have often := link_fair _ (announced_often run start announces held cycle_fair)
  obtain ⟨time,later,label,labelled,same,packet,rest,waiting,message,late⟩ :=
    fresh_delivered run start _ held often
  subst same
  have stepped := run.step_of_label time _ labelled
  have about_service : packet.message.serviceDesc = service := by
    rw [message]
    exact discoveryMessage_serviceDesc _ _ _
  have agreed := agreed_of_deliver (held time later) packet rest waiting late about_service
    (step_effect identity _ _ _ stepped)
  refine ⟨time + 1,by omega,?_⟩
  refine run.invariant (fun label => requested sender service label = none) _ ?_ (time + 1)
    (fun moment after => ended.quiet moment (by omega)) agreed
  intro net label next quiet stepped held
  exact agreed_step distinct quiet (step_effect identity net next label stepped) held

/-- Where the last request of a process on a service announced it, the process is in the end
registered at every receiver that its write thread has a fair link to, and stays so,
whatever else is asked for and however many messages are lost. -/
theorem eventually_registered (distinct : Function.Injective identity) (run : Run (step identity))
    (initial : run.state 0 = {}) (start : Nat) (announces : operation.announces = true)
    (ended : Ended run service sender (some operation) start)
    (cycle_fair : run.Fair (fun label => label = .act sender .cycle))
    (link_fair : FairLossy run sender receiver) :
    ∃ time ≥ start, ∀ later ≥ time,
      identity sender ∈ (statusOf ((run.state later).registry receiver) service).entities operation.role
        (decide ((identity sender).hostId = (identity receiver).hostId)) := by
  obtain ⟨time,after,agreed⟩ := eventually_agreed distinct run initial start announces ended cycle_fair link_fair
  exact ⟨time,after,fun later passed => (agreed later passed).member.mpr announces⟩

end Links

section System
variable {P S T : Type} [DecidableEq P] [Inhabited T] (system : EndToEnd.System P S)
variable (service : ServiceDescription) (last : P → Option ServiceDiscoveryOperation)

/-- The requests on a service have come to an end, each process asking in one role, and what
each that asked at all asked last is still announced. -/
structure Announced (run : Run (step system.identity)) (start : Nat) : Prop where
  initial : run.state 0 = {}
  ended : ∀ p, Ended run service p (last p) start
  announcing : ∀ p operation, last p = some operation → operation.announces = true
  one_role : ∀ p operation, last p = some operation → ∀ label ∈ run.past start, ∀ other,
    requested p service label = some other → other.role = operation.role
  cycles : ∀ p, run.Fair (fun label => label = .act p .cycle)
  links : ∀ sender receiver, FairLossy run sender receiver

variable {system service last} {run : Run (step system.identity)} {start : Nat}

theorem Announced.asked_role (announced : Announced system service last run start) (time : Nat) (p : P)
    (operation : ServiceDiscoveryOperation) (asked : askedIn (run.past time) p operation service) :
    ∃ spoken, last p = some spoken ∧ spoken.role = operation.role := by
  obtain ⟨label,member,requests⟩ := asked
  obtain ⟨moment,_,labelled⟩ := (run.mem_past time label).mp member
  have ended := announced.ended p
  by_cases early : moment < start
  · have before : label ∈ run.past start := (run.mem_past start label).mpr ⟨moment,early,labelled⟩
    cases spoke : last p with
    | none =>
      have silent := (lastWord_eq_none_iff _ _).mp (ended.lasts.trans spoke) label before
      rw [requests] at silent
      cases silent
    | some spoken => exact ⟨spoken,rfl,(announced.one_role p spoken spoke label before operation requests).symm⟩
  · have silent := ended.quiet moment (Nat.le_of_not_lt early) label labelled
    rw [requests] at silent
    cases silent

/-- With finitely many processes there is a moment from which all of them agree. -/
theorem Announced.agreed [Finite P] (announced : Announced system service last run start)
    (distinct : Function.Injective system.identity) :
    ∃ time ≥ start, ∀ later ≥ time, ∀ sender receiver operation, last sender = some operation →
      Agreed system.identity service operation sender receiver (run.state start).clock (run.state later) := by
  have pairs (pair : P × P) : ∃ time, ∀ later ≥ time, ∀ operation, last pair.1 = some operation →
      Agreed system.identity service operation pair.1 pair.2 (run.state start).clock (run.state later) := by
    cases spoke : last pair.1 with
    | none => exact ⟨0,fun _ _ operation said => by cases said⟩
    | some spoken =>
      have ended := announced.ended pair.1
      rw [spoke] at ended
      obtain ⟨time,_,agreed⟩ := eventually_agreed distinct run announced.initial start
        (announced.announcing pair.1 spoken spoke) ended (announced.cycles pair.1) (announced.links pair.1 pair.2)
      refine ⟨time,?_⟩
      intro later passed operation said
      cases said
      exact agreed later passed
  choose time agreed using pairs
  obtain ⟨bound,below⟩ := (Set.finite_range time).bddAbove
  refine ⟨max bound start,by omega,?_⟩
  intro later passed sender receiver operation said
  have within : time (sender,receiver) ≤ bound := below ⟨(sender,receiver),rfl⟩
  exact agreed (sender,receiver) later (by omega) operation said

/-- In the end all registries are right, and from then on every value published goes to each
subscriber exactly once, if it is on the host of the provider or its own host has none, and
otherwise not to it. -/
theorem eventually_delivered [Finite P] (announced : Announced system service last run start)
    (distinct : Function.Injective system.identity)
    (roles : ∀ role p, system.uses role p = decide (last p = some (announcement role))) :
    ∃ time ≥ start, ∀ later ≥ time, EndToEnd.Converged system service (run.state later).registry ∧
      ∀ (previous : S → Subscriber.Reader → Bool) (type : IceoryxWriter.DataType T)
        (calls : List (EndToEnd.PublishCall P T)) (traffic done : EndToEnd.Traffic P S T),
        (∀ call ∈ calls, IceoryxWriter.Transportable type call.value) →
        exec (EndToEnd.step system service (run.state later).registry (fun subscriber =>
          EndToEnd.readersAfter (statusOf ((run.state later).registry (system.home subscriber)) service)
            (previous subscriber)) type) traffic calls = some done →
        ∀ subscriber, done.handed subscriber = traffic.handed subscriber ++
          open Classical in (calls.filter (fun call => EndToEnd.Reaches system subscriber call.provider)).map
            EndToEnd.PublishCall.value := by
  obtain ⟨time,after,agreed⟩ := announced.agreed distinct
  refine ⟨time,after,?_⟩
  intro later passed
  have ran := run.exec_past later
  rw [announced.initial] at ran
  have honest := honest_run (run.past later) (permitted_askedIn (run.past later)) _ ran
  have converged := converged_of_agreed system (askedIn (run.past later)) (run.state later) _ honest
    (fun p operation asked => announced.asked_role later p operation asked) (agreed later passed) roles
  refine ⟨converged,?_⟩
  intro previous type calls traffic done transportable published subscriber
  exact EndToEnd.handed_of_converged converged previous type calls transportable traffic done published subscriber

end System

section TwoHosts

def announcementOf (p : Bool) : ServiceDiscovery :=
  discoveryMessage (twoHosts p) (if p then .offer else .find) ⟨10,1⟩

def bothApplied (p : Bool) (registry : Registry) : Registry :=
  updateRegistryFromServiceDiscovery (twoHosts p).hostId
    (updateRegistryFromServiceDiscovery (twoHosts p).hostId registry (announcementOf true)) (announcementOf false)

/-- Both write threads are about to leave their always map, and both registries are right. -/
def settled (clock : Nat) : Network Bool where
  process p := {
    pending := {messageNeedSendAlways := OrderedMap.empty.insert ⟨10,1⟩ (announcementOf p)}
    cycle := .sendingAlways []}
  registry p := bothApplied p OrderedMap.empty
  clock := clock

/-- A turn of both write threads, and what they write applied. -/
def turn : List (Label Bool) :=
  List.replicate 5 (.act true .cycle) ++ List.replicate 5 (.act false .cycle) ++
    [.deliver true true,.deliver true false,.deliver false true,.deliver false false]

theorem network_ext (first second : Network Bool) (process : ∀ p, first.process p = second.process p)
    (registry : ∀ p, first.registry p = second.registry p)
    (channel : ∀ p q, first.channel p q = second.channel p q) (clock : first.clock = second.clock) :
    first = second := by
  cases first
  cases second
  simp only [Network.mk.injEq]
  exact ⟨funext process,funext registry,funext (fun p => funext (channel p)),clock⟩

theorem bothApplied_again (p : Bool) :
    bothApplied p (bothApplied p OrderedMap.empty) = bothApplied p OrderedMap.empty := by
  cases p <;> rfl

theorem settled_reached : exec (step twoHosts) {} (requests ++ announcementsApplied) = some (settled 18) := by
  obtain ⟨net,ran,same⟩ : ∃ net, exec (step twoHosts) {} (requests ++ announcementsApplied) = some net ∧
      net = settled 18 := by
    refine ⟨_,rfl,network_ext _ _ ?_ ?_ ?_ rfl⟩
    · intro p
      cases p <;> rfl
    · intro p
      cases p <;> rfl
    · intro p q
      cases p <;> cases q <;> rfl
  rw [ran,same]

theorem settled_turn (clock : Nat) : exec (step twoHosts) (settled clock) turn = some (settled (clock + 14)) := by
  obtain ⟨net,ran,same⟩ : ∃ net, exec (step twoHosts) (settled clock) turn = some net ∧
      net = settled (clock + 14) := by
    refine ⟨_,rfl,network_ext _ _ ?_ ?_ ?_ rfl⟩
    · intro p
      cases p <;> rfl
    · intro p
      refine Eq.trans ?_ (bothApplied_again p)
      cases p <;> rfl
    · intro p q
      cases p <;> cases q <;> rfl
  rw [ran,same]

theorem turns_on (count : Nat) :
    exec (step twoHosts) (settled (18 + 14 * count)) turn = some (settled (18 + 14 * (count + 1))) := by
  rw [Nat.mul_succ,← Nat.add_assoc]
  exact settled_turn (18 + 14 * count)

def turning : Run (step twoHosts) :=
  Run.repeated turn (fun count => settled (18 + 14 * count)) (by decide) turns_on

theorem turning_start :
    exec (step twoHosts) {} (requests ++ announcementsApplied) = some (turning.state 0) := by
  unfold turning
  rw [Run.repeated_start]
  exact settled_reached

/-- Two hosts that ask once and then announce for ever. -/
def announcing : Run (step twoHosts) := turning.precede {} (requests ++ announcementsApplied) turning_start

theorem announcing_initial : announcing.state 0 = {} :=
  (turning.precede_before {} _ turning_start 0 (by decide)).1

theorem announcing_settled : announcing.state 18 = settled 18 := by
  have after := (turning.precede_after {} _ turning_start 0).1
  exact after.trans (Run.repeated_start turn (fun count => settled (18 + 14 * count)) _ turns_on)

theorem announcing_past : announcing.past 18 = requests ++ announcementsApplied :=
  turning.precede_past {} _ turning_start 18 (by decide)

theorem announcing_label (time : Nat) (label : Label Bool) (labelled : announcing.label time = some label) :
    (time < 18 ∧ label ∈ requests ++ announcementsApplied) ∨ label ∈ turn := by
  by_cases early : time < 18
  · rw [announcing,(turning.precede_before {} _ turning_start time early).2] at labelled
    exact .inl ⟨early,List.mem_of_getElem? labelled⟩
  · obtain ⟨later,rfl⟩ : ∃ later, time = later + 18 := ⟨time - 18,by omega⟩
    have shifted := (turning.precede_after {} _ turning_start later).2
    have same : turning.label later = some label := shifted.symm.trans labelled
    exact .inr (List.mem_of_getElem? same)

def askedOnce (p : Bool) (operation : ServiceDiscoveryOperation) (service : ServiceDescription) : Prop :=
  operation = (if p then .offer else .find) ∧ service = ⟨10,1⟩

theorem announcing_permitted (time : Nat) (label : Label Bool) (labelled : announcing.label time = some label) :
    Permitted askedOnce label := by
  have every : ∀ label ∈ requests ++ announcementsApplied ++ turn, Permitted askedOnce label := by
    simp [requests,announcementsApplied,turn,Permitted,askedOnce]
  rcases announcing_label time label labelled with ⟨_,member⟩ | member
  · exact every label (List.mem_append_left _ member)
  · exact every label (List.mem_append_right _ member)

theorem announcing_sends (time : Nat) (label : Label Bool) (labelled : announcing.label time = some label)
    (sender : Bool) (message : ServiceDiscovery)
    (sends : Sends twoHosts sender message (announcing.state time) label) : message = announcementOf sender := by
  obtain ⟨action,next,written,same,stepped,member⟩ := sends
  subst same
  have ran := announcing.exec_past time
  rw [announcing_initial] at ran
  have honest := honest_run (announcing.past time) (fun label inside => by
    obtain ⟨moment,_,earlier⟩ := (announcing.mem_past time label).mp inside
    exact announcing_permitted moment label earlier) _ ran
  obtain ⟨operation,service,was,same⟩ := faithful_written (RequestThreads.step_move _ _ _ _ _ stepped)
    (honest.channels.process sender) (fun operation service starts => by
      subst starts
      exact announcing_permitted time _ labelled) (honest.process sender) message member
  obtain ⟨rfl,rfl⟩ := was
  exact same

/-- The place in a turn of the delivery from one process to another. -/
def deliveryAt (sender receiver : Bool) : Nat := (if sender then 10 else 12) + if receiver then 0 else 1

theorem turn_delivers (sender receiver : Bool) (clock : Nat) (net : Network Bool)
    (ran : exec (step twoHosts) (settled clock) (turn.take (deliveryAt sender receiver)) = some net) :
    Delivers sender receiver (announcementOf sender) net (.deliver sender receiver) := by
  cases sender <;> cases receiver
  all_goals
    cases Option.some.inj ran
    exact ⟨rfl,_,_,rfl,rfl⟩

theorem announcing_takes (event : Network Bool → Label Bool → Prop) (index : Nat) (label : Label Bool)
    (placed : turn[index]? = some label)
    (occurs : ∀ clock net, exec (step twoHosts) (settled clock) (turn.take index) = some net → event net label)
    (start : Nat) : announcing.Takes event start :=
  turning.precede_takes {} _ turning_start event
    (Run.repeated_takes turn _ _ turns_on event index label placed (fun _ net ran => occurs _ net ran)) start

theorem announcing_fair (p : Bool) : announcing.Fair (fun label => label = .act p .cycle) := by
  intro start _
  cases p
  · exact announcing_takes (fun _ label => label = .act false .cycle) 5 _ rfl (fun _ _ _ => rfl) start
  · exact announcing_takes (fun _ label => label = .act true .cycle) 0 _ rfl (fun _ _ _ => rfl) start

theorem announcing_links (sender receiver : Bool) : FairLossy announcing sender receiver := by
  intro message sent start
  obtain ⟨time,_,label,labelled,sends⟩ := sent 0
  have same := announcing_sends time label labelled sender message sends
  subst same
  have placed : turn[deliveryAt sender receiver]? = some (.deliver sender receiver) := by
    cases sender <;> cases receiver <;> rfl
  exact announcing_takes _ (deliveryAt sender receiver) _ placed (turn_delivers sender receiver) start

theorem announcing_ended (p : Bool) : Ended announcing ⟨10,1⟩ p (lastRequest p) 18 where
  lasts := by
    rw [announcing_past]
    cases p <;> rfl
  returned := by
    rw [announcing_settled]
    intro same
    cases same
  quiet := by
    intro time later label labelled
    have silent : ∀ label ∈ turn, ∀ p, requested p ⟨10,1⟩ label = none := by decide
    rcases announcing_label time label labelled with ⟨early,_⟩ | member
    · omega
    · exact silent label member p

theorem announcing_announced : Announced offerAndFind ⟨10,1⟩ lastRequest announcing 18 where
  initial := announcing_initial
  ended := announcing_ended
  announcing p operation spoke := by
    cases p <;> cases spoke <;> rfl
  one_role p operation spoke label member other asked := by
    have before : label ∈ announcing.past 18 := member
    rw [announcing_past] at before
    have only : ∀ label ∈ requests ++ announcementsApplied, ∀ p,
        (requested p ⟨10,1⟩ label).getD (if p then .offer else .find) = if p then .offer else .find := by decide
    have same := only label before p
    rw [asked] at same
    cases spoke
    exact congrArg ServiceDiscoveryOperation.role same
  cycles := announcing_fair
  links := announcing_links

theorem twoHosts_distinct : Function.Injective twoHosts := by
  intro p q same
  cases p <;> cases q <;> first | rfl | exact absurd same (by decide)

theorem offer_registered_in_the_end : ∃ run : Run (step twoHosts), run.state 0 = {} ∧
    ∃ time, ∀ later ≥ time,
      twoHosts true ∈ (statusOf ((run.state later).registry false) ⟨10,1⟩).remoteProviders := by
  obtain ⟨time,_,registered⟩ := eventually_registered twoHosts_distinct announcing announcing_initial 18 rfl
    (announcing_ended true) (announcing_fair true) (announcing_links true false)
  exact ⟨announcing,announcing_initial,time,registered⟩

theorem hosts_agree_in_the_end : ∃ run : Run (step twoHosts), run.state 0 = {} ∧
    ∃ time, ∀ later ≥ time, EndToEnd.Converged offerAndFind ⟨10,1⟩ (run.state later).registry := by
  obtain ⟨time,_,agreed⟩ := @eventually_delivered Bool Unit UInt32 _ _ offerAndFind ⟨10,1⟩ lastRequest announcing 18
    _ announcing_announced twoHosts_distinct offerAndFind_roles
  exact ⟨announcing,announcing_initial,time,fun later passed => (agreed later passed).1⟩

end TwoHosts
end Smw.DiscoveryLiveness
