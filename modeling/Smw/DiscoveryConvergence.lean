import Smw.DiscoveryAgreement
import Smw.EndToEnd

/-! From requests to deliveries. A process writes only messages that it was asked for, so a
registry holds nobody else; once every last request is announced and applied, the registries
agree, and published values go where the subscribers listen. -/
namespace Smw.DiscoveryConvergence
open Foundation Foundation.Execution Foundation.LastWord
open PendingMessages ServiceDiscoveryOperation ServiceRegistry DiscoveryAgreement
open RequestThreads (LocalState Move RequestPc)

/-- All that a process keeps or is about to keep was asked for. -/
structure Faithful (own : ServiceEntityInfo)
    (asked : ServiceDiscoveryOperation → ServiceDescription → Prop) (state : LocalState Unit) : Prop where
  always : ∀ service message, state.pending.messageNeedSendAlways.find service = some message →
    ∃ operation named, asked operation named ∧ message = discoveryMessage own operation named
  someTimes : ∀ service counted, state.pending.messageNeedSendSomeTimes.find service = some counted →
    ∃ operation named, asked operation named ∧ counted.discoveryMessage = discoveryMessage own operation named
  written : ∀ operation service, state.request () = .written operation service → asked operation service
  cleared : ∀ operation service, state.request () = .cleared operation service → asked operation service

section Process
variable {own : ServiceEntityInfo} {asked : ServiceDiscoveryOperation → ServiceDescription → Prop}
variable {state next : LocalState Unit} {label : RequestThreads.Label Unit}
variable {written : List ServiceDiscovery}

theorem faithful_move (move : Move own state label next written)
    (requested : ∀ operation service, label = .write () operation service → asked operation service)
    (faithful : Faithful own asked state) : Faithful own asked next := by
  cases move with
  | write thread operation service idle =>
    cases thread
    have now := requested operation service rfl
    refine ⟨faithful.always,faithful.someTimes,?_,?_⟩
    · intro other named at_written
      simp only [Function.update_self,RequestPc.written.injEq] at at_written
      obtain ⟨rfl,rfl⟩ := at_written
      exact now
    · intro other named at_cleared
      simp at at_cleared
  | first thread operation service at_first free =>
    cases thread
    obtain ⟨always,someTimes⟩ := firstRegion_filed _ _ faithful.always faithful.someTimes operation service
    refine ⟨always,someTimes,?_,?_⟩
    · intro other named at_written
      simp at at_written
    · intro other named at_cleared
      simp only [Function.update_self,RequestPc.cleared.injEq] at at_cleared
      obtain ⟨rfl,rfl⟩ := at_cleared
      exact faithful.written operation service at_first
  | second thread operation service at_second free =>
    cases thread
    have now := faithful.cleared operation service at_second
    obtain ⟨always,someTimes⟩ := secondRegion_filed _ _ faithful.always faithful.someTimes own operation service
      ⟨operation,service,now,rfl⟩
    refine ⟨always,someTimes,?_,?_⟩
    · intro other named at_written
      simp at at_written
    · intro other named at_cleared
      simp at at_cleared
  | resend visited todo at_send =>
    refine ⟨faithful.always,?_,faithful.written,faithful.cleared⟩
    intro key counted found
    obtain ⟨earlier,before,same⟩ := resend_find _ _ _ _ found
    rw [same]
    exact faithful.someTimes key earlier before
  | _ => exact ⟨faithful.always,faithful.someTimes,faithful.written,faithful.cleared⟩

theorem faithful_written (move : Move own state label next written) (sound : Sound own state)
    (requested : ∀ operation service, label = .write () operation service → asked operation service)
    (faithful : Faithful own asked state) (message : ServiceDiscovery) (member : message ∈ written) :
    ∃ operation service, asked operation service ∧ message = discoveryMessage own operation service := by
  cases move with
  | write thread operation service idle =>
    cases thread
    exact ⟨operation,service,requested operation service rfl,List.mem_singleton.mp member⟩
  | sendAlways sent todo at_send =>
    rw [List.mem_singleton.mp member]
    obtain ⟨key,found⟩ := sound.todo _ sent at_send List.mem_cons_self
    exact faithful.always key sent found
  | resend visited todo at_send =>
    obtain ⟨counted,found,same⟩ := resend_written _ _ _ member
    rw [← same]
    exact faithful.someTimes visited counted found
  | _ => cases member

end Process

section Network
variable {P : Type} [DecidableEq P] (identity : P → ServiceEntityInfo)
variable (asked : P → ServiceDiscoveryOperation → ServiceDescription → Prop)

/-- Nothing is kept, on its way or registered that no process was asked for. -/
structure Honest (net : Network P) : Prop where
  channels : Channels identity net
  process : ∀ p, Faithful (identity p) (asked p) (net.process p)
  packets : ∀ sender receiver, ∀ packet ∈ net.channel sender receiver, ∃ operation service,
    asked sender operation service ∧ packet.message = discoveryMessage (identity sender) operation service
  registry : ∀ receiver service role onOwnHost entity,
    entity ∈ (statusOf (net.registry receiver) service).entities role onOwnHost →
    ∃ sender operation, asked sender operation service ∧ operation.role = role ∧ identity sender = entity ∧
      decide (entity.hostId = (identity receiver).hostId) = onOwnHost

/-- A request in the label was asked for. -/
def Permitted : Label P → Prop
  | .act actor (.write () operation service) => asked actor operation service
  | _ => True

variable {identity asked} {net next : Network P} {label : Label P}

theorem honest_registry (honest : Honest identity asked net) (sender receiver : P) (message : ServiceDiscovery)
    (operation : ServiceDiscoveryOperation) (service : ServiceDescription) (was : asked sender operation service)
    (same : message = discoveryMessage (identity sender) operation service)
    (target : P) (about : ServiceDescription) (role : Role) (onOwnHost : Bool) (entity : ServiceEntityInfo)
    (member : entity ∈ (statusOf (Function.update net.registry receiver
      (updateRegistryFromServiceDiscovery (identity receiver).hostId (net.registry receiver) message) target)
      about).entities role onOwnHost) :
    ∃ author spoken, asked author spoken about ∧ spoken.role = role ∧ identity author = entity ∧
      decide (entity.hostId = (identity target).hostId) = onOwnHost := by
  rcases eq_or_ne target receiver with rfl | other
  · rw [Function.update_self] at member
    have updated := member_update (identity target).hostId about role onOwnHost entity (net.registry target) message
    rw [decide_eq_true member] at updated
    cases said : wordOnSide (identity target).hostId about role onOwnHost entity message with
    | none =>
      rw [said,Option.getD_none] at updated
      exact honest.registry target about role onOwnHost entity (of_decide_eq_true updated.symm)
    | some announced =>
      subst same
      unfold wordOnSide word at said
      rw [discoveryMessage_named] at said
      split at said
      next side =>
        simp only at said
        split at said
        next about_entity =>
          obtain ⟨same_service,same_entity,spoken⟩ := about_entity
          cases same_service
          exact ⟨sender,operation,was,spoken,same_entity,side⟩
        next => cases said
      next => cases said
  · rw [Function.update_of_ne other] at member
    exact honest.registry target about role onOwnHost entity member

theorem honest_step (permitted : Permitted asked label) (stepped : step identity net label = some next)
    (honest : Honest identity asked net) : Honest identity asked next := by
  have effect := step_effect identity net next label stepped
  have channels := effect_channels identity net next label effect honest.channels
  cases effect with
  | act actor label done written move =>
    have requested : ∀ operation service, label = .write () operation service → asked actor operation service := by
      intro operation service same
      subst same
      exact permitted
    refine ⟨channels,?_,?_,honest.registry⟩
    · intro p
      simp only [Function.update_apply]
      split
      next same =>
        subst same
        exact faithful_move move requested (honest.process p)
      next => exact honest.process p
    · intro sender receiver packet member
      simp only [act_channel] at member
      split at member
      next same =>
        subst same
        rcases List.mem_append.mp member with old | fresh
        · exact honest.packets sender receiver packet old
        · exact faithful_written move (honest.channels.process sender) requested (honest.process sender) _
            (mem_packets _ _ _ _ fresh).1
      next => exact honest.packets sender receiver packet member
  | deliver sender receiver packet rest waiting =>
    obtain ⟨operation,service,was,same⟩ := honest.packets sender receiver packet
      (by rw [waiting]; exact List.mem_cons_self)
    refine ⟨channels,honest.process,?_,?_⟩
    · intro source target other member
      simp only [setChannel_eq] at member
      split at member
      next here =>
        rw [here.1]
        apply honest.packets sender receiver other
        rw [waiting]
        exact List.mem_cons_of_mem _ member
      next => exact honest.packets source target other member
    · intro target about role onOwnHost entity member
      exact honest_registry honest sender receiver packet.message operation service was same target about role
        onOwnHost entity member
  | lose sender receiver index inside =>
    refine ⟨channels,honest.process,?_,honest.registry⟩
    intro source target other member
    simp only [setChannel_eq] at member
    split at member
    next here =>
      rw [here.1]
      exact honest.packets sender receiver other ((List.eraseIdx_sublist _ _).mem member)
    next => exact honest.packets source target other member

theorem honest_run (labels : List (Label P)) (permitted : ∀ label ∈ labels, Permitted asked label)
    (final : Network P) (ran : exec (step identity) {} labels = some final) : Honest identity asked final := by
  refine exec_allowed (step identity) (Permitted asked) (Honest identity asked)
    (fun state label next allowed stepped held => honest_step allowed stepped held) labels permitted {} final ran ?_
  refine ⟨initial_channels identity,?_,?_,?_⟩
  · intro p
    refine ⟨?_,?_,?_,?_⟩
    · intro service message found
      cases found
    · intro service counted found
      cases found
    · intro operation service at_written
      cases at_written
    · intro operation service at_cleared
      cases at_cleared
  · intro sender receiver packet member
    cases member
  · intro receiver service role onOwnHost entity member
    exact absurd member (ServiceStatus.not_mem_entities_empty role onOwnHost entity)

end Network

section Convergence
variable {P : Type} [DecidableEq P] (identity : P → ServiceEntityInfo)

/-- A run in which the requests on a service come to an end, `last` being the last one of each
process, and the write threads announce them to everybody after that. -/
structure Discovered (service : ServiceDescription) (last : P → Option ServiceDiscoveryOperation)
    (before after : List (Label P)) (middle final : Network P) : Prop where
  reached : exec (step identity) {} before = some middle
  ran : exec (step identity) middle after = some final
  lasts : ∀ p, lastWord (requested p service) before = last p
  /-- A process asks either as a provider or as a consumer. -/
  one_role : ∀ p operation, last p = some operation → ∀ label ∈ before, ∀ other,
    requested p service label = some other → other.role = operation.role
  returned : ∀ p, about ((middle.process p).request ()) ≠ some service
  quiet : ∀ p, ∀ label ∈ after, requested p service label = none
  applied : ∀ sender receiver, last sender ≠ none →
    AppliedSince identity service sender receiver middle.clock middle after

variable {identity} {service : ServiceDescription} {last : P → Option ServiceDiscoveryOperation}
variable {before after : List (Label P)} {middle final : Network P}

theorem Discovered.agreed (run : Discovered identity service last before after middle final)
    (distinct : Function.Injective identity) (sender receiver : P) (operation : ServiceDiscoveryOperation)
    (spoke : last sender = some operation) :
    Agreed identity service operation sender receiver middle.clock final :=
  agreed_of_applied identity distinct before after middle final sender receiver service operation run.reached
    ((run.lasts sender).trans spoke) (run.returned sender) (run.quiet sender)
    (run.applied sender receiver (by simp [spoke])) run.ran

/-- What was asked for in the run. -/
def askedIn (labels : List (Label P)) (p : P) (operation : ServiceDiscoveryOperation)
    (service : ServiceDescription) : Prop := ∃ label ∈ labels, requested p service label = some operation

theorem permitted_askedIn (labels : List (Label P)) (label : Label P) (member : label ∈ labels) :
    Permitted (askedIn labels) label := by
  cases label with
  | act actor label =>
    cases label with
    | write thread operation service =>
      cases thread
      exact ⟨_,member,by simp [requested,started]⟩
    | _ => trivial
  | _ => trivial

theorem Discovered.asked_role (run : Discovered identity service last before after middle final) (p : P)
    (operation : ServiceDiscoveryOperation) (asked : askedIn (before ++ after) p operation service) :
    ∃ spoken, last p = some spoken ∧ spoken.role = operation.role := by
  obtain ⟨label,member,requests⟩ := asked
  rcases List.mem_append.mp member with early | late
  · cases spoke : last p with
    | none =>
      have silent := (lastWord_eq_none_iff _ _).mp ((run.lasts p).trans spoke) label early
      rw [requests] at silent
      cases silent
    | some spoken => exact ⟨spoken,rfl,(run.one_role p spoken spoke label early operation requests).symm⟩
  · have silent := run.quiet p label late
    rw [requests] at silent
    cases silent

variable {S : Type} (system : EndToEnd.System P S)

omit [DecidableEq P] in
/-- Registries that hold nobody but who asked, and agree with every last request, are right. -/
theorem converged_of_agreed (asked : P → ServiceDiscoveryOperation → ServiceDescription → Prop)
    (net : Network P) (since : Nat) (honest : Honest system.identity asked net)
    (asked_role : ∀ p operation, asked p operation service →
      ∃ spoken, last p = some spoken ∧ spoken.role = operation.role)
    (agreed : ∀ sender receiver operation, last sender = some operation →
      Agreed system.identity service operation sender receiver since net)
    (roles : ∀ role p, system.uses role p = decide (last p = some (announcement role))) :
    EndToEnd.Converged system service net.registry := by
  intro process role onOwnHost entity
  constructor
  · intro member
    obtain ⟨sender,operation,was,same_role,rfl,side⟩ :=
      honest.registry process service role onOwnHost entity member
    obtain ⟨spoken,spoke,speaks⟩ := asked_role sender operation was
    have holds := (agreed sender process spoken spoke).member
    rw [speaks,same_role,side] at holds
    have announcing : spoken = announcement role := by
      have announces := holds.mp member
      rw [← same_role,← speaks]
      cases spoken <;> first | rfl | cases announces
    refine ⟨sender,rfl,?_,side⟩
    rw [roles,spoke,announcing]
    exact decide_eq_true rfl
  · intro there
    obtain ⟨other,rfl,uses,side⟩ := there
    rw [roles] at uses
    have spoke := of_decide_eq_true uses
    have holds := (agreed other process _ spoke).member
    have same_role : (announcement role).role = role := by cases role <;> rfl
    have announces : (announcement role).announces = true := by cases role <;> rfl
    have same_side : decide ((system.identity other).hostId = (system.identity process).hostId) = onOwnHost := side
    rw [same_role,same_side] at holds
    exact holds.mpr announces

/-- Then all registries agree on who offers the service and who finds it. -/
theorem Discovered.converged (run : Discovered system.identity service last before after middle final)
    (distinct : Function.Injective system.identity)
    (roles : ∀ role p, system.uses role p = decide (last p = some (announcement role))) :
    EndToEnd.Converged system service final.registry := by
  have whole : exec (step system.identity) {} (before ++ after) = some final :=
    (exec_append _ _ _ _ _).mpr ⟨middle,run.reached,run.ran⟩
  have honest := honest_run (before ++ after) (permitted_askedIn (before ++ after)) final whole
  exact converged_of_agreed system (askedIn (before ++ after)) final middle.clock honest
    (fun p operation asked => run.asked_role p operation asked)
    (fun sender receiver operation spoke => run.agreed distinct sender receiver operation spoke) roles

variable {T : Type} [Inhabited T]

/-- Discovery leads to delivery. After such a run, with every subscriber switched by the status
that its registry then shows, each value published by either overload is handed to a subscriber
exactly once if it is on the host of the provider or its own host has no provider, and otherwise
not at all. -/
theorem values_delivered (run : Discovered system.identity service last before after middle final)
    (distinct : Function.Injective system.identity)
    (roles : ∀ role p, system.uses role p = decide (last p = some (announcement role)))
    (previous : S → Subscriber.Reader → Bool) (type : IceoryxWriter.DataType T)
    (calls : List (EndToEnd.PublishCall P T))
    (transportable : ∀ call ∈ calls, IceoryxWriter.Transportable type call.value)
    (traffic done : EndToEnd.Traffic P S T)
    (published : exec (EndToEnd.step system service final.registry (fun subscriber =>
      EndToEnd.readersAfter (statusOf (final.registry (system.home subscriber)) service) (previous subscriber))
      type) traffic calls = some done) (subscriber : S) :
    done.handed subscriber = traffic.handed subscriber ++
      open Classical in (calls.filter (fun call => EndToEnd.Reaches system subscriber call.provider)).map
        EndToEnd.PublishCall.value :=
  EndToEnd.handed_of_converged (run.converged system distinct roles) previous type calls transportable traffic
    done published subscriber

end Convergence

/-- One process offers a service and one on another host subscribes to an event of it. -/
def offerAndFind : EndToEnd.System Bool Unit where
  identity := twoHosts
  provides p := p
  consumes p := !p
  home _ := false
  consuming _ := rfl

def requests : List (Label Bool) :=
  [.act true (.write () .offer ⟨10,1⟩),.act true (.first ()),.act true (.second ()),
    .act false (.write () .find ⟨10,1⟩),.act false (.first ()),.act false (.second ())]

def announcementsApplied : List (Label Bool) :=
  [.act true .cycle,.act true .cycle,.act false .cycle,.act false .cycle,
    .deliver true true,.deliver true true,.deliver true false,.deliver true false,
    .deliver false true,.deliver false true,.deliver false false,.deliver false false]

def lastRequest (p : Bool) : Option ServiceDiscoveryOperation := some (if p then .offer else .find)

theorem offerAndFind_discovered : ∃ middle final,
    Discovered twoHosts ⟨10,1⟩ lastRequest requests announcementsApplied middle final := by
  refine ⟨_,_,⟨rfl,rfl,?_,?_,?_,?_,?_⟩⟩
  · intro p
    cases p <;> rfl
  · intro p operation spoke label member other asked
    cases p
    · have only : ∀ label ∈ requests, (requested false ⟨10,1⟩ label).getD .find = .find := by decide
      have same := only label member
      rw [asked] at same
      cases spoke
      cases same
      rfl
    · have only : ∀ label ∈ requests, (requested true ⟨10,1⟩ label).getD .offer = .offer := by decide
      have same := only label member
      rw [asked] at same
      cases spoke
      cases same
      rfl
  · decide
  · decide
  · intro sender receiver _
    cases sender <;> cases receiver
    · exact ⟨announcementsApplied.take 11,[],_,_,_,rfl,rfl,rfl,rfl,by decide,rfl⟩
    · exact ⟨announcementsApplied.take 9,announcementsApplied.drop 10,_,_,_,rfl,rfl,rfl,rfl,by decide,rfl⟩
    · exact ⟨announcementsApplied.take 7,announcementsApplied.drop 8,_,_,_,rfl,rfl,rfl,rfl,by decide,rfl⟩
    · exact ⟨announcementsApplied.take 5,announcementsApplied.drop 6,_,_,_,rfl,rfl,rfl,rfl,by decide,rfl⟩

theorem offerAndFind_roles (role : Role) (p : Bool) :
    offerAndFind.uses role p = decide (lastRequest p = some (announcement role)) := by
  cases role <;> cases p <;> rfl

/-- The process on the other host has no provider of its own, so it is handed the value. -/
theorem value_across_hosts : ∃ (final : Network Bool) (done : EndToEnd.Traffic Bool Unit UInt32),
    exec (step twoHosts) {} (requests ++ announcementsApplied) = some final ∧
      exec (EndToEnd.step offerAndFind ⟨10,1⟩ final.registry (fun _ =>
        EndToEnd.readersAfter (statusOf (final.registry false) ⟨10,1⟩) (fun _ => false)) .fixed) {}
        [⟨true,.value,7,⟨0,fun _ => 0⟩⟩] = some done ∧ done.handed () = [7] := by
  obtain ⟨middle,final,run⟩ := offerAndFind_discovered
  have whole : exec (step twoHosts) {} (requests ++ announcementsApplied) = some final :=
    (exec_append _ _ _ _ _).mpr ⟨middle,run.reached,run.ran⟩
  have distinct : Function.Injective offerAndFind.identity := by
    intro p q same
    cases p <;> cases q <;> first | rfl | exact absurd same (by decide)
  have reaches : EndToEnd.Reaches offerAndFind () true := by
    refine .inr ?_
    intro other provides
    cases other
    · cases provides
    · decide
  obtain ⟨done,published⟩ : ∃ done : EndToEnd.Traffic Bool Unit UInt32,
      exec (EndToEnd.step offerAndFind ⟨10,1⟩ final.registry (fun _ =>
        EndToEnd.readersAfter (statusOf (final.registry false) ⟨10,1⟩) (fun _ => false)) .fixed) {}
        [⟨true,.value,7,⟨0,fun _ => 0⟩⟩] = some done := by
    cases whole
    exact ⟨_,rfl⟩
  refine ⟨final,done,whole,published,?_⟩
  rw [values_delivered offerAndFind run distinct offerAndFind_roles (fun _ _ => false) .fixed
    [⟨true,.value,7,⟨0,fun _ => 0⟩⟩] (fun _ _ => trivial) {} done published ()]
  simp [reaches]

end Smw.DiscoveryConvergence
