import Smw.PendingMessages

/-! Histories of one process: requests of any kind on any services, with complete
cycles of the write thread between them. The reference is the last request of a
role on a service; what the process repeats is decided by the last of any role. -/
namespace Smw.DiscoveryHistory
open Foundation Foundation.LastWord PendingMessages ServiceDiscoveryOperation

inductive Act
  | request (operation : ServiceDiscoveryOperation) (service : ServiceDescription)
  | cycle
deriving DecidableEq

def act (own : ServiceEntityInfo) (pending : Pending) : Act → List ServiceDiscovery × Pending
  | .request operation service => requestDiscoveryOperation own operation service pending
  | .cycle => discoveryCycle pending

def pendingAfter (own : ServiceEntityInfo) (acts : List Act) : Pending :=
  acts.foldl (fun pending next => (act own pending next).2) {}

def requestOn (service : ServiceDescription) : Act → Option ServiceDiscoveryOperation
  | .request operation named => if named = service then some operation else none
  | .cycle => none

def requestAs (role : Role) (service : ServiceDescription) (next : Act) : Option ServiceDiscoveryOperation :=
  (requestOn service next).filter (fun operation => operation.role = role)

/-- The most recent request on a service. -/
def lastOn (service : ServiceDescription) (acts : List Act) : Option ServiceDiscoveryOperation :=
  lastWord (requestOn service) acts

/-- The most recent request of a role on a service. -/
def lastAs (role : Role) (service : ServiceDescription) (acts : List Act) :
    Option ServiceDiscoveryOperation :=
  lastWord (requestAs role service) acts

def announcementOf (own : ServiceEntityInfo) (service : ServiceDescription)
    (operation : ServiceDiscoveryOperation) : Option ServiceDiscovery :=
  if operation.announces then some (discoveryMessage own operation service) else none

theorem act_always (own : ServiceEntityInfo) (service : ServiceDescription) (pending : Pending)
    (next : Act) :
    (act own pending next).2.messageNeedSendAlways.find service =
      ((requestOn service next).map (announcementOf own service)).getD
        (pending.messageNeedSendAlways.find service) := by
  cases next with
  | cycle => rfl
  | request operation named =>
    simp only [act,requestDiscoveryOperation,requestOn,secondRegion_always,firstRegion_always]
    by_cases same : named = service
    · subst same
      cases kind : operation.announces <;> simp [announcementOf,kind]
    · simp [same,Ne.symm same]

theorem always_after (own : ServiceEntityInfo) (service : ServiceDescription) (acts : List Act) :
    (pendingAfter own acts).messageNeedSendAlways.find service =
      (lastOn service acts).bind (announcementOf own service) := by
  have observed := fold_observes (fun pending next => (act own pending next).2)
    (fun pending : Pending => pending.messageNeedSendAlways.find service)
    (fun next => (requestOn service next).map (announcementOf own service))
    (act_always own service) acts {}
  rw [pendingAfter,observed,lastWord_map,lastOn]
  cases lastWord (requestOn service) acts <;> rfl

theorem someTimes_after (own : ServiceEntityInfo) (service : ServiceDescription) (acts : List Act)
    (counted : DiscoveryMessageWithCounter)
    (found : (pendingAfter own acts).messageNeedSendSomeTimes.find service = some counted) :
    ∃ operation, lastOn service acts = some operation ∧ operation.announces = false ∧
      counted.discoveryMessage = discoveryMessage own operation service := by
  induction acts using List.reverseRecOn generalizing counted with
  | nil => simp [pendingAfter] at found
  | append_singleton acts next ih =>
    rw [pendingAfter,List.foldl_append,List.foldl_cons,List.foldl_nil,← pendingAfter] at found
    rw [lastOn,lastWord_snoc,← lastOn]
    cases next with
    | cycle =>
      rw [act,discoveryCycle_someTimes,Option.bind_eq_some_iff] at found
      obtain ⟨earlier,before,counting⟩ := found
      rw [countUp_message service earlier counted counting]
      exact ih earlier before
    | request operation named =>
      simp only [act,requestDiscoveryOperation,secondRegion_someTimes,firstRegion_someTimes] at found
      by_cases same : named = service
      · subst same
        cases kind : operation.announces with
        | true => simp [kind] at found
        | false =>
          have value : counted = ⟨discoveryMessage own operation named,0⟩ := by
            simpa [kind] using found.symm
          exact ⟨operation,by simp [requestOn],kind,by rw [value]⟩
      · have earlier : (pendingAfter own acts).messageNeedSendSomeTimes.find service = some counted := by
          simpa [Ne.symm same] using found
        have silent : requestOn service (.request operation named) = none := if_neg same
        rw [silent]
        exact ih counted earlier

def Announces (role : Role) (service : ServiceDescription) (written : List ServiceDiscovery) : Prop :=
  ∃ message ∈ written, message.serviceDesc = service ∧ message.named = some (announcement role)

/-- A cycle announces a service in the role of the last request on it, if that announces. -/
theorem cycle_announces (own : ServiceEntityInfo) (role : Role) (service : ServiceDescription)
    (acts : List Act) :
    Announces role service (discoveryCycle (pendingAfter own acts)).1 ↔
      lastOn service acts = some (announcement role) := by
  have announcing : (announcement role).announces = true := by cases role <;> rfl
  constructor
  · intro announced
    obtain ⟨message,written,about,named⟩ := announced
    rcases (mem_discoveryCycle _ _).mp written with always | some_times
    · obtain ⟨named_service,found⟩ := always
      rw [always_after,Option.bind_eq_some_iff] at found
      obtain ⟨operation,last,value⟩ := found
      unfold announcementOf at value
      split at value
      next =>
        cases value
        have same : named_service = service := by simpa using about
        have kind : operation = announcement role := by simpa using named
        rw [← same,last,kind]
      next => cases value
    · obtain ⟨named_service,counted,found,value⟩ := some_times
      obtain ⟨operation,_,stops,same⟩ := someTimes_after own named_service acts counted found
      rw [← value,same,discoveryMessage_named] at named
      cases named
      rw [announcing] at stops
      cases stops
  · intro last
    refine ⟨discoveryMessage own (announcement role) service,?_,by simp,by simp⟩
    refine (mem_discoveryCycle _ _).mpr (.inl ⟨service,?_⟩)
    rw [always_after,last]
    simp [announcementOf,announcing]

theorem lastAs_of_lastOn (service : ServiceDescription) (acts : List Act)
    (operation : ServiceDiscoveryOperation) (last : lastOn service acts = some operation) :
    lastAs operation.role service acts = some operation := by
  induction acts using List.reverseRecOn with
  | nil => cases last
  | append_singleton acts next ih =>
    rw [lastOn,lastWord_snoc,← lastOn] at last
    rw [lastAs,lastWord_snoc,← lastAs]
    cases said : requestOn service next with
    | none =>
      rw [said,Option.none_or] at last
      simpa [requestAs,said] using ih last
    | some word =>
      rw [said,Option.some_or] at last
      cases last
      simp [requestAs,said]

theorem lastOn_of_lastAs (role : Role) (service : ServiceDescription) (acts : List Act)
    (operation : ServiceDiscoveryOperation) (last : lastAs role service acts = some operation) :
    operation.role = role ∧ ∃ latest, lastOn service acts = some latest := by
  have spoken : operation ∈ acts.filterMap (requestAs role service) := List.mem_of_getLast? last
  obtain ⟨next,member,said⟩ := List.mem_filterMap.mp spoken
  obtain ⟨heard,matching⟩ := Option.filter_eq_some_iff.mp said
  refine ⟨by simpa using matching,?_⟩
  apply Option.ne_none_iff_exists'.mp
  intro silent
  rw [(lastWord_eq_none_iff _ _).mp silent next member] at heard
  cases heard

/-- Every cycle of the history announces exactly what the last request of each role asks. -/
def EveryCycleAnnounces (own : ServiceEntityInfo) (acts : List Act) : Prop :=
  ∀ before after, acts = before ++ .cycle :: after → ∀ role service,
    Announces role service (discoveryCycle (pendingAfter own before)).1 ↔
      lastAs role service before = some (announcement role)

/-- At every cycle, no service has an outstanding announcement in the role that did
not make the last request on it. -/
def OneRoleAnnounced (acts : List Act) : Prop :=
  ∀ before after, acts = before ++ .cycle :: after → ∀ service operation,
    lastOn service before = some operation →
      lastAs operation.role.other service before ≠ some (announcement operation.role.other)

theorem announces_iff_apart (own : ServiceEntityInfo) (acts : List Act) (service : ServiceDescription) :
    (∀ role, Announces role service (discoveryCycle (pendingAfter own acts)).1 ↔
      lastAs role service acts = some (announcement role)) ↔
    ∀ operation, lastOn service acts = some operation →
      lastAs operation.role.other service acts ≠ some (announcement operation.role.other) := by
  have own_role (role : Role) : (announcement role).role = role := by cases role <;> rfl
  constructor
  · intro faithful operation last outstanding
    have announced := (faithful _).mpr outstanding
    rw [cycle_announces,last] at announced
    have kind := Option.some.inj announced
    have roles := congrArg ServiceDiscoveryOperation.role kind
    rw [own_role] at roles
    cases operation <;> cases roles
  · intro apart role
    rw [cycle_announces]
    constructor
    · intro last
      simpa only [own_role] using lastAs_of_lastOn service acts _ last
    · intro last
      obtain ⟨latest,found⟩ := (lastOn_of_lastAs role service acts _ last).2
      have latest_role := lastAs_of_lastOn service acts latest found
      by_cases same : latest.role = role
      · rw [same,last] at latest_role
        rw [found,← Option.some.inj latest_role]
      · have other : role = latest.role.other := by
          cases role <;> cases left : latest.role <;> simp_all [Role.other]
        exact absurd (other ▸ last) (apart latest found)

/-- Both roles of a service stay announced exactly where each role is stopped before
the other one takes over its slot. -/
theorem every_cycle_announces_iff (own : ServiceEntityInfo) (acts : List Act) :
    EveryCycleAnnounces own acts ↔ OneRoleAnnounced acts := by
  unfold EveryCycleAnnounces OneRoleAnnounced
  refine forall_congr' (fun before => forall_congr' (fun after => forall_congr' (fun _ => ?_)))
  rw [forall_comm]
  exact forall_congr' (fun service => announces_iff_apart own before service)

/-- A process that offers a service and then looks for it stops announcing the offer. -/
theorem offer_then_find_not_announced :
    ¬ EveryCycleAnnounces ⟨"10.0.0.1/","100"⟩
      [.request .offer ⟨10,1⟩,.request .find ⟨10,1⟩,.cycle] := by
  intro all
  have announced := (all [.request .offer ⟨10,1⟩,.request .find ⟨10,1⟩] [] rfl .provider ⟨10,1⟩).mpr
    (by decide)
  have found := (cycle_announces _ _ _ _).mp announced
  revert found
  decide

end Smw.DiscoveryHistory
