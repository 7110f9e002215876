import Smw.DiscoveryAgreement

/-! What users do to the registry of a process: a lookup may add an empty entry, and clearing
removes every entry. The announcements, which are repeated, bring back what was cleared. -/
namespace Smw.RegistryClearing
open Foundation Foundation.Execution Foundation.LastWord
open ServiceRegistry DiscoveryAgreement PendingMessages ServiceDiscoveryOperation
open RequestThreads (RequestPc)

inductive Act
  | update (discovery : ServiceDiscovery)
  | query (service : ServiceDescription)
  | clear

def clearRegistry (_ : Registry) : Registry := OrderedMap.empty

def act (own : String) (registry : Registry) : Act → Registry
  | .update discovery => updateRegistryFromServiceDiscovery own registry discovery
  | .query service => (queryServiceStatus registry service).2
  | .clear => clearRegistry registry

def getRegistryContent (own : String) (acts : List Act) : Registry := acts.foldl (act own) OrderedMap.empty

section Content
variable (own : String)

/-- What an act says of the membership of an entity; clearing withdraws everybody. -/
def membership (service : ServiceDescription) (role : Role) (onOwnHost : Bool) (entity : ServiceEntityInfo) :
    Act → Option Bool
  | .update discovery => wordOnSide own service role onOwnHost entity discovery
  | .query _ => none
  | .clear => some false

/-- What an act says of the entry of a service. -/
def entry (service : ServiceDescription) : Act → Option Bool
  | .update discovery => if discovery.serviceDesc = service then some true else none
  | .query named => if named = service then some true else none
  | .clear => some false

theorem membership_act (service : ServiceDescription) (role : Role) (onOwnHost : Bool)
    (entity : ServiceEntityInfo) (registry : Registry) (next : Act) :
    decide (entity ∈ (statusOf (act own registry next) service).entities role onOwnHost) =
      (membership own service role onOwnHost entity next).getD
        (decide (entity ∈ (statusOf registry service).entities role onOwnHost)) := by
  cases next with
  | update discovery => exact member_update own service role onOwnHost entity registry discovery
  | query named =>
    rw [act,statusOf_query]
    rfl
  | clear => exact decide_eq_false (ServiceStatus.not_mem_entities_empty role onOwnHost entity)

theorem entry_act (service : ServiceDescription) (registry : Registry) (next : Act) :
    ((act own registry next).find service).isSome =
      (entry service next).getD (registry.find service).isSome := by
  cases next with
  | update discovery => exact entry_update own registry discovery service
  | query named =>
    simp only [act,queryServiceStatus,OrderedMap.find_insert,entry]
    by_cases same : named = service
    · simp [same]
    · simp [same,Ne.symm same]
  | clear => rfl

theorem member_content_iff (acts : List Act) (service : ServiceDescription) (role : Role) (onOwnHost : Bool)
    (entity : ServiceEntityInfo) :
    entity ∈ (statusOf (getRegistryContent own acts) service).entities role onOwnHost ↔
      lastWord (membership own service role onOwnHost entity) acts = some true := by
  have observed := fold_observes (act own)
    (fun registry => decide (entity ∈ (statusOf registry service).entities role onOwnHost))
    (membership own service role onOwnHost entity) (membership_act own service role onOwnHost entity)
    acts OrderedMap.empty
  have absent : decide (entity ∈ (statusOf OrderedMap.empty service).entities role onOwnHost) = false :=
    decide_eq_false (ServiceStatus.not_mem_entities_empty role onOwnHost entity)
  rw [absent] at observed
  rw [← decide_eq_true_iff (p := entity ∈ _),getRegistryContent,observed]
  cases lastWord (membership own service role onOwnHost entity) acts with
  | none => simp
  | some announced => simp

theorem entry_content_iff (acts : List Act) (service : ServiceDescription) :
    ((getRegistryContent own acts).find service).isSome = true ↔ lastWord (entry service) acts = some true := by
  have observed := fold_observes (act own) (fun registry => (registry.find service).isSome) (entry service)
    (entry_act own service) acts OrderedMap.empty
  rw [getRegistryContent,observed]
  cases lastWord (entry service) acts with
  | none => simp
  | some present => simp

def Act.isQuery : Act → Bool
  | .query _ => true
  | _ => false

/-- The content is the last word since the last clearing, of every entity and of every entry,
and no lookup changes what a later one returns. -/
theorem content_is_last_word (acts : List Act) :
    (∀ service role onOwnHost entity,
      entity ∈ (statusOf (getRegistryContent own acts) service).entities role onOwnHost ↔
        lastWord (membership own service role onOwnHost entity) acts = some true) ∧
    (∀ service, ((getRegistryContent own acts).find service).isSome = true ↔
      lastWord (entry service) acts = some true) ∧
    ∀ service, (queryServiceStatus (getRegistryContent own acts) service).1 =
      (queryServiceStatus (getRegistryContent own (acts.filter (fun next => !next.isQuery))) service).1 := by
  refine ⟨member_content_iff own acts,entry_content_iff own acts,?_⟩
  intro service
  apply ServiceStatus.ext_entities
  intro role onOwnHost entity
  change entity ∈ (statusOf _ service).entities role onOwnHost ↔ entity ∈ (statusOf _ service).entities role onOwnHost
  rw [member_content_iff,member_content_iff]
  unfold lastWord
  rw [List.filterMap_filter]
  have silent : (fun next : Act => if !next.isQuery then membership own service role onOwnHost entity next else none) =
      membership own service role onOwnHost entity := by
    funext next
    cases next <;> rfl
  rw [silent]

end Content

inductive Label (P : Type)
  | net (label : DiscoveryAgreement.Label P)
  | query (process : P) (service : ServiceDescription)
  | clear (process : P)

section Network
variable {P : Type} [DecidableEq P] (identity : P → ServiceEntityInfo)

def step (net : Network P) : Label P → Option (Network P)
  | .net label => DiscoveryAgreement.step identity net label
  | .query process service =>
    some {net with
      registry := Function.update net.registry process (queryServiceStatus (net.registry process) service).2}
  | .clear process =>
    some {net with registry := Function.update net.registry process (clearRegistry (net.registry process))}

def requested (sender : P) (service : ServiceDescription) : Label P → Option ServiceDiscoveryOperation
  | .net label => DiscoveryAgreement.requested sender service label
  | _ => none

/-- The receiver applies a message on the service that the sender wrote at that time or later. -/
def Applies (service : ServiceDescription) (sender receiver : P) (since : Nat) (net : Network P)
    (label : Label P) : Prop :=
  label = .net (.deliver sender receiver) ∧ ∃ packet rest, net.channel sender receiver = packet :: rest ∧
    since ≤ packet.stamp ∧ packet.message.serviceDesc = service

def Clears (receiver : P) (label : Label P) : Prop := label = .clear receiver

/-- The membership that the last request of the sender is about. -/
def Registered (service : ServiceDescription) (operation : ServiceDiscoveryOperation) (sender receiver : P)
    (net : Network P) : Prop :=
  identity sender ∈ (statusOf (net.registry receiver) service).entities operation.role
    (decide ((identity sender).hostId = (identity receiver).hostId))

def Fresh (sender receiver : P) (since : Nat) (net : Network P) : Prop :=
  ∀ packet ∈ net.channel sender receiver, since ≤ packet.stamp

/-- What holds after a run since the last request of the sender has returned. -/
structure Relearns (service : ServiceDescription) (operation : ServiceDiscoveryOperation) (sender receiver : P)
    (since : Nat) (heard kept : Prop) (net : Network P) : Prop where
  repeating : Repeating identity service operation sender receiver since net
  fresh : heard → Fresh sender receiver since net
  registered : heard → (Registered identity service operation sender receiver net ↔
    operation.announces = true ∧ kept)

variable {identity} {service : ServiceDescription} {operation : ServiceDiscoveryOperation}
variable {sender receiver : P} {since : Nat} {net next : Network P}

theorem reachable_tracked (sender : P) (service : ServiceDescription) (labels : List (Label P))
    (ran : exec (step identity) {} labels = some net) :
    Channels identity net ∧ Tracked (identity sender) service
      (lastWord (requested sender service) labels) (net.process sender) := by
  refine tracked_run identity (step identity) (requested sender service) sender service ?_ labels net ran
  intro state label next stepped
  cases label with
  | net label => exact .inl ⟨label,step_effect identity state next label stepped,rfl⟩
  | query process named => exact .inr ⟨rfl,_,(Option.some.inj stepped).symm⟩
  | clear process => exact .inr ⟨rfl,_,(Option.some.inj stepped).symm⟩

omit [DecidableEq P] in
theorem repeating_registry (registry : P → Registry)
    (held : Repeating identity service operation sender receiver since net) :
    Repeating identity service operation sender receiver since {net with registry := registry} :=
  ⟨held.channels.with_registry identity registry,held.tracked,held.returned,held.reached,held.repeats⟩

theorem relearns_net (distinct : Function.Injective identity) (label : DiscoveryAgreement.Label P)
    (quiet : DiscoveryAgreement.requested sender service label = none)
    (effect : Effect identity net label next) (heard kept : Prop)
    (held : Relearns identity service operation sender receiver since heard kept net) :
    Relearns identity service operation sender receiver since
      (heard ∨ Applies service sender receiver since net (.net label))
      (Applies service sender receiver since net (.net label) ∨ kept) next := by
  by_cases applies : Applies service sender receiver since net (.net label)
  · have applied := applies
    obtain ⟨same,packet,rest,waiting,late,about_service⟩ := applies
    cases same
    have agreed := agreed_of_deliver held.repeating packet rest waiting late about_service effect
    refine ⟨agreed.toRepeating,fun _ => agreed.fresh,fun _ => ?_⟩
    exact agreed.member.trans (and_iff_left (.inl applied)).symm
  · refine ⟨repeating_step quiet effect held.repeating,?_,?_⟩
    · intro either
      have before := held.fresh (either.resolve_right applies)
      exact fresh_effect effect held.repeating.reached before
    · intro either
      have before := either.resolve_right applies
      have silent : ¬ (label = .deliver sender receiver ∧ _) :=
        fun delivers => applies ⟨congrArg Label.net delivers.1,delivers.2⟩
      have same := member_effect distinct effect held.repeating (held.fresh before) silent operation.role
        (decide ((identity sender).hostId = (identity receiver).hostId))
      rw [or_iff_right applies]
      exact same.trans (held.registered before)

theorem relearns_step (distinct : Function.Injective identity) (label : Label P)
    (quiet : requested sender service label = none) (stepped : step identity net label = some next)
    (heard kept : Prop)
    (held : Relearns identity service operation sender receiver since heard kept net) :
    Relearns identity service operation sender receiver since
      (heard ∨ Applies service sender receiver since net label)
      (Applies service sender receiver since net label ∨ ¬ Clears receiver label ∧ kept) next := by
  cases label with
  | net label =>
    have effect := step_effect identity net next label stepped
    have other : ¬ Clears receiver (.net label : Label P) := by
      intro clears
      cases clears
    rw [and_iff_right other]
    exact relearns_net distinct label quiet effect heard kept held
  | query process named =>
    cases stepped
    have silent : ¬ Applies service sender receiver since net (.query process named) := by
      intro applies
      cases applies.1
    have other : ¬ Clears receiver (.query process named : Label P) := by
      intro clears
      cases clears
    rw [or_iff_left silent,or_iff_right silent,and_iff_right other]
    refine ⟨repeating_registry _ held.repeating,held.fresh,?_⟩
    intro before
    refine Iff.trans ?_ (held.registered before)
    unfold Registered
    by_cases here : receiver = process
    · subst here
      simp only [Function.update_self,statusOf_query]
    · simp only [Function.update_of_ne here]
  | clear process =>
    cases stepped
    have silent : ¬ Applies service sender receiver since net (.clear process) := by
      intro applies
      cases applies.1
    rw [or_iff_left silent,or_iff_right silent]
    refine ⟨repeating_registry _ held.repeating,held.fresh,?_⟩
    intro before
    by_cases here : receiver = process
    · subst here
      have gone : ¬ Registered identity service operation sender receiver
          {net with registry := Function.update net.registry receiver (clearRegistry (net.registry receiver))} := by
        simp only [Registered,Function.update_self]
        exact ServiceStatus.not_mem_entities_empty _ _ _
      exact iff_of_false gone (fun both => both.2.1 rfl)
    · have other : ¬ Clears receiver (.clear process : Label P) := by
        intro clears
        cases clears
        exact here rfl
      rw [and_iff_right other]
      refine Iff.trans ?_ (held.registered before)
      simp only [Registered,Function.update_of_ne here]

theorem relearns_run (distinct : Function.Injective identity) (middle final : Network P) (labels : List (Label P))
    (quiet : ∀ label ∈ labels, requested sender service label = none)
    (start : Repeating identity service operation sender receiver middle.clock middle)
    (ran : exec (step identity) middle labels = some final) :
    Relearns identity service operation sender receiver middle.clock
      (Sometime (step identity) (Applies service sender receiver middle.clock) middle labels)
      (SinceLast (step identity) (Applies service sender receiver middle.clock) (Clears receiver) middle labels)
      final := by
  have held := exec_history (step identity)
    (fun past net => exec (step identity) middle past = some net ∧
      ((∀ label ∈ past, requested sender service label = none) →
        Relearns identity service operation sender receiver middle.clock
          (Sometime (step identity) (Applies service sender receiver middle.clock) middle past)
          (SinceLast (step identity) (Applies service sender receiver middle.clock) (Clears receiver) middle past)
          net)) middle ?_ ?_ labels final ran
  · exact held.2 quiet
  · refine ⟨rfl,fun _ => ⟨start,?_,?_⟩⟩
    · intro heard
      exact absurd heard (not_sometime_nil _ _ _)
    · intro heard
      exact absurd heard (not_sometime_nil _ _ _)
  · intro past state label next stepped held
    obtain ⟨reached,relearns⟩ := held
    refine ⟨(exec_snoc _ _ _ _ _).mpr ⟨state,reached,stepped⟩,?_⟩
    intro quiet
    have before := relearns (fun other member => quiet other (by simp [member]))
    have moved := relearns_step distinct label (quiet label (by simp)) stepped _ _ before
    rw [sometime_snoc _ _ _ _ _ _ reached,sinceLast_snoc _ _ _ _ _ _ _ reached]
    exact moved

/-- Clearing does not break discovery. The last request of the sender on the service has returned
in `middle`; the run goes on without another one, with lookups and clearings anywhere, and the
receiver has applied a message of the sender on the service. Then it holds the sender exactly
if the request announced it and such a message was applied since the last clearing. -/
theorem registered_iff_relearnt (distinct : Function.Injective identity) (before after : List (Label P))
    (middle final : Network P) (sender receiver : P) (service : ServiceDescription)
    (operation : ServiceDiscoveryOperation) (reached : exec (step identity) {} before = some middle)
    (last : lastWord (requested sender service) before = some operation)
    (returned : about ((middle.process sender).request ()) ≠ some service)
    (quiet : ∀ label ∈ after, requested sender service label = none)
    (ran : exec (step identity) middle after = some final)
    (heard : Sometime (step identity) (Applies service sender receiver middle.clock) middle after) :
    Registered identity service operation sender receiver final ↔
      operation.announces = true ∧
        SinceLast (step identity) (Applies service sender receiver middle.clock) (Clears receiver) middle after := by
  obtain ⟨channels,tracked⟩ := reachable_tracked sender service before reached
  rw [last] at tracked
  have start : Repeating identity service operation sender receiver middle.clock middle :=
    .start channels tracked returned
  exact (relearns_run distinct middle final after quiet start ran).registered heard

end Network

def clearedAgain : List (Label Bool) :=
  announceAndApply.map Label.net ++ [.clear false,.query false ⟨10,1⟩] ++ List.replicate 5 (.net (.act true .cycle))

/-- The offer is learnt, cleared and learnt again one cycle later. -/
theorem offer_relearnt : ∃ middle final,
    exec (step twoHosts) {} (offerRequest.map Label.net) = some middle ∧
    exec (step twoHosts) middle (clearedAgain ++ [.net (.deliver true false)]) = some final ∧
    Registered twoHosts ⟨10,1⟩ .offer true false final := by
  refine ⟨_,_,rfl,rfl,?_⟩
  refine (registered_iff_relearnt ?_ (offerRequest.map Label.net) (clearedAgain ++ [.net (.deliver true false)])
    _ _ true false ⟨10,1⟩ .offer rfl rfl ?_ ?_ rfl ?_).mpr ⟨rfl,?_⟩
  · intro p q same
    cases p <;> cases q <;> simp_all [twoHosts]
  · decide
  · decide
  · exact ⟨clearedAgain,_,[],_,rfl,rfl,rfl,_,_,rfl,by decide,rfl⟩
  · exact ⟨clearedAgain,_,[],_,rfl,rfl,⟨rfl,_,_,rfl,by decide,rfl⟩,by simp⟩

end Smw.RegistryClearing
