import Smw.PendingMessages
import Smw.Foundation.Execution

/-! The proxies and skeletons of one service in one process. Every object announces and
withdraws on its own, and each message written is applied to the own registry at once. -/
namespace Smw.ServiceObjects
open Foundation Foundation.LastWord Foundation.Execution
open ServiceRegistry PendingMessages ServiceDiscoveryOperation

/-- The live objects by identity; a skeleton with its flag, set while it is offered. -/
structure Objects where
  pending : Pending := {}
  registry : Registry := OrderedMap.empty
  proxies : OrderedSet Nat := OrderedMap.empty
  skeletons : OrderedMap Nat Bool := OrderedMap.empty

inductive Label
  | constructProxy (proxy : Nat)
  | destroyProxy (proxy : Nat)
  | constructSkeleton (skeleton : Nat)
  | destroySkeleton (skeleton : Nat)
  | offerService (skeleton : Nat)
  | stopOfferService (skeleton : Nat)
  | cycle
deriving DecidableEq

section Operations
variable (own : ServiceEntityInfo) (service : ServiceDescription)

def applyMessages (messages : List ServiceDiscovery) (registry : Registry) : Registry :=
  messages.foldl (updateRegistryFromServiceDiscovery own.hostId) registry

def request (operation : ServiceDiscoveryOperation) (state : Objects) : Objects :=
  let requested := requestDiscoveryOperation own operation service state.pending
  {state with
    pending := requested.2
    registry := applyMessages own requested.1 state.registry}

def cycle (state : Objects) : Objects :=
  let turned := discoveryCycle state.pending
  {state with
    pending := turned.2
    registry := applyMessages own turned.1 state.registry}

def offerService (skeleton : Nat) (state : Objects) : Objects :=
  let requested := request own service .offer state
  {requested with skeletons := requested.skeletons.insert skeleton true}

def stopOfferService (skeleton : Nat) (state : Objects) : Objects :=
  let requested := request own service .stopOffer state
  {requested with skeletons := requested.skeletons.insert skeleton false}

def constructSkeleton (skeleton : Nat) (state : Objects) : Objects :=
  offerService own service skeleton {state with skeletons := state.skeletons.insert skeleton false}

def destroySkeleton (skeleton : Nat) (offered : Bool) (state : Objects) : Objects :=
  let stopped := if offered then stopOfferService own service skeleton state else state
  {stopped with skeletons := stopped.skeletons.erase skeleton}

def constructProxy (proxy : Nat) (state : Objects) : Objects :=
  let requested := request own service .find state
  {requested with proxies := requested.proxies.emplace proxy}

def destroyProxy (proxy : Nat) (state : Objects) : Objects :=
  let requested := request own service .stopFind state
  {requested with proxies := requested.proxies.erase proxy}

def step (state : Objects) : Label → Option Objects
  | .constructProxy proxy =>
    if proxy ∈ state.proxies then none else some (constructProxy own service proxy state)
  | .destroyProxy proxy =>
    if proxy ∈ state.proxies then some (destroyProxy own service proxy state) else none
  | .constructSkeleton skeleton =>
    if (state.skeletons.find skeleton).isSome then none
    else some (constructSkeleton own service skeleton state)
  | .destroySkeleton skeleton =>
    (state.skeletons.find skeleton).map (fun offered => destroySkeleton own service skeleton offered state)
  | .offerService skeleton =>
    if (state.skeletons.find skeleton).isSome then some (offerService own service skeleton state) else none
  | .stopOfferService skeleton =>
    if (state.skeletons.find skeleton).isSome then some (stopOfferService own service skeleton state)
    else none
  | .cycle => some (cycle own state)

inductive Move (state : Objects) : Label → Objects → Prop
  | constructProxy (proxy) (fresh : proxy ∉ state.proxies) :
      Move state (.constructProxy proxy) (constructProxy own service proxy state)
  | destroyProxy (proxy) (alive : proxy ∈ state.proxies) :
      Move state (.destroyProxy proxy) (destroyProxy own service proxy state)
  | constructSkeleton (skeleton) (fresh : state.skeletons.find skeleton = none) :
      Move state (.constructSkeleton skeleton) (constructSkeleton own service skeleton state)
  | destroySkeleton (skeleton offered) (alive : state.skeletons.find skeleton = some offered) :
      Move state (.destroySkeleton skeleton) (destroySkeleton own service skeleton offered state)
  | offerService (skeleton) (alive : (state.skeletons.find skeleton).isSome = true) :
      Move state (.offerService skeleton) (offerService own service skeleton state)
  | stopOfferService (skeleton) (alive : (state.skeletons.find skeleton).isSome = true) :
      Move state (.stopOfferService skeleton) (stopOfferService own service skeleton state)
  | cycle : Move state .cycle (cycle own state)

theorem step_move (state next : Objects) (label : Label)
    (stepped : step own service state label = some next) : Move own service state label next := by
  cases label with
  | destroySkeleton skeleton =>
    obtain ⟨offered,alive,rfl⟩ := Option.map_eq_some_iff.mp stepped
    exact .destroySkeleton skeleton offered alive
  | cycle =>
    cases stepped
    exact .cycle
  | constructProxy proxy =>
    simp only [step] at stepped
    split at stepped
    next => cases stepped
    next fresh =>
      cases stepped
      exact .constructProxy proxy fresh
  | destroyProxy proxy =>
    simp only [step] at stepped
    split at stepped
    next alive =>
      cases stepped
      exact .destroyProxy proxy alive
    next => cases stepped
  | constructSkeleton skeleton =>
    simp only [step] at stepped
    split at stepped
    next => cases stepped
    next fresh =>
      cases stepped
      have absent : state.skeletons.find skeleton = none := by simpa using fresh
      exact .constructSkeleton skeleton absent
  | offerService skeleton =>
    simp only [step] at stepped
    split at stepped
    next alive =>
      cases stepped
      exact .offerService skeleton alive
    next => cases stepped
  | stopOfferService skeleton =>
    simp only [step] at stepped
    split at stepped
    next alive =>
      cases stepped
      exact .stopOfferService skeleton alive
    next => cases stepped

end Operations

section Property
variable (own : ServiceEntityInfo) (service : ServiceDescription)

def Registered (role : Role) (state : Objects) : Prop :=
  own ∈ (statusOf state.registry service).entities role true

instance (role : Role) (state : Objects) : Decidable (Registered own service role state) :=
  inferInstanceAs (Decidable (own ∈ (statusOf state.registry service).entities role true))

def Alive (state : Objects) : Role → Prop
  | .provider => ∃ skeleton, state.skeletons.find skeleton = some true
  | .consumer => ∃ proxy, proxy ∈ state.proxies

/-- The process is a local consumer as long as a proxy lives, and a local provider as
long as a skeleton is offered. -/
def Lawful (state : Objects) : Prop :=
  (own ∈ (statusOf state.registry service).localConsumers ↔ ∃ proxy, proxy ∈ state.proxies) ∧
  (own ∈ (statusOf state.registry service).localProviders ↔
    ∃ skeleton, state.skeletons.find skeleton = some true)

/-- An object withdraws only as the last one of its role. -/
def LastOfRole (state : Objects) : Label → Prop
  | .destroyProxy proxy => ∀ other ∈ state.proxies, other = proxy
  | .destroySkeleton skeleton => state.skeletons.find skeleton = some true →
      ∀ other, state.skeletons.find other = some true → other = skeleton
  | .stopOfferService skeleton =>
      ∀ other, state.skeletons.find other = some true → other = skeleton
  | _ => True

/-- What is pending repeats what the registry already holds. -/
structure Settled (state : Objects) : Prop where
  always : ∀ message, state.pending.messageNeedSendAlways.find service = some message →
    ∃ operation, operation.announces = true ∧ message = discoveryMessage own operation service ∧
      Registered own service operation.role state
  someTimes : ∀ counted, state.pending.messageNeedSendSomeTimes.find service = some counted →
    ∃ operation, operation.announces = false ∧
      counted.discoveryMessage = discoveryMessage own operation service ∧
      ¬ Registered own service operation.role state
  others : ∀ other, other ≠ service → state.pending.messageNeedSendAlways.find other = none ∧
    state.pending.messageNeedSendSomeTimes.find other = none

theorem lawful_iff (state : Objects) :
    Lawful own service state ↔ ∀ role, Registered own service role state ↔ Alive state role := by
  constructor
  · intro lawful role
    cases role with
    | provider => exact lawful.2
    | consumer => exact lawful.1
  · intro all
    exact ⟨all .consumer,all .provider⟩

end Property

section Preservation
variable {own : ServiceEntityInfo} {service : ServiceDescription}

theorem word_own (operation : ServiceDiscoveryOperation) (role : Role) :
    wordOnSide own.hostId service role true own (discoveryMessage own operation service) =
      if operation.role = role then some operation.announces else none := by
  simp [wordOnSide,word]

theorem request_registered (operation : ServiceDiscoveryOperation) (role : Role) (state : Objects) :
    Registered own service role (request own service operation state) ↔
      if operation.role = role then operation.announces = true else Registered own service role state := by
  have updated := member_update own.hostId service role true own state.registry
    (discoveryMessage own operation service)
  rw [word_own] at updated
  unfold Registered
  rw [← decide_eq_true_iff (p := own ∈ (statusOf (request own service operation state).registry
    service).entities role true)]
  change decide (own ∈ (statusOf (updateRegistryFromServiceDiscovery own.hostId state.registry
    (discoveryMessage own operation service)) service).entities role true) = true ↔ _
  rw [updated]
  split <;> simp

theorem request_settled (operation : ServiceDiscoveryOperation) (state : Objects)
    (held : Settled own service state) : Settled own service (request own service operation state) := by
  have registered : Registered own service operation.role (request own service operation state) ↔
      operation.announces = true := by rw [request_registered,if_pos rfl]
  refine ⟨?_,?_,?_⟩
  · intro message found
    change (secondRegion own operation service (firstRegion operation service
      state.pending)).messageNeedSendAlways.find service = some message at found
    rw [secondRegion_always,firstRegion_always] at found
    cases kind : operation.announces with
    | true =>
      rw [if_pos ⟨kind,rfl⟩] at found
      exact ⟨operation,kind,(Option.some.inj found).symm,registered.mpr kind⟩
    | false => simp [kind] at found
  · intro counted found
    change (secondRegion own operation service (firstRegion operation service
      state.pending)).messageNeedSendSomeTimes.find service = some counted at found
    rw [secondRegion_someTimes,firstRegion_someTimes] at found
    cases kind : operation.announces with
    | true => simp [kind] at found
    | false =>
      rw [if_pos ⟨kind,rfl⟩] at found
      refine ⟨operation,kind,?_,?_⟩
      · rw [← Option.some.inj found]
      · rw [registered,kind]
        exact Bool.false_ne_true
  · intro other different
    obtain ⟨first_always,first_someTimes⟩ := firstRegion_other operation service other state.pending different
    obtain ⟨second_always,second_someTimes⟩ := secondRegion_other own operation service other
      (firstRegion operation service state.pending) different
    obtain ⟨always,someTimes⟩ := held.others other different
    exact ⟨(second_always.trans first_always).trans always,
      (second_someTimes.trans first_someTimes).trans someTimes⟩

theorem cycle_registered (role : Role) (state : Objects) (held : Settled own service state) :
    Registered own service role (cycle own state) ↔ Registered own service role state := by
  refine decide_eq_decide.mp (fold_settled (updateRegistryFromServiceDiscovery own.hostId)
    (fun registry => decide (own ∈ (statusOf registry service).entities role true))
    (wordOnSide own.hostId service role true own)
    (member_update own.hostId service role true own) (discoveryCycle state.pending).1 state.registry ?_)
  intro message written word said
  rcases (mem_discoveryCycle _ _).mp written with ⟨named,found⟩ | ⟨named,counted,found,rfl⟩
  · by_cases same : named = service
    · subst same
      obtain ⟨operation,kind,rfl,registered⟩ := held.always message found
      rw [word_own] at said
      split at said
      next about =>
        subst about
        cases said
        exact kind.trans (decide_eq_true registered).symm
      next => cases said
    · rw [(held.others named same).1] at found
      cases found
  · by_cases same : named = service
    · subst same
      obtain ⟨operation,kind,value,unregistered⟩ := held.someTimes counted found
      rw [value,word_own] at said
      split at said
      next about =>
        subst about
        cases said
        exact kind.trans (decide_eq_false unregistered).symm
      next => cases said
    · rw [(held.others named same).2] at found
      cases found

theorem cycle_settled (state : Objects) (held : Settled own service state) :
    Settled own service (cycle own state) := by
  refine ⟨?_,?_,?_⟩
  · intro message found
    obtain ⟨operation,kind,value,registered⟩ := held.always message found
    exact ⟨operation,kind,value,(cycle_registered _ state held).mpr registered⟩
  · intro counted found
    change (discoveryCycle state.pending).2.messageNeedSendSomeTimes.find service = some counted at found
    rw [discoveryCycle_someTimes,Option.bind_eq_some_iff] at found
    obtain ⟨before,present,counted_up⟩ := found
    obtain ⟨operation,kind,value,unregistered⟩ := held.someTimes before present
    have message := countUp_message service before counted counted_up
    refine ⟨operation,kind,message.trans value,?_⟩
    rw [cycle_registered _ state held]
    exact unregistered
  · intro other different
    obtain ⟨always,someTimes⟩ := held.others other different
    refine ⟨always,?_⟩
    change (discoveryCycle state.pending).2.messageNeedSendSomeTimes.find other = none
    rw [discoveryCycle_someTimes,someTimes,Option.bind_none]

theorem Settled.objects {state : Objects} (held : Settled own service state) (proxies : OrderedSet Nat)
    (skeletons : OrderedMap Nat Bool) :
    Settled own service {state with proxies := proxies,skeletons := skeletons} :=
  ⟨held.always,held.someTimes,held.others⟩

theorem move_settled (state next : Objects) (label : Label) (move : Move own service state label next)
    (held : Settled own service state) : Settled own service next := by
  cases move with
  | constructProxy proxy fresh => exact (request_settled .find state held).objects _ _
  | destroyProxy proxy alive => exact (request_settled .stopFind state held).objects _ _
  | constructSkeleton skeleton fresh =>
    have created := held.objects state.proxies (state.skeletons.insert skeleton false)
    exact (request_settled .offer _ created).objects _ _
  | destroySkeleton skeleton offered alive =>
    cases offered with
    | true => exact (request_settled .stopOffer state held).objects _ _
    | false => exact held.objects _ _
  | offerService skeleton alive => exact (request_settled .offer state held).objects _ _
  | stopOfferService skeleton alive => exact (request_settled .stopOffer state held).objects _ _
  | cycle => exact cycle_settled state held

/-- After a request that leaves the objects of the other role alone, the law holds if the
request announces exactly as an object of its role is alive. -/
theorem lawful_after_request (operation : ServiceDiscoveryOperation) (state next : Objects)
    (registry : next.registry = (request own service operation state).registry)
    (frame : ∀ role, role ≠ operation.role → (Alive next role ↔ Alive state role))
    (lawful : Lawful own service state) :
    Lawful own service next ↔ (operation.announces = true ↔ Alive next operation.role) := by
  have registered (role : Role) : Registered own service role next ↔
      if operation.role = role then operation.announces = true
      else Registered own service role state := by
    rw [← request_registered]
    unfold Registered
    rw [registry]
  rw [lawful_iff] at lawful ⊢
  constructor
  · intro all
    have here := all operation.role
    rw [registered,if_pos rfl] at here
    exact here
  · intro here role
    rw [registered]
    split
    next same =>
      rw [← same]
      exact here
    next apart =>
      rw [frame role (Ne.symm apart)]
      exact lawful role

theorem withdrawn_iff (live : Nat → Prop) (last : Nat) :
    (false = true ↔ ∃ other, other ≠ last ∧ live other) ↔ ∀ other, live other → other = last := by
  constructor
  · intro none_left other alive
    by_contra apart
    exact Bool.false_ne_true (none_left.mpr ⟨other,apart,alive⟩)
  · intro only
    apply iff_of_false Bool.false_ne_true
    intro remaining
    obtain ⟨other,apart,alive⟩ := remaining
    exact apart (only other alive)

theorem offered_after_stop (skeletons : OrderedMap Nat Bool) (skeleton other : Nat) :
    (skeletons.insert skeleton false).find other = some true ↔
      other ≠ skeleton ∧ skeletons.find other = some true := by
  rw [OrderedMap.find_insert]
  split <;> simp_all

theorem offered_after_erase (skeletons : OrderedMap Nat Bool) (skeleton other : Nat) :
    (skeletons.erase skeleton).find other = some true ↔
      other ≠ skeleton ∧ skeletons.find other = some true := by
  rw [OrderedMap.find_erase]
  split <;> simp_all

theorem constructProxy_lawful (proxy : Nat) (state : Objects) (lawful : Lawful own service state) :
    Lawful own service (constructProxy own service proxy state) := by
  refine (lawful_after_request .find state (constructProxy own service proxy state) rfl ?_ lawful).mpr ?_
  · intro role other
    cases role with
    | provider => rfl
    | consumer => exact absurd rfl other
  · refine iff_of_true rfl ⟨proxy,?_⟩
    simp [constructProxy]

theorem destroyProxy_lawful_iff (proxy : Nat) (state : Objects) (lawful : Lawful own service state) :
    Lawful own service (destroyProxy own service proxy state) ↔
      ∀ other ∈ state.proxies, other = proxy := by
  refine (lawful_after_request .stopFind state (destroyProxy own service proxy state) rfl ?_ lawful).trans ?_
  · intro role other
    cases role with
    | provider => rfl
    | consumer => exact absurd rfl other
  · rw [← withdrawn_iff]
    simp [Alive,role,announces,destroyProxy,request]

theorem offerService_lawful (skeleton : Nat) (state : Objects) (lawful : Lawful own service state) :
    Lawful own service (offerService own service skeleton state) := by
  refine (lawful_after_request .offer state (offerService own service skeleton state) rfl ?_ lawful).mpr ?_
  · intro role other
    cases role with
    | provider => exact absurd rfl other
    | consumer => rfl
  · exact iff_of_true rfl ⟨skeleton,OrderedMap.find_insert_self _ _ _⟩

theorem stopOfferService_lawful_iff (skeleton : Nat) (state : Objects)
    (lawful : Lawful own service state) :
    Lawful own service (stopOfferService own service skeleton state) ↔
      ∀ other, state.skeletons.find other = some true → other = skeleton := by
  refine (lawful_after_request .stopOffer state (stopOfferService own service skeleton state) rfl ?_ lawful).trans ?_
  · intro role other
    cases role with
    | provider => exact absurd rfl other
    | consumer => rfl
  · rw [← withdrawn_iff]
    simp only [Alive,role,announces,stopOfferService,request,offered_after_stop]

theorem lawful_of_offered {state : Objects} (lawful : Lawful own service state)
    (skeletons : OrderedMap Nat Bool)
    (same : ∀ other, skeletons.find other = some true ↔ state.skeletons.find other = some true) :
    Lawful own service {state with skeletons := skeletons} := by
  refine ⟨lawful.1,lawful.2.trans ?_⟩
  exact exists_congr (fun other => (same other).symm)

theorem destroySkeleton_lawful_iff (skeleton : Nat) (offered : Bool) (state : Objects)
    (found : state.skeletons.find skeleton = some offered) (lawful : Lawful own service state) :
    Lawful own service (destroySkeleton own service skeleton offered state) ↔
      (offered = true → ∀ other, state.skeletons.find other = some true → other = skeleton) := by
  cases offered with
  | true =>
    rw [← stopOfferService_lawful_iff skeleton state lawful]
    have same (other : Nat) : ((state.skeletons.insert skeleton false).erase skeleton).find other =
        some true ↔ (state.skeletons.insert skeleton false).find other = some true := by
      simp [offered_after_erase,offered_after_stop]
    constructor
    · intro after _
      exact lawful_of_offered after _ (fun other => (same other).symm)
    · intro before
      exact lawful_of_offered (before rfl) _ same
  | false =>
    refine iff_of_true (lawful_of_offered lawful _ ?_) (fun offered => absurd offered Bool.false_ne_true)
    intro other
    change (state.skeletons.erase skeleton).find other = some true ↔ _
    rw [offered_after_erase,and_iff_right_iff_imp]
    intro present same
    rw [same,found] at present
    cases present

theorem constructSkeleton_lawful (skeleton : Nat) (state : Objects)
    (fresh : state.skeletons.find skeleton = none) (lawful : Lawful own service state) :
    Lawful own service (constructSkeleton own service skeleton state) := by
  refine offerService_lawful skeleton _ (lawful_of_offered lawful _ ?_)
  intro other
  rw [offered_after_stop,and_iff_right_iff_imp]
  intro present same
  rw [same,fresh] at present
  cases present

theorem lawful_move_iff (state next : Objects) (label : Label) (move : Move own service state label next)
    (held : Settled own service state) (lawful : Lawful own service state) :
    Lawful own service next ↔ LastOfRole state label := by
  cases move with
  | constructProxy proxy fresh => exact iff_of_true (constructProxy_lawful proxy state lawful) trivial
  | destroyProxy proxy alive => exact destroyProxy_lawful_iff proxy state lawful
  | constructSkeleton skeleton fresh =>
    exact iff_of_true (constructSkeleton_lawful skeleton state fresh lawful) trivial
  | destroySkeleton skeleton offered alive =>
    rw [destroySkeleton_lawful_iff skeleton offered state alive lawful]
    simp [LastOfRole,alive]
  | offerService skeleton alive => exact iff_of_true (offerService_lawful skeleton state lawful) trivial
  | stopOfferService skeleton alive => exact stopOfferService_lawful_iff skeleton state lawful
  | cycle =>
    rw [lawful_iff] at lawful ⊢
    refine iff_of_true ?_ trivial
    intro role
    rw [cycle_registered role state held]
    exact lawful role

/-- The law of lifetimes holds throughout a history exactly if in it objects withdraw
only as the last of their role. -/
theorem lifetimes_lawful_iff (own : ServiceEntityInfo) (service : ServiceDescription)
    (labels : List Label) :
    Throughout (step own service) (Lawful own service) {} labels ↔
      Along (step own service) LastOfRole {} labels := by
  refine throughout_iff_along (step own service) (Settled own service) (Lawful own service) LastOfRole
    ?_ ?_ labels ({} : Objects) ?_ ?_
  · intro state label next stepped
    exact move_settled state next label (step_move own service state next label stepped)
  · intro state label next stepped
    exact lawful_move_iff state next label (step_move own service state next label stepped)
  · refine ⟨?_,?_,?_⟩
    · intro message found
      cases found
    · intro counted found
      cases found
    · intro other _
      exact ⟨rfl,rfl⟩
  · simp [Lawful]

/-- Of two live proxies one is destroyed, and the process no longer counts as a consumer. -/
theorem second_proxy_forgotten : ¬ Throughout (step ⟨"10.0.0.1/","100"⟩ ⟨10,1⟩)
    (Lawful ⟨"10.0.0.1/","100"⟩ ⟨10,1⟩) {}
    [.constructProxy 0,.constructProxy 1,.destroyProxy 0] := by
  intro all
  have lawful := Throughout.final _ _ _ _ _ all rfl
  have member := lawful.1.mpr ⟨1,rfl⟩
  revert member
  decide

end Preservation
end Smw.ServiceObjects
