import Smw.DiscoveryHistory

/-! How often a stop message is written: once by the request itself, and once more in each
of the five cycles that follow, unless a later request on the service takes its slot. -/
namespace Smw.StopMessages
open Foundation Foundation.LastWord PendingMessages DiscoveryHistory ServiceDiscoveryOperation

def CountersBelow (someTimes : SomeTimesMap) : Prop :=
  ∀ service counted, someTimes.find service = some counted → counted.count < maxDiscoveryCount

/-- The messages that a process writes while it acts, from what it has pending. -/
def written (own : ServiceEntityInfo) (pending : Pending) : List Act → List ServiceDiscovery
  | [] => []
  | next :: rest =>
    let done := act own pending next
    done.1 ++ written own done.2 rest

def about (service : ServiceDescription) (messages : List ServiceDiscovery) : List ServiceDiscovery :=
  messages.filter (fun message => message.serviceDesc = service)

section Counters

theorem count_next (count : UInt16) (below : count < maxDiscoveryCount) :
    (count + 1).toNat = count.toNat + 1 := by
  have bound : count.toNat < 5 := below
  rw [UInt16.toNat_add]
  exact Nat.mod_eq_of_lt (by simp; omega)

/-- A counter below the maximum becomes it or stays below it. -/
theorem countUp_eq (service : ServiceDescription) (counted : DiscoveryMessageWithCounter)
    (below : counted.count < maxDiscoveryCount) :
    countUp service counted =
      if counted.count + 1 = maxDiscoveryCount then none
      else some {counted with count := counted.count + 1} := by
  have next := count_next counted.count below
  have bound : counted.count.toNat < 5 := below
  have reached : counted.count + 1 ≥ maxDiscoveryCount ↔ counted.count + 1 = maxDiscoveryCount := by
    rw [← UInt16.toNat_inj,ge_iff_le,UInt16.le_iff_toNat_le,next]
    change 5 ≤ _ ↔ _ = 5
    omega
  unfold countUp
  simp only [reached]

theorem countUp_below (service : ServiceDescription) (earlier counted : DiscoveryMessageWithCounter)
    (counting : countUp service earlier = some counted) : counted.count < maxDiscoveryCount := by
  unfold countUp at counting
  split at counting
  next => cases counting
  next short =>
    cases counting
    exact UInt16.not_le.mp short

theorem act_below (own : ServiceEntityInfo) (pending : Pending) (next : Act)
    (below : CountersBelow pending.messageNeedSendSomeTimes) :
    CountersBelow (act own pending next).2.messageNeedSendSomeTimes := by
  intro service counted found
  cases next with
  | cycle =>
    rw [act,discoveryCycle_someTimes] at found
    obtain ⟨earlier,_,counting⟩ := Option.bind_eq_some_iff.mp found
    exact countUp_below service earlier counted counting
  | request operation named =>
    simp only [act,requestDiscoveryOperation,secondRegion_someTimes,firstRegion_someTimes] at found
    split at found
    next =>
      cases found
      exact (by decide : (0 : UInt16) < maxDiscoveryCount)
    next =>
      split at found
      next => cases found
      next => exact below service counted found

theorem pendingAfter_snoc (own : ServiceEntityInfo) (acts : List Act) (next : Act) :
    pendingAfter own (acts ++ [next]) = (act own (pendingAfter own acts) next).2 := by
  simp [pendingAfter]

theorem counters_below (own : ServiceEntityInfo) (acts : List Act) :
    CountersBelow (pendingAfter own acts).messageNeedSendSomeTimes := by
  induction acts using List.reverseRecOn with
  | nil =>
    intro service counted found
    cases found
  | append_singleton acts next ih =>
    rw [pendingAfter_snoc]
    exact act_below own _ next ih

end Counters

section Written
variable (own : ServiceEntityInfo) (service : ServiceDescription)

theorem about_append (first second : List ServiceDiscovery) :
    about service (first ++ second) = about service first ++ about service second :=
  List.filter_append first second

theorem written_snoc (pending : Pending) (acts : List Act) (next : Act) :
    written own pending (acts ++ [next]) = written own pending acts ++
      (act own (acts.foldl (fun before later => (act own before later).2) pending) next).1 := by
  induction acts generalizing pending with
  | nil => simp [written]
  | cons first rest ih =>
    rw [List.cons_append,written,written,ih,List.foldl_cons,List.append_assoc]

/-- Messages that are filed under the service they are about. -/
theorem about_filed {V : Type} (map : OrderedMap ServiceDescription V) (message : V → ServiceDiscovery)
    (filed : ∀ key value, map.find key = some value → (message value).serviceDesc = key) :
    about service (map.entries.map (fun entry => message entry.2)) =
      ((map.find service).map message).toList := by
  have same : ∀ entry ∈ map.entries,
      decide ((message entry.2).serviceDesc = service) = decide (entry.1 = service) := by
    intro entry member
    rw [filed entry.1 entry.2 ((OrderedMap.find_eq_some_iff _ _ _).mpr member)]
  rw [about,List.filter_map]
  change ((map.entries.filter (fun entry => (message entry.2).serviceDesc = service)).map _) = _
  rw [List.filter_congr same]
  have values := congrArg (List.map message) (OrderedMap.entries_at map service)
  rw [List.map_map] at values
  rw [Option.toList_map]
  exact values

/-- What a cycle writes about a service is what each of the two maps holds for it. -/
theorem cycle_about (acts : List Act) :
    about service (discoveryCycle (pendingAfter own acts)).1 =
      ((pendingAfter own acts).messageNeedSendAlways.find service).toList ++
      (((pendingAfter own acts).messageNeedSendSomeTimes.find service).map
        DiscoveryMessageWithCounter.discoveryMessage).toList := by
  have always : ∀ key message, (pendingAfter own acts).messageNeedSendAlways.find key = some message →
      (id message).serviceDesc = key := by
    intro key message found
    rw [always_after,Option.bind_eq_some_iff] at found
    obtain ⟨operation,_,announced⟩ := found
    unfold announcementOf at announced
    split at announced
    next =>
      cases announced
      rfl
    next => cases announced
  have some_times : ∀ key counted, (pendingAfter own acts).messageNeedSendSomeTimes.find key = some counted →
      counted.discoveryMessage.serviceDesc = key := by
    intro key counted found
    obtain ⟨operation,_,_,same⟩ := someTimes_after own key acts counted found
    rw [same,discoveryMessage_serviceDesc]
  unfold discoveryCycle sendAlwaysMessage
  rw [sendAndRemoveSomeTimeMessage_eq,about_append]
  have first := about_filed service _ id always
  have second := about_filed service _ DiscoveryMessageWithCounter.discoveryMessage some_times
  rw [Option.map_id] at first
  exact congrArg₂ (· ++ ·) first second

end Written

section AfterAStop
variable (own : ServiceEntityInfo) (operation : ServiceDiscoveryOperation) (service : ServiceDescription)

/-- The slot of a stop message that has been resent so many times. -/
def slotAfter (cycles : Nat) : Option DiscoveryMessageWithCounter :=
  if cycles < 5 then some ⟨discoveryMessage own operation service,UInt16.ofNat cycles⟩ else none

theorem slotAfter_next (cycles : Nat) :
    (slotAfter own operation service cycles).bind (countUp service) =
      slotAfter own operation service (cycles + 1) := by
  unfold slotAfter
  by_cases more : cycles < 5
  · rw [if_pos more,Option.bind_some]
    have cases_of : cycles = 0 ∨ cycles = 1 ∨ cycles = 2 ∨ cycles = 3 ∨ cycles = 4 := by omega
    rcases cases_of with rfl | rfl | rfl | rfl | rfl <;> rfl
  · rw [if_neg more,if_neg (by omega)]
    rfl

theorem act_silent (pending : Pending) (named : ServiceDescription) (other : ServiceDiscoveryOperation)
    (silent : requestOn service (.request other named) = none) :
    (act own pending (.request other named)).2.messageNeedSendSomeTimes.find service =
      pending.messageNeedSendSomeTimes.find service ∧
    about service (act own pending (.request other named)).1 = [] := by
  have different : named ≠ service := by
    intro same
    simp [requestOn,same] at silent
  constructor
  · simp only [act,requestDiscoveryOperation]
    rw [(secondRegion_other own other named service _ (Ne.symm different)).2]
    exact (firstRegion_other other named service _ (Ne.symm different)).2
  · simp [act,requestDiscoveryOperation,about,different]

theorem slot_after_stop (stops : operation.announces = false) (before after : List Act)
    (silent : ∀ next ∈ after, requestOn service next = none) :
    (pendingAfter own (before ++ .request operation service :: after)).messageNeedSendSomeTimes.find service =
      slotAfter own operation service (after.count .cycle) := by
  induction after using List.reverseRecOn with
  | nil =>
    rw [pendingAfter_snoc]
    simp only [act,requestDiscoveryOperation,secondRegion_someTimes,stops,and_self,if_true]
    rfl
  | append_singleton after next ih =>
    have so_far := ih (fun earlier member => silent earlier (List.mem_append_left _ member))
    rw [← List.cons_append,← List.append_assoc,pendingAfter_snoc]
    cases next with
    | cycle =>
      rw [act,discoveryCycle_someTimes,so_far,slotAfter_next]
      simp
    | request other named =>
      have quiet := silent (.request other named) (by simp)
      rw [(act_silent own service _ named other quiet).1,so_far]
      simp

theorem always_after_stop (stops : operation.announces = false) (before after : List Act)
    (silent : ∀ next ∈ after, requestOn service next = none) :
    (pendingAfter own (before ++ .request operation service :: after)).messageNeedSendAlways.find service =
      none := by
  have quiet : lastWord (requestOn service) after = none := (lastWord_eq_none_iff _ _).mpr silent
  have last : lastOn service (before ++ .request operation service :: after) = some operation := by
    rw [List.append_cons,lastOn,lastWord_append,quiet,Option.none_or,lastWord_snoc]
    simp [requestOn]
  rw [always_after,last,Option.bind_some,announcementOf,stops]
  rfl

/-- A stop message is written by its request and in the first five cycles after it. -/
theorem written_after_stop (stops : operation.announces = false) (before after : List Act)
    (silent : ∀ next ∈ after, requestOn service next = none) :
    about service (written own (pendingAfter own before) (.request operation service :: after)) =
      List.replicate (1 + min (after.count .cycle) 5) (discoveryMessage own operation service) := by
  induction after using List.reverseRecOn with
  | nil => simp [written,act,requestDiscoveryOperation,about]
  | append_singleton after next ih =>
    have earlier : ∀ previous ∈ after, requestOn service previous = none :=
      fun previous member => silent previous (List.mem_append_left _ member)
    have reached : (Act.request operation service :: after).foldl
          (fun pending later => (act own pending later).2) (pendingAfter own before) =
        pendingAfter own (before ++ .request operation service :: after) := by
      rw [pendingAfter,pendingAfter,List.foldl_append]
    rw [← List.cons_append,written_snoc,about_append,ih earlier,reached]
    cases next with
    | cycle =>
      rw [act,cycle_about,always_after_stop own operation service stops before after earlier,
        slot_after_stop own operation service stops before after earlier]
      rw [List.count_append,List.count_singleton_self]
      unfold slotAfter
      by_cases more : after.count .cycle < 5
      · have next : 1 + min (after.count .cycle + 1) 5 = 1 + min (after.count .cycle) 5 + 1 := by omega
        rw [if_pos more,next,List.replicate_succ']
        rfl
      · have next : 1 + min (after.count .cycle + 1) 5 = 1 + min (after.count .cycle) 5 := by omega
        rw [if_neg more,next]
        exact List.append_nil _
    | request other named =>
      have quiet := silent (.request other named) (by simp)
      rw [(act_silent own service _ named other quiet).2]
      simp

end AfterAStop

/-- One pass writes each entry once in service order and drops exactly those whose counter
becomes the maximum; so the counters stay below it, and a stop message is written once
and then in the first five cycles, if no other request takes its slot. -/
theorem stop_messages_resent (own : ServiceEntityInfo) :
    (∀ someTimes, CountersBelow someTimes →
      someTimes.keys.Pairwise (fun earlier later => earlier < later) ∧
      (sendAndRemoveSomeTimeMessage someTimes).1 =
        someTimes.entries.map (fun entry => entry.2.discoveryMessage) ∧
      ∀ service, (sendAndRemoveSomeTimeMessage someTimes).2.find service =
        (someTimes.find service).bind (fun counted =>
          if counted.count + 1 = maxDiscoveryCount then none
          else some {counted with count := counted.count + 1})) ∧
    (∀ acts, CountersBelow (pendingAfter own acts).messageNeedSendSomeTimes) ∧
    ∀ before after operation service, operation.announces = false →
      (∀ next ∈ after, requestOn service next = none) →
      about service (written own (pendingAfter own before) (.request operation service :: after)) =
        List.replicate (1 + min (after.count .cycle) 5) (discoveryMessage own operation service) := by
  refine ⟨?_,counters_below own,?_⟩
  · intro someTimes below
    rw [sendAndRemoveSomeTimeMessage_eq]
    refine ⟨someTimes.keys_ordered,rfl,?_⟩
    intro service
    rw [OrderedMap.find_refresh]
    cases found : someTimes.find service with
    | none => rfl
    | some counted => exact countUp_eq service counted (below service counted found)
  · intro before after operation service stops silent
    exact written_after_stop own operation service stops before after silent

theorem stop_offer_written_six_times :
    about ⟨10,1⟩ (written ⟨"10.0.0.1/","100"⟩ (pendingAfter ⟨"10.0.0.1/","100"⟩ [.request .offer ⟨10,1⟩,.cycle])
      [.request .stopOffer ⟨10,1⟩,.cycle,.cycle,.request .stopFind ⟨10,2⟩,.cycle,.cycle,.cycle,.cycle]) =
    List.replicate 6 (discoveryMessage ⟨"10.0.0.1/","100"⟩ .stopOffer ⟨10,1⟩) :=
  (stop_messages_resent ⟨"10.0.0.1/","100"⟩).2.2 [.request .offer ⟨10,1⟩,.cycle]
    [.cycle,.cycle,.request .stopFind ⟨10,2⟩,.cycle,.cycle,.cycle,.cycle] .stopOffer ⟨10,1⟩ rfl (by decide)

end Smw.StopMessages
