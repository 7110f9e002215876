import Smw.SubscriberExclusion

/-! Publications while a subscriber changes its transport. A call of publish writes to DDS and
then to iceoryx; the subscriber disables one reader and enables the other in between or not,
and what a reader has taken is handed over later. -/
namespace Smw.SwitchOver
open Foundation Foundation.Execution ServiceRegistry Subscriber SubscriberExclusion

/-- The subscriber, and the publications by the order in which their calls began. -/
structure Crossing (P : Type) where
  subscriber : SubscriberState
  /-- The publication that a publisher has written to DDS and not yet to iceoryx. -/
  publishing : P → Option Nat := fun _ => none
  published : Nat := 0
  /-- What is on its way to the data reader or waits in it, and is lost with it. -/
  flight : List Nat := []
  /-- m_user_callback_execution_queue, which stays when the data reader goes. -/
  executionQueue : List Nat := []
  /-- The queue of the iceoryx subscriber, and the chunk that its listener has taken from it. -/
  chunks : List Nat := []
  taken : Option Nat := none
  /-- What each reader has called the callback of the subscriber with. -/
  handed : Reader → List Nat := fun _ => []

/-- The answers of the two queries of a call are part of its labels. Whether iceoryx puts a
chunk into the queue of the reader is left open, and so is what it discards there. -/
inductive Label (P : Type)
  | subscriber (label : Subscriber.Label)
  | writeDds (publisher : P) (hasRemoteConsumer : Bool)
  | writeIox (publisher : P) (hasLocalConsumer accepted : Bool)
  | takeDds (publication : Nat)
  | callDds
  | takeIox
  | callIox
  | lose (publication : Nat)
  | discard (publication : Nat)

def Crossing.hand {P : Type} (state : Crossing P) (reader : Reader) (publication : Nat) : Crossing P :=
  {state with handed := Function.update state.handed reader (state.handed reader ++ [publication])}

def Crossing.copies {P : Type} (state : Crossing P) (publication : Nat) : Nat :=
  (state.handed .dds).count publication + (state.handed .iox).count publication

section Step
variable {P : Type} [DecidableEq P] (own : String) (service : ServiceDescription) (sameHost : P → Bool)

/-- A step of the subscriber, of a publisher, of a thread of a reader or of a transport. -/
def step (state : Crossing P) : Label P → Option (Crossing P)
  | .subscriber label =>
    (Subscriber.step own service state.subscriber label).map (fun subscriber =>
      {state with
        subscriber := subscriber
        flight := if subscriber.enabled .dds then state.flight else []})
  | .writeDds publisher hasRemoteConsumer =>
    match state.publishing publisher with
    | some _ => none
    | none => some {state with
        publishing := Function.update state.publishing publisher (some state.published)
        published := state.published + 1
        flight := if hasRemoteConsumer && state.subscriber.enabled .dds
          then state.flight ++ [state.published] else state.flight}
  | .writeIox publisher hasLocalConsumer accepted =>
    match state.publishing publisher with
    | none => none
    | some publication => some {state with
        publishing := Function.update state.publishing publisher none
        chunks := if hasLocalConsumer && sameHost publisher && accepted
          then state.chunks ++ [publication] else state.chunks}
  | .takeDds publication =>
    if publication ∈ state.flight then some {state with
      flight := state.flight.erase publication
      executionQueue := state.executionQueue ++ [publication]}
    else none
  | .callDds =>
    match state.executionQueue with
    | publication :: rest => some (Crossing.hand {state with executionQueue := rest} .dds publication)
    | [] => none
  | .takeIox =>
    match state.taken,state.chunks with
    | none,publication :: rest => some {state with taken := some publication,chunks := rest}
    | _,_ => none
  | .callIox =>
    match state.taken with
    | some publication => some (Crossing.hand {state with taken := none} .iox publication)
    | none => none
  | .lose publication =>
    if publication ∈ state.flight then some {state with flight := state.flight.erase publication}
    else none
  | .discard publication =>
    if publication ∈ state.chunks then some {state with chunks := state.chunks.erase publication}
    else none

end Step

section Property
variable {P : Type}

/-- What has got through to a reader: handed over, or waiting to be. -/
def Crossing.entered (state : Crossing P) : Reader → List Nat
  | .dds => state.handed .dds ++ state.executionQueue
  | .iox => state.handed .iox ++ (state.taken.toList ++ state.chunks)

def Underway (state : Crossing P) (publication : Nat) : Prop :=
  (∃ publisher, state.publishing publisher = some publication) ∨ publication ∈ state.flight

def Waits (state : Crossing P) (publication : Nat) : Prop :=
  publication ∈ state.executionQueue ∨ state.taken = some publication ∨ publication ∈ state.chunks

/-- The callback of the subscriber is about to make a call. -/
def Calls (state : Crossing P) (label : Label P) (switch : Switch) : Prop :=
  label = .subscriber .callback ∧ ∃ todo, state.subscriber.delivery = some (.notifying (switch :: todo))

/-- The callback enables the reader of iceoryx between the two writes of a publication that
the DDS reader has already taken. -/
def Crosses (publication : Nat) (state : Crossing P) (label : Label P) : Prop :=
  Calls state label ⟨.iox,true⟩ ∧ publication ∈ state.entered .dds ∧
    ∃ publisher, state.publishing publisher = some publication

/-- Iceoryx accepts a chunk for a reader that has been disabled. -/
def Lags (publication : Nat) (state : Crossing P) (label : Label P) : Prop :=
  ∃ publisher, label = .writeIox publisher true true ∧ state.publishing publisher = some publication ∧
    state.subscriber.enabled .iox = false

/-- What may keep a publication from being handed over, or let it be handed over twice. -/
inductive Disturbs (publication : Nat) (state : Crossing P) (label : Label P) : Prop
  | switched (switch : Switch) (calls : Calls state label switch)
      (changes : state.subscriber.enabled switch.reader ≠ switch.enable) (underway : Underway state publication)
  | deaf (publisher : P) (answer : Bool) (begins : label = .writeDds publisher answer)
      (number : state.published = publication) (off : ∀ reader, state.subscriber.enabled reader = false)
  | disagrees (publisher : P) (answer accepted : Bool) (writes : label = .writeIox publisher answer accepted)
      (writing : state.publishing publisher = some publication)
      (differs : accepted ≠ state.subscriber.enabled .iox)
  | lost (loses : label = .lose publication)
  | discarded (discards : label = .discard publication)

/-- The publishers are on the host of the subscriber, and their queries find consumers on
this host and on others, so that each call makes both writes. -/
def Steady (sameHost : P → Bool) : Label P → Prop
  | .writeDds _ hasRemoteConsumer => hasRemoteConsumer = true
  | .writeIox publisher hasLocalConsumer _ => hasLocalConsumer = true ∧ sameHost publisher = true
  | _ => True

structure Sound (state : Crossing P) : Prop where
  excluding : Excluding state.subscriber
  returned : state.subscriber.construction = .returned
  writing : ∀ publisher publication, state.publishing publisher = some publication →
    publication < state.published
  alone : ∀ first second publication, state.publishing first = some publication →
    state.publishing second = some publication → first = second
  sent : ∀ publication ∈ state.flight, publication < state.published
  distinct : state.flight.Nodup
  silent : state.subscriber.enabled .dds = false → state.flight = []
  received : ∀ reader, ∀ publication ∈ state.entered reader, publication < state.published
  once : ∀ reader, (state.entered reader).Nodup
  landed : ∀ publication ∈ state.entered .dds, publication ∉ state.flight
  finished : ∀ publication ∈ state.entered .iox, ∀ publisher, state.publishing publisher ≠ some publication

end Property

section Moves
variable {P : Type} [DecidableEq P] (own : String) (service : ServiceDescription) (sameHost : P → Bool)

/-- Inside the readers samples only move on, unless iceoryx discards one. -/
inductive Move (state : Crossing P) : Label P → Crossing P → Prop
  | subscriber (label next) (stepped : Subscriber.step own service state.subscriber label = some next) :
      Move state (.subscriber label) {state with
        subscriber := next
        flight := if next.enabled .dds then state.flight else []}
  | sendDds (publisher) (idle : state.publishing publisher = none)
      (enabled : state.subscriber.enabled .dds = true) :
      Move state (.writeDds publisher true) {state with
        publishing := Function.update state.publishing publisher (some state.published)
        published := state.published + 1
        flight := state.flight ++ [state.published]}
  | skipDds (publisher answer) (idle : state.publishing publisher = none)
      (missed : answer = true → state.subscriber.enabled .dds = false) :
      Move state (.writeDds publisher answer) {state with
        publishing := Function.update state.publishing publisher (some state.published)
        published := state.published + 1}
  | acceptIox (publisher publication) (writing : state.publishing publisher = some publication) :
      Move state (.writeIox publisher true true) {state with
        publishing := Function.update state.publishing publisher none
        chunks := state.chunks ++ [publication]}
  | skipIox (publisher publication answer accepted) (writing : state.publishing publisher = some publication)
      (missed : answer = true → sameHost publisher = true → accepted = false) :
      Move state (.writeIox publisher answer accepted)
        {state with publishing := Function.update state.publishing publisher none}
  | takeDds (publication) (member : publication ∈ state.flight) :
      Move state (.takeDds publication) {state with
        flight := state.flight.erase publication
        executionQueue := state.executionQueue ++ [publication]}
  | lose (publication) (member : publication ∈ state.flight) :
      Move state (.lose publication) {state with flight := state.flight.erase publication}
  | inside (label handed queue taken chunks)
      (fewer : ∀ reader, (Crossing.entered
        {state with handed := handed,executionQueue := queue,taken := taken,chunks := chunks} reader).Sublist
          (state.entered reader))
      (kept : ∀ reader, ∀ publication ∈ state.entered reader, publication ∈ Crossing.entered
        {state with handed := handed,executionQueue := queue,taken := taken,chunks := chunks} reader ∨
          label = .discard publication) :
      Move state label {state with handed := handed,executionQueue := queue,taken := taken,chunks := chunks}

/-- A sample that goes on to the next place of its reader is the same sample. -/
theorem Move.onward (state : Crossing P) (label : Label P) (handed : Reader → List Nat) (queue : List Nat)
    (taken : Option Nat) (chunks : List Nat)
    (same : ∀ reader, Crossing.entered
      {state with handed := handed,executionQueue := queue,taken := taken,chunks := chunks} reader =
        state.entered reader) :
    Move own service sameHost state label
      {state with handed := handed,executionQueue := queue,taken := taken,chunks := chunks} := by
  refine .inside label handed queue taken chunks ?_ ?_
  · intro reader
    rw [same]
  · intro reader publication member
    rw [same]
    exact .inl member

theorem step_moves (state next : Crossing P) (label : Label P)
    (stepped : step own service sameHost state label = some next) :
    Move own service sameHost state label next := by
  cases label with
  | subscriber label =>
    obtain ⟨after,moved,rfl⟩ := Option.map_eq_some_iff.mp stepped
    exact .subscriber label after moved
  | writeDds publisher answer =>
    simp only [step] at stepped
    split at stepped
    next => cases stepped
    next idle =>
      cases stepped
      split
      next sent =>
        obtain ⟨rfl,enabled⟩ := Bool.and_eq_true_iff.mp sent
        exact .sendDds publisher idle enabled
      next missed =>
        refine .skipDds publisher answer idle ?_
        intro asked
        simpa [asked] using missed
  | writeIox publisher answer accepted =>
    simp only [step] at stepped
    split at stepped
    next => cases stepped
    next publication writing =>
      cases stepped
      split
      next enters =>
        obtain ⟨asked,rfl⟩ := Bool.and_eq_true_iff.mp enters
        obtain ⟨rfl,_⟩ := Bool.and_eq_true_iff.mp asked
        exact .acceptIox publisher publication writing
      next missed =>
        refine .skipIox publisher publication answer accepted writing ?_
        intro asked near
        simpa [asked,near] using missed
  | takeDds publication =>
    simp only [step] at stepped
    split at stepped
    next member =>
      cases stepped
      exact .takeDds publication member
    next => cases stepped
  | callDds =>
    simp only [step] at stepped
    split at stepped
    next publication rest waiting =>
      cases stepped
      apply Move.onward
      intro reader
      cases reader with
      | dds => simp [Crossing.entered,waiting]
      | iox => simp [Crossing.entered]
    next => cases stepped
  | takeIox =>
    simp only [step] at stepped
    split at stepped
    next publication rest free waiting =>
      cases stepped
      apply Move.onward
      intro reader
      cases reader with
      | dds => rfl
      | iox => simp [Crossing.entered,free,waiting]
    next => cases stepped
  | callIox =>
    simp only [step] at stepped
    split at stepped
    next publication waiting =>
      cases stepped
      apply Move.onward
      intro reader
      cases reader with
      | dds => simp [Crossing.entered]
      | iox => simp [Crossing.entered,waiting]
    next => cases stepped
  | lose publication =>
    simp only [step] at stepped
    split at stepped
    next member =>
      cases stepped
      exact .lose publication member
    next => cases stepped
  | discard publication =>
    simp only [step] at stepped
    split at stepped
    next =>
      cases stepped
      refine .inside (.discard publication) state.handed state.executionQueue state.taken _ ?_ ?_
      · intro reader
        cases reader with
        | dds => exact List.Sublist.refl _
        | iox => exact (List.erase_sublist.append_left _).append_left _
      · intro reader id member
        by_cases same : id = publication
        · exact .inr (congrArg Label.discard same.symm)
        · left
          cases reader with
          | dds => exact member
          | iox => simpa [Crossing.entered,List.mem_erase_of_ne same] using member
    next => cases stepped

end Moves

section Subscriber
variable {own : String} {service : ServiceDescription} {state next : SubscriberState} {label : Subscriber.Label}

theorem returned_step (returned : state.construction = .returned)
    (stepped : Subscriber.step own service state label = some next) : next.construction = .returned := by
  cases step_move own service state next label stepped with
  | register at_start unlocked =>
    rw [returned] at at_start
    cases at_start
  | callAtOnce switch todo running =>
    rw [returned] at running
    cases running
  | registered running =>
    rw [returned] at running
    cases running
  | disableIox at_body =>
    rw [returned] at at_body
    cases at_body
  | disableDds at_body => rfl
  | _ => exact returned

/-- After the constructor only calls of the callback switch a reader. -/
theorem switched_step (returned : state.construction = .returned)
    (stepped : Subscriber.step own service state label = some next) :
    next.enabled = state.enabled ∨ label = .callback ∧ ∃ switch todo,
      state.delivery = some (.notifying (switch :: todo)) ∧
      next.enabled = Function.update state.enabled switch.reader switch.enable := by
  cases step_move own service state next label stepped with
  | call switch todo running => exact .inr ⟨rfl,switch,todo,running,rfl⟩
  | callAtOnce switch todo running =>
    rw [returned] at running
    cases running
  | disableIox at_body =>
    rw [returned] at at_body
    cases at_body
  | disableDds at_body =>
    rw [returned] at at_body
    cases at_body
  | _ => exact .inl rfl

theorem apart_of_returned (excluding : Excluding state) (returned : state.construction = .returned) :
    Apart state.enabled := by
  apply excluding.apart
  rw [returned]
  rfl

theorem iox_off (apart : Apart state.enabled) (dds : state.enabled .dds = true) :
    state.enabled .iox = false := by
  obtain ⟨reader,off⟩ := apart
  cases reader with
  | iox => exact off
  | dds =>
    rw [dds] at off
    cases off

end Subscriber

section Preservation
variable {P : Type} {state next : Crossing P} {label : Label P}

/-- One more publication gets through to a reader. -/
def Enters (reader : Reader) (publication : Nat) (state next : Crossing P) : Prop :=
  ∀ other, next.entered other = state.entered other ++ if other = reader then [publication] else []

theorem Enters.mem_iff {reader : Reader} {publication : Nat} (enters : Enters reader publication state next)
    (other : Reader) (id : Nat) :
    id ∈ next.entered other ↔ id ∈ state.entered other ∨ other = reader ∧ id = publication := by
  rw [enters other]
  by_cases same : other = reader
  · simp [same]
  · simp [same]

theorem Enters.nodup {reader : Reader} {publication : Nat} (enters : Enters reader publication state next)
    (other : Reader) (once : (state.entered other).Nodup) (fresh : publication ∉ state.entered reader) :
    (next.entered other).Nodup := by
  rw [enters other]
  by_cases same : other = reader
  · subst same
    rw [if_pos rfl]
    refine List.nodup_append.mpr ⟨once,List.nodup_singleton _,?_⟩
    intro id member new last
    rw [List.mem_singleton.mp last]
    intro equal
    exact fresh (equal ▸ member)
  · simpa [same] using once

theorem enters_dds (state : Crossing P) (publication : Nat) (flight : List Nat) :
    Enters .dds publication state {state with
      flight := flight
      executionQueue := state.executionQueue ++ [publication]} := by
  intro other
  cases other with
  | dds => simp [Crossing.entered]
  | iox => simp [Crossing.entered]

theorem enters_iox (state : Crossing P) (publication : Nat) (publishing : P → Option Nat) :
    Enters .iox publication state {state with
      publishing := publishing
      chunks := state.chunks ++ [publication]} := by
  intro other
  cases other with
  | dds => simp [Crossing.entered]
  | iox => simp [Crossing.entered]

theorem sound_flight (flight : List Nat) (fewer : flight.Sublist state.flight) (sound : Sound state) :
    Sound {state with flight := flight} where
  excluding := sound.excluding
  returned := sound.returned
  writing := sound.writing
  alone := sound.alone
  sent := fun id member => sound.sent id (fewer.mem member)
  distinct := sound.distinct.sublist fewer
  silent := by
    intro off
    have nothing := sound.silent off
    rw [nothing] at fewer
    exact List.sublist_nil.mp fewer
  received := sound.received
  once := sound.once
  landed := fun id member flying => sound.landed id member (fewer.mem flying)
  finished := sound.finished

theorem sound_inside (handed : Reader → List Nat) (queue : List Nat) (taken : Option Nat) (chunks : List Nat)
    (fewer : ∀ reader, (Crossing.entered
      {state with handed := handed,executionQueue := queue,taken := taken,chunks := chunks} reader).Sublist
        (state.entered reader)) (sound : Sound state) :
    Sound {state with handed := handed,executionQueue := queue,taken := taken,chunks := chunks} where
  excluding := sound.excluding
  returned := sound.returned
  writing := sound.writing
  alone := sound.alone
  sent := sound.sent
  distinct := sound.distinct
  silent := sound.silent
  received := fun reader id member => sound.received reader id ((fewer reader).mem member)
  once := fun reader => (sound.once reader).sublist (fewer reader)
  landed := fun id member => sound.landed id ((fewer .dds).mem member)
  finished := fun id member => sound.finished id ((fewer .iox).mem member)

theorem Sound.enter (sound : Sound state) (reader : Reader) (publication : Nat) (queue chunks : List Nat)
    (enters : Enters reader publication state {state with executionQueue := queue,chunks := chunks})
    (known : publication < state.published) (fresh : publication ∉ state.entered reader)
    (landed : reader = .dds → publication ∉ state.flight)
    (finished : reader = .iox → ∀ publisher, state.publishing publisher ≠ some publication) :
    Sound {state with executionQueue := queue,chunks := chunks} where
  excluding := sound.excluding
  returned := sound.returned
  writing := sound.writing
  alone := sound.alone
  sent := sound.sent
  distinct := sound.distinct
  silent := sound.silent
  received := by
    intro other id member
    rcases (enters.mem_iff other id).mp member with earlier | ⟨_,rfl⟩
    · exact sound.received other id earlier
    · exact known
  once := fun other => enters.nodup other (sound.once other) fresh
  landed := by
    intro id member
    rcases (enters.mem_iff .dds id).mp member with earlier | ⟨same,rfl⟩
    · exact sound.landed id earlier
    · exact landed same.symm
  finished := by
    intro id member
    rcases (enters.mem_iff .iox id).mp member with earlier | ⟨same,rfl⟩
    · exact sound.finished id earlier
    · exact finished same.symm

theorem quiet_of_iox (sound : Sound state) (enabled : state.subscriber.enabled .iox = true) :
    state.flight = [] := by
  apply sound.silent
  cases dds : state.subscriber.enabled .dds with
  | false => rfl
  | true =>
    have off := iox_off (apart_of_returned sound.excluding sound.returned) dds
    rw [enabled] at off
    cases off

theorem sound_initial (subscriber : SubscriberState) (excluding : Excluding subscriber)
    (returned : subscriber.construction = .returned) :
    Sound ({subscriber := subscriber} : Crossing P) := by
  have nothing (reader : Reader) : Crossing.entered ({subscriber := subscriber} : Crossing P) reader = [] := by
    cases reader with
    | dds => rfl
    | iox => rfl
  refine ⟨excluding,returned,?_,?_,?_,List.nodup_nil,fun _ => rfl,?_,?_,?_,?_⟩
  · intro publisher id writing
    cases writing
  · intro first second id writing
    cases writing
  · intro id member
    cases member
  · intro reader id member
    rw [nothing] at member
    cases member
  · intro reader
    rw [nothing]
    exact List.nodup_nil
  · intro id member
    rw [nothing] at member
    cases member
  · intro id member
    rw [nothing] at member
    cases member

/-- The subscriber's own steps that switch a reader. -/
theorem calls_of_switched {own : String} {service : ServiceDescription} (sound : Sound state)
    (label : Subscriber.Label) (subscriber : SubscriberState)
    (stepped : Subscriber.step own service state.subscriber label = some subscriber)
    (reader : Reader) (changed : subscriber.enabled reader ≠ state.subscriber.enabled reader) :
    Calls state (.subscriber label : Label P) ⟨reader,subscriber.enabled reader⟩ := by
  rcases switched_step sound.returned stepped with same | ⟨rfl,switch,todo,running,after⟩
  · rw [same] at changed
    exact absurd rfl changed
  · by_cases here : reader = switch.reader
    · subst here
      have value : subscriber.enabled switch.reader = switch.enable := by simp [after]
      rw [value]
      exact ⟨rfl,todo,running⟩
    · rw [after,Function.update_of_ne here] at changed
      exact absurd rfl changed

variable [DecidableEq P] {own : String} {service : ServiceDescription} {sameHost : P → Bool}

theorem sound_writeDds (publisher : P) (flight : List Nat)
    (kept : flight = state.flight ∨
      flight = state.flight ++ [state.published] ∧ state.subscriber.enabled .dds = true)
    (sound : Sound state) : Sound {state with
      publishing := Function.update state.publishing publisher (some state.published)
      published := state.published + 1
      flight := flight} := by
  have members : ∀ id ∈ flight, id ∈ state.flight ∨ id = state.published := by
    intro id member
    rcases kept with rfl | ⟨rfl,_⟩
    · exact .inl member
    · simpa using member
  refine ⟨sound.excluding,sound.returned,?_,?_,?_,?_,?_,?_,sound.once,?_,?_⟩
  · intro other id writing
    simp only [Function.update_apply] at writing
    split at writing
    next =>
      cases writing
      exact Nat.lt_succ_self _
    next => exact Nat.lt_succ_of_lt (sound.writing other id writing)
  · intro first second id left right
    simp only [Function.update_apply] at left right
    split at left
    next same =>
      cases left
      split at right
      next also => exact same.trans also.symm
      next => exact absurd (sound.writing second _ right) (Nat.lt_irrefl _)
    next =>
      split at right
      next =>
        cases right
        exact absurd (sound.writing first _ left) (Nat.lt_irrefl _)
      next => exact sound.alone first second id left right
  · intro id member
    rcases members id member with earlier | rfl
    · exact Nat.lt_succ_of_lt (sound.sent id earlier)
    · exact Nat.lt_succ_self _
  · rcases kept with rfl | ⟨rfl,_⟩
    · exact sound.distinct
    · refine List.nodup_append.mpr ⟨sound.distinct,List.nodup_singleton _,?_⟩
      intro id member new fresh
      rw [List.mem_singleton.mp fresh]
      exact Nat.ne_of_lt (sound.sent id member)
  · intro off
    rcases kept with rfl | ⟨_,on⟩
    · exact sound.silent off
    · have off : state.subscriber.enabled .dds = false := off
      rw [on] at off
      cases off
  · intro reader id member
    exact Nat.lt_succ_of_lt (sound.received reader id member)
  · intro id member flying
    rcases members id flying with earlier | rfl
    · exact sound.landed id member earlier
    · exact absurd (sound.received .dds _ member) (Nat.lt_irrefl _)
  · intro id member other writing
    simp only [Function.update_apply] at writing
    split at writing
    next =>
      cases writing
      exact absurd (sound.received .iox _ member) (Nat.lt_irrefl _)
    next => exact sound.finished id member other writing

theorem sound_returned (publisher : P) (sound : Sound state) :
    Sound {state with publishing := Function.update state.publishing publisher none} := by
  have earlier : ∀ other id, Function.update state.publishing publisher none other = some id →
      state.publishing other = some id ∧ other ≠ publisher := by
    intro other id writing
    simp only [Function.update_apply] at writing
    split at writing
    next => cases writing
    next apart => exact ⟨writing,apart⟩
  refine ⟨sound.excluding,sound.returned,?_,?_,sound.sent,sound.distinct,sound.silent,sound.received,sound.once,
    sound.landed,?_⟩
  · intro other id writing
    exact sound.writing other id (earlier other id writing).1
  · intro first second id left right
    exact sound.alone first second id (earlier first id left).1 (earlier second id right).1
  · intro id member other writing
    exact sound.finished id member other (earlier other id writing).1

theorem sound_move (move : Move own service sameHost state label next) (sound : Sound state) : Sound next := by
  cases move with
  | subscriber label subscriber stepped =>
    have excluding := step_excluding state.subscriber subscriber label stepped sound.excluding
    have returned := returned_step sound.returned stepped
    refine ⟨excluding,returned,sound.writing,sound.alone,?_,?_,?_,sound.received,sound.once,?_,sound.finished⟩
    · intro id member
      split at member
      next => exact sound.sent id member
      next => cases member
    · split
      next => exact sound.distinct
      next => exact List.nodup_nil
    · intro off
      have off : subscriber.enabled .dds = false := off
      simp [off]
    · intro id member flying
      split at flying
      next => exact sound.landed id member flying
      next => cases flying
  | sendDds publisher idle enabled => exact sound_writeDds publisher _ (.inr ⟨rfl,enabled⟩) sound
  | skipDds publisher answer idle missed => exact sound_writeDds publisher _ (.inl rfl) sound
  | acceptIox publisher publication writing =>
    have after := sound_returned publisher sound
    refine after.enter .iox publication state.executionQueue _ (enters_iox _ publication _)
      (sound.writing publisher publication writing) ?_ (by simp) ?_
    · intro member
      exact sound.finished publication member publisher writing
    · intro _ other again
      simp only [Function.update_apply] at again
      split at again
      next => cases again
      next apart => exact apart (sound.alone other publisher publication again writing)
  | skipIox publisher publication answer accepted writing missed => exact sound_returned publisher sound
  | takeDds publication member =>
    have after := sound_flight (state.flight.erase publication) List.erase_sublist sound
    refine after.enter .dds publication _ state.chunks (enters_dds _ publication _)
      (sound.sent publication member) ?_ ?_ (by simp)
    · intro earlier
      exact sound.landed publication earlier member
    · intro _
      exact sound.distinct.not_mem_erase
  | lose publication member => exact sound_flight _ List.erase_sublist sound
  | inside label handed queue taken chunks fewer kept => exact sound_inside handed queue taken chunks fewer sound

end Preservation

section Twice
variable {P : Type} [DecidableEq P] {own : String} {service : ServiceDescription} {sameHost : P → Bool}
variable {state next : Crossing P} {label : Label P}

/-- A publication that is ahead in one reader and may still get through to the other has
crossed, as has one that got through to both. -/
structure Traced (crossed : Nat → Prop) (state : Crossing P) : Prop where
  sound : Sound state
  between : ∀ publication publisher, publication ∈ state.entered .dds →
    state.publishing publisher = some publication → state.subscriber.enabled .iox = true → crossed publication
  overlap : ∀ publication, publication ∈ state.entered .iox → publication ∈ state.flight → crossed publication
  twice : ∀ publication, publication ∈ state.entered .dds → publication ∈ state.entered .iox → crossed publication

theorem traced_acceptIox (crossed : Nat → Prop) (publisher : P) (publication : Nat)
    (writing : state.publishing publisher = some publication)
    (move : Move own service sameHost state (.writeIox publisher true true) {state with
      publishing := Function.update state.publishing publisher none
      chunks := state.chunks ++ [publication]})
    (traced : Traced crossed state) :
    Traced (fun id => crossed id ∨
      (Crosses id state (.writeIox publisher true true) ∨ Lags id state (.writeIox publisher true true)))
      {state with
        publishing := Function.update state.publishing publisher none
        chunks := state.chunks ++ [publication]} := by
  have enters := enters_iox state publication (Function.update state.publishing publisher none)
  have dds (id : Nat) (member : id ∈ Crossing.entered {state with
      publishing := Function.update state.publishing publisher none
      chunks := state.chunks ++ [publication]} .dds) : id ∈ state.entered .dds := by
    rcases (enters.mem_iff .dds id).mp member with earlier | ⟨same,_⟩
    · exact earlier
    · cases same
  -- A chunk that is accepted while the reader is disabled is the lag itself.
  have lag (off : state.subscriber.enabled .iox = false) :
      Lags publication state (.writeIox publisher true true) := ⟨publisher,rfl,writing,off⟩
  refine ⟨sound_move move traced.sound,?_,?_,?_⟩
  · intro id other entered again on
    have again : Function.update state.publishing publisher none other = some id := again
    simp only [Function.update_apply] at again
    split at again
    next => cases again
    next => exact .inl (traced.between id other (dds id entered) again on)
  · intro id entered flying
    rcases (enters.mem_iff .iox id).mp entered with earlier | ⟨_,rfl⟩
    · exact .inl (traced.overlap id earlier flying)
    · cases on : state.subscriber.enabled .iox with
      | false => exact .inr (.inr (lag on))
      | true =>
        have flying : id ∈ state.flight := flying
        rw [quiet_of_iox traced.sound on] at flying
        cases flying
  · intro id left right
    rcases (enters.mem_iff .iox id).mp right with earlier | ⟨_,rfl⟩
    · exact .inl (traced.twice id (dds id left) earlier)
    · cases on : state.subscriber.enabled .iox with
      | false => exact .inr (.inr (lag on))
      | true => exact .inl (traced.between id publisher (dds id left) writing on)

theorem traced_takeDds (crossed : Nat → Prop) (publication : Nat) (member : publication ∈ state.flight)
    (move : Move own service sameHost state (.takeDds publication) {state with
      flight := state.flight.erase publication
      executionQueue := state.executionQueue ++ [publication]})
    (traced : Traced crossed state) : Traced crossed {state with
      flight := state.flight.erase publication
      executionQueue := state.executionQueue ++ [publication]} := by
  have enters := enters_dds state publication (state.flight.erase publication)
  have iox (id : Nat) (member : id ∈ Crossing.entered {state with
      flight := state.flight.erase publication
      executionQueue := state.executionQueue ++ [publication]} .iox) : id ∈ state.entered .iox := by
    rcases (enters.mem_iff .iox id).mp member with earlier | ⟨same,_⟩
    · exact earlier
    · cases same
  refine ⟨sound_move move traced.sound,?_,?_,?_⟩
  · intro id other entered writing on
    have on : state.subscriber.enabled .iox = true := on
    rw [quiet_of_iox traced.sound on] at member
    cases member
  · intro id entered flying
    exact traced.overlap id (iox id entered) (List.mem_of_mem_erase flying)
  · intro id left right
    rcases (enters.mem_iff .dds id).mp left with earlier | ⟨_,rfl⟩
    · exact traced.twice id earlier (iox id right)
    · exact traced.overlap id (iox id right) member

omit [DecidableEq P] in
theorem Traced.weaken {crossed later : Nat → Prop} (traced : Traced crossed state)
    (more : ∀ publication, crossed publication → later publication) : Traced later state :=
  ⟨traced.sound,fun id publisher entered writing on => more id (traced.between id publisher entered writing on),
    fun id entered flying => more id (traced.overlap id entered flying),
    fun id left right => more id (traced.twice id left right)⟩

theorem traced_move (crossed : Nat → Prop) (move : Move own service sameHost state label next)
    (traced : Traced crossed state) :
    Traced (fun publication => crossed publication ∨
      (Crosses publication state label ∨ Lags publication state label)) next := by
  have sound := sound_move move traced.sound
  have moved := move
  cases move with
  | subscriber label subscriber stepped =>
    refine ⟨sound,?_,?_,fun id left right => .inl (traced.twice id left right)⟩
    · intro id publisher entered writing enabled
      cases before : state.subscriber.enabled .iox with
      | true => exact .inl (traced.between id publisher entered writing before)
      | false =>
        have enabled : subscriber.enabled .iox = true := enabled
        have calls := calls_of_switched traced.sound label subscriber stepped .iox (by simp [before,enabled])
        rw [enabled] at calls
        exact .inr (.inl ⟨calls,entered,publisher,writing⟩)
    · intro id entered flying
      split at flying
      next => exact .inl (traced.overlap id entered flying)
      next => cases flying
  | sendDds publisher idle enabled =>
    refine ⟨sound,?_,?_,fun id left right => .inl (traced.twice id left right)⟩
    · intro id other entered writing on
      have off := iox_off (apart_of_returned traced.sound.excluding traced.sound.returned) enabled
      have on : state.subscriber.enabled .iox = true := on
      rw [off] at on
      cases on
    · intro id entered flying
      rcases List.mem_append.mp flying with earlier | last
      · exact .inl (traced.overlap id entered earlier)
      · rw [List.mem_singleton.mp last] at entered
        exact absurd (traced.sound.received .iox _ entered) (Nat.lt_irrefl _)
  | skipDds publisher answer idle missed =>
    refine ⟨sound,?_,fun id entered flying => .inl (traced.overlap id entered flying),
      fun id left right => .inl (traced.twice id left right)⟩
    intro id other entered writing on
    simp only [Function.update_apply] at writing
    split at writing
    next =>
      cases writing
      exact absurd (traced.sound.received .dds _ entered) (Nat.lt_irrefl _)
    next => exact .inl (traced.between id other entered writing on)
  | acceptIox publisher publication writing =>
    exact traced_acceptIox crossed publisher publication writing moved traced
  | skipIox publisher publication answer accepted writing missed =>
    refine ⟨sound,?_,fun id entered flying => .inl (traced.overlap id entered flying),
      fun id left right => .inl (traced.twice id left right)⟩
    intro id other entered again on
    simp only [Function.update_apply] at again
    split at again
    next => cases again
    next => exact .inl (traced.between id other entered again on)
  | takeDds publication member =>
    exact (traced_takeDds crossed publication member moved traced).weaken (fun _ => .inl)
  | lose publication member =>
    exact ⟨sound,fun id other entered writing on => .inl (traced.between id other entered writing on),
      fun id entered flying => .inl (traced.overlap id entered (List.mem_of_mem_erase flying)),
      fun id left right => .inl (traced.twice id left right)⟩
  | inside label handed queue taken chunks fewer kept =>
    exact ⟨sound,
      fun id other entered writing on => .inl (traced.between id other ((fewer .dds).mem entered) writing on),
      fun id entered flying => .inl (traced.overlap id ((fewer .iox).mem entered) flying),
      fun id left right => .inl (traced.twice id ((fewer .dds).mem left) ((fewer .iox).mem right))⟩

theorem traced_run (subscriber : SubscriberState) (excluding : Excluding subscriber)
    (returned : subscriber.construction = .returned) (labels : List (Label P)) (final : Crossing P)
    (ran : exec (step own service sameHost) {subscriber := subscriber} labels = some final) :
    Traced (fun publication => Sometime (step own service sameHost)
      (fun state label => Crosses publication state label ∨ Lags publication state label)
      {subscriber := subscriber} labels) final := by
  have both := exec_history (step own service sameHost)
    (fun past state => exec (step own service sameHost) {subscriber := subscriber} past = some state ∧
      Traced (fun publication => Sometime (step own service sameHost)
        (fun state label => Crosses publication state label ∨ Lags publication state label)
        {subscriber := subscriber} past) state)
    {subscriber := subscriber} ?_ ?_ labels final ran
  · exact both.2
  · refine ⟨rfl,sound_initial subscriber excluding returned,?_,?_,?_⟩
    · intro id publisher entered
      cases entered
    · intro id entered flying
      cases flying
    · intro id left
      cases left
  · intro past state label next stepped held
    obtain ⟨reached,traced⟩ := held
    refine ⟨(exec_snoc _ _ _ _ _).mpr ⟨state,reached,stepped⟩,?_⟩
    have moved := traced_move _ (step_moves own service sameHost state next label stepped) traced
    simp only [sometime_snoc _ _ _ _ _ _ reached]
    exact moved

end Twice

section Once
variable {P : Type}

/-- The way that a publication has taken or will take, if nothing disturbs it. -/
inductive Taken (state : Crossing P) (publication : Nat) : Prop
  | dds (sent : publication ∈ state.flight ∨ publication ∈ state.entered .dds)
      (apart : publication ∉ state.entered .iox)
      (stays : ∀ publisher, state.publishing publisher = some publication →
        state.subscriber.enabled .dds = true)
  | iox (unsent : publication ∉ state.flight) (apart : publication ∉ state.entered .dds)
      (due : publication ∈ state.entered .iox ∨ ∃ publisher,
        state.publishing publisher = some publication ∧ state.subscriber.enabled .iox = true)

theorem entered_of_taken (state : Crossing P) (sound : Sound state) (publication : Nat)
    (taken : Taken state publication) (done : ¬ Underway state publication) :
    (state.entered .dds).count publication + (state.entered .iox).count publication = 1 := by
  obtain ⟨written,landed⟩ := not_or.mp done
  cases taken with
  | dds sent apart stays =>
    have entered := sent.resolve_left landed
    rw [List.count_eq_one_of_mem (sound.once .dds) entered,List.count_eq_zero.mpr apart]
  | iox unsent apart due =>
    have entered : publication ∈ state.entered .iox := by
      rcases due with entered | ⟨publisher,writing,_⟩
      · exact entered
      · exact absurd ⟨publisher,writing⟩ written
    rw [List.count_eq_zero.mpr apart,List.count_eq_one_of_mem (sound.once .iox) entered]

theorem copies_of_settled (state : Crossing P) (publication : Nat) (settled : ¬ Waits state publication) :
    state.copies publication =
      (state.entered .dds).count publication + (state.entered .iox).count publication := by
  obtain ⟨queue,others⟩ := not_or.mp settled
  obtain ⟨taken,chunks⟩ := not_or.mp others
  have taken : publication ∉ state.taken.toList := fun member => taken (Option.mem_toList.mp member)
  simp [Crossing.copies,Crossing.entered,List.count_append,List.count_eq_zero.mpr queue,
    List.count_eq_zero.mpr taken,List.count_eq_zero.mpr chunks]

variable {own : String} {service : ServiceDescription} {state next : Crossing P} {label : Label P}

theorem taken_subscriber (sound : Sound state) (label : Subscriber.Label) (subscriber : SubscriberState)
    (stepped : Subscriber.step own service state.subscriber label = some subscriber) (publication : Nat)
    (calm : ¬ Disturbs publication state (.subscriber label : Label P)) (taken : Taken state publication) :
    Taken {state with
      subscriber := subscriber
      flight := if subscriber.enabled .dds then state.flight else []} publication := by
  have kept : Underway state publication → subscriber.enabled = state.subscriber.enabled := by
    intro underway
    funext reader
    by_contra changed
    have calls := calls_of_switched sound label subscriber stepped reader changed
    exact calm (.switched _ calls (Ne.symm changed) underway)
  cases taken with
  | dds sent apart stays =>
    refine .dds ?_ apart ?_
    · rcases sent with flying | handed
      · left
        have on : state.subscriber.enabled .dds = true := by
          cases off : state.subscriber.enabled .dds with
          | true => rfl
          | false =>
            rw [sound.silent off] at flying
            cases flying
        rw [kept (.inr flying),if_pos on]
        exact flying
      · exact .inr handed
    · intro publisher writing
      have same := kept (.inl ⟨publisher,writing⟩)
      change subscriber.enabled .dds = true
      rw [same]
      exact stays publisher writing
  | iox unsent apart due =>
    refine .iox ?_ apart ?_
    · intro flying
      split at flying
      next => exact unsent flying
      next => cases flying
    · rcases due with handed | ⟨publisher,writing,on⟩
      · exact .inl handed
      · refine .inr ⟨publisher,writing,?_⟩
        change subscriber.enabled .iox = true
        rw [kept (.inl ⟨publisher,writing⟩)]
        exact on

theorem taken_takeDds (arrived : Nat) (member : arrived ∈ state.flight) (publication : Nat)
    (taken : Taken state publication) : Taken {state with
      flight := state.flight.erase arrived
      executionQueue := state.executionQueue ++ [arrived]} publication := by
  have enters := enters_dds state arrived (state.flight.erase arrived)
  cases taken with
  | dds sent apart stays =>
    refine .dds ?_ ?_ stays
    · by_cases same : publication = arrived
      · exact .inr ((enters.mem_iff _ _).mpr (.inr ⟨rfl,same⟩))
      · rcases sent with flying | entered
        · exact .inl ((List.mem_erase_of_ne same).mpr flying)
        · exact .inr ((enters.mem_iff _ _).mpr (.inl entered))
    · intro entered
      rcases (enters.mem_iff _ _).mp entered with before | ⟨same,_⟩
      · exact apart before
      · cases same
  | iox unsent apart due =>
    refine .iox (fun flying => unsent (List.mem_of_mem_erase flying)) ?_ ?_
    · intro entered
      rcases (enters.mem_iff _ _).mp entered with before | ⟨_,same⟩
      · exact apart before
      · exact unsent (same ▸ member)
    · rcases due with entered | waiting
      · exact .inl ((enters.mem_iff _ _).mpr (.inl entered))
      · exact .inr waiting

theorem taken_lose (lost publication : Nat) (other : publication ≠ lost) (taken : Taken state publication) :
    Taken {state with flight := state.flight.erase lost} publication := by
  cases taken with
  | dds sent apart stays =>
    exact .dds (sent.imp_left (List.mem_erase_of_ne other).mpr) apart stays
  | iox unsent apart due => exact .iox (fun flying => unsent (List.mem_of_mem_erase flying)) apart due

theorem taken_inside (handed : Reader → List Nat) (queue : List Nat) (waiting : Option Nat) (chunks : List Nat)
    (publication : Nat)
    (same : ∀ reader, publication ∈ Crossing.entered
      {state with handed := handed,executionQueue := queue,taken := waiting,chunks := chunks} reader ↔
        publication ∈ state.entered reader) (taken : Taken state publication) :
    Taken {state with handed := handed,executionQueue := queue,taken := waiting,chunks := chunks}
      publication := by
  cases taken with
  | dds sent apart stays =>
    exact .dds (sent.imp_right (same .dds).mpr) (fun entered => apart ((same .iox).mp entered)) stays
  | iox unsent apart due =>
    exact .iox unsent (fun entered => apart ((same .dds).mp entered)) (due.imp_left (same .iox).mpr)

variable [DecidableEq P] {sameHost : P → Bool}

/-- A publication that begins takes the way of the reader that is enabled. -/
theorem taken_begins (sound : Sound state) (publisher : P) (answer : Bool) (flight : List Nat)
    (calm : ¬ Disturbs state.published state (.writeDds publisher answer))
    (sent : state.subscriber.enabled .dds = true → state.published ∈ flight)
    (unsent : state.subscriber.enabled .dds = false → flight = state.flight) :
    Taken {state with
      publishing := Function.update state.publishing publisher (some state.published)
      published := state.published + 1
      flight := flight} state.published := by
  have fresh (reader : Reader) : state.published ∉ state.entered reader := by
    intro member
    exact absurd (sound.received reader _ member) (Nat.lt_irrefl _)
  cases dds : state.subscriber.enabled .dds with
  | true => exact .dds (.inl (sent dds)) (fresh .iox) (fun _ _ => dds)
  | false =>
    have on : state.subscriber.enabled .iox = true := by
      by_contra off
      refine calm (.deaf publisher answer rfl rfl ?_)
      intro reader
      cases reader with
      | iox => simpa using off
      | dds => exact dds
    refine .iox ?_ (fresh .dds) (.inr ⟨publisher,Function.update_self _ _ _,on⟩)
    intro flying
    have flying : state.published ∈ flight := flying
    rw [unsent dds] at flying
    exact absurd (sound.sent _ flying) (Nat.lt_irrefl _)

theorem taken_other (publisher : P) (flight : List Nat) (publication : Nat) (other : publication ≠ state.published)
    (same : publication ∈ flight ↔ publication ∈ state.flight) (idle : state.publishing publisher = none)
    (taken : Taken state publication) :
    Taken {state with
      publishing := Function.update state.publishing publisher (some state.published)
      published := state.published + 1
      flight := flight} publication := by
  cases taken with
  | dds sent apart stays =>
    refine .dds (sent.imp_left same.mpr) apart ?_
    intro author writing
    simp only [Function.update_apply] at writing
    split at writing
    next =>
      cases writing
      exact absurd rfl other
    next => exact stays author writing
  | iox unsent apart due =>
    refine .iox (fun flying => unsent (same.mp flying)) apart ?_
    rcases due with handed | ⟨author,writing,on⟩
    · exact .inl handed
    · refine .inr ⟨author,?_,on⟩
      have apart_author : author ≠ publisher := by
        intro equal
        rw [equal,idle] at writing
        cases writing
      simpa [apart_author] using writing

theorem taken_acceptIox (sound : Sound state) (publisher : P) (written : Nat)
    (writing : state.publishing publisher = some written) (publication : Nat)
    (agrees : written = publication → state.subscriber.enabled .iox = true)
    (taken : Taken state publication) : Taken {state with
      publishing := Function.update state.publishing publisher none
      chunks := state.chunks ++ [written]} publication := by
  have enters := enters_iox state written (Function.update state.publishing publisher none)
  have earlier : ∀ author, Function.update state.publishing publisher none author = some publication →
      state.publishing author = some publication := by
    intro author again
    simp only [Function.update_apply] at again
    split at again
    next => cases again
    next => exact again
  cases taken with
  | dds sent apart stays =>
    have other : publication ≠ written := by
      intro same
      have on := stays publisher (same ▸ writing)
      have off := iox_off (apart_of_returned sound.excluding sound.returned) on
      rw [agrees same.symm] at off
      cases off
    refine .dds ?_ ?_ (fun author again => stays author (earlier author again))
    · exact sent.imp_right (fun entered => (enters.mem_iff _ _).mpr (.inl entered))
    · intro entered
      rcases (enters.mem_iff _ _).mp entered with before | ⟨_,same⟩
      · exact apart before
      · exact other same
  | iox unsent apart due =>
    refine .iox unsent ?_ ?_
    · intro entered
      rcases (enters.mem_iff _ _).mp entered with before | ⟨same,_⟩
      · exact apart before
      · cases same
    · rcases due with entered | ⟨author,again,on⟩
      · exact .inl ((enters.mem_iff _ _).mpr (.inl entered))
      · by_cases here : author = publisher
        · rw [here,writing] at again
          exact .inl ((enters.mem_iff _ _).mpr (.inr ⟨rfl,(Option.some.inj again).symm⟩))
        · refine .inr ⟨author,?_,on⟩
          simpa [here] using again

theorem taken_skipIox (publisher : P) (written : Nat) (writing : state.publishing publisher = some written)
    (publication : Nat) (agrees : written = publication → state.subscriber.enabled .iox = false)
    (taken : Taken state publication) :
    Taken {state with publishing := Function.update state.publishing publisher none} publication := by
  cases taken with
  | dds sent apart stays =>
    refine .dds sent apart ?_
    intro author again
    simp only [Function.update_apply] at again
    split at again
    next => cases again
    next => exact stays author again
  | iox unsent apart due =>
    refine .iox unsent apart ?_
    rcases due with entered | ⟨author,again,on⟩
    · exact .inl entered
    · have here : author ≠ publisher := by
        intro same
        rw [same,writing] at again
        rw [agrees (Option.some.inj again)] at on
        cases on
      refine .inr ⟨author,?_,on⟩
      simpa [here] using again

theorem taken_move (sound : Sound state) (move : Move own service sameHost state label next)
    (steady : Steady sameHost label) (publication : Nat) (known : publication < next.published)
    (calm : ¬ Disturbs publication state label)
    (taken : publication < state.published → Taken state publication) : Taken next publication := by
  cases move with
  | subscriber label subscriber stepped =>
    exact taken_subscriber sound label subscriber stepped publication calm (taken known)
  | sendDds publisher idle enabled =>
    by_cases begins : publication = state.published
    · subst begins
      refine taken_begins sound publisher true _ calm (fun _ => by simp) ?_
      intro off
      rw [enabled] at off
      cases off
    · have earlier := taken (by have known : publication < state.published + 1 := known; omega)
      exact taken_other publisher _ publication begins (by simp [begins]) idle earlier
  | skipDds publisher answer idle missed =>
    by_cases begins : publication = state.published
    · subst begins
      refine taken_begins sound publisher answer _ calm ?_ (fun _ => rfl)
      intro on
      have asked : answer = true := steady
      rw [missed asked] at on
      cases on
    · have earlier := taken (by have known : publication < state.published + 1 := known; omega)
      exact taken_other publisher _ publication begins Iff.rfl idle earlier
  | acceptIox publisher written writing =>
    refine taken_acceptIox sound publisher written writing publication ?_ (taken known)
    intro same
    by_contra off
    exact calm (.disagrees publisher true true rfl (same ▸ writing) (Ne.symm off))
  | skipIox publisher written answer accepted writing missed =>
    refine taken_skipIox publisher written writing publication ?_ (taken known)
    intro same
    have skipped := missed steady.1 steady.2
    subst skipped
    by_contra on
    exact calm (.disagrees publisher answer false rfl (same ▸ writing) (Ne.symm on))
  | takeDds arrived member => exact taken_takeDds arrived member publication (taken known)
  | lose lost member =>
    refine taken_lose lost publication ?_ (taken known)
    intro same
    exact calm (.lost (congrArg Label.lose same.symm))
  | inside label handed queue waiting chunks fewer kept =>
    refine taken_inside handed queue waiting chunks publication ?_ (taken known)
    intro reader
    refine ⟨(fewer reader).mem,?_⟩
    intro entered
    exact (kept reader publication entered).resolve_right (fun discards => calm (.discarded discards))

theorem taken_run (subscriber : SubscriberState) (excluding : Excluding subscriber)
    (returned : subscriber.construction = .returned) (labels : List (Label P))
    (steady : ∀ label ∈ labels, Steady sameHost label) (final : Crossing P)
    (ran : exec (step own service sameHost) {subscriber := subscriber} labels = some final) (publication : Nat)
    (known : publication < final.published)
    (calm : ¬ Sometime (step own service sameHost) (Disturbs publication) {subscriber := subscriber} labels) :
    Taken final publication := by
  have held := exec_history (step own service sameHost)
    (fun past state => exec (step own service sameHost) {subscriber := subscriber} past = some state ∧
      Sound state ∧ ((∀ label ∈ past, Steady sameHost label) →
        ¬ Sometime (step own service sameHost) (Disturbs publication) {subscriber := subscriber} past →
        publication < state.published → Taken state publication))
    {subscriber := subscriber} ?_ ?_ labels final ran
  · exact held.2.2 steady calm known
  · refine ⟨rfl,sound_initial subscriber excluding returned,?_⟩
    intro _ _ early
    cases early
  · intro past state label next stepped held
    obtain ⟨reached,sound,taken⟩ := held
    have move := step_moves own service sameHost state next label stepped
    refine ⟨(exec_snoc _ _ _ _ _).mpr ⟨state,reached,stepped⟩,sound_move move sound,?_⟩
    intro steady calm known
    rw [sometime_snoc _ _ _ _ _ _ reached] at calm
    obtain ⟨before,now⟩ := not_or.mp calm
    exact taken_move sound move (steady label (by simp)) publication known now
      (taken (fun other member => steady other (by simp [member])) before)

end Once

section Results
variable {P : Type} [DecidableEq P] (own : String) (service : ServiceDescription) (sameHost : P → Bool)
variable (registry : Registry) (past : List Subscriber.Label) (subscriber : SubscriberState)

def remoteOffer : ServiceDiscovery := ⟨0,⟨10,1,"10.0.0.2/","200"⟩⟩

/-- The subscriber is constructed and then learns of a provider on another host. -/
def listening : List Subscriber.Label :=
  [.construct,.construct,.construct,.construct,.update remoteOffer,.notify,.callback,.callback,.callback]

/-- A publication that is no longer on its way, and that nothing has disturbed, has got through
to the readers exactly once, and is handed over exactly once when it no longer waits there. -/
theorem once_unless_disturbed
    (reached : exec (Subscriber.step own service) {registry := registry} past = some subscriber)
    (returned : subscriber.construction = .returned) (labels : List (Label P))
    (steady : ∀ label ∈ labels, Steady sameHost label) (final : Crossing P)
    (ran : exec (step own service sameHost) {subscriber := subscriber} labels = some final)
    (publication : Nat) (known : publication < final.published) (done : ¬ Underway final publication)
    (calm : ¬ Sometime (step own service sameHost) (Disturbs publication) {subscriber := subscriber} labels) :
    (final.entered .dds).count publication + (final.entered .iox).count publication = 1 ∧
      (¬ Waits final publication → final.copies publication = 1) := by
  have excluding : Excluding subscriber := exec_invariant (Subscriber.step own service) Excluding
    (fun state label next stepped before => step_excluding state next label stepped before)
    past _ subscriber reached (initial_excluding registry)
  have traced := traced_run subscriber excluding returned labels final ran
  have taken := taken_run subscriber excluding returned labels steady final ran publication known calm
  have entered := entered_of_taken final traced.sound publication taken done
  refine ⟨entered,?_⟩
  intro settled
  rw [copies_of_settled final publication settled]
  exact entered

def byDds : List (Label Unit) := [.writeDds () true,.writeIox () true false,.takeDds 0,.callDds]

theorem once_by_dds : ∃ subscriber final,
    exec (Subscriber.step "10.0.0.1/" ⟨10,1⟩) {registry := OrderedMap.empty} listening = some subscriber ∧
    exec (step "10.0.0.1/" ⟨10,1⟩ (fun _ => true)) {subscriber := subscriber} byDds = some final ∧
    final.copies 0 = 1 := by
  refine ⟨_,_,rfl,rfl,?_⟩
  refine (once_unless_disturbed "10.0.0.1/" ⟨10,1⟩ (fun _ => true) OrderedMap.empty listening _ rfl rfl byDds
    (by simp [byDds,Steady]) _ rfl 0 (by decide) ?_ ?_).2 ?_
  · intro underway
    rcases underway with ⟨publisher,writing⟩ | flying
    · cases writing
    · cases flying
  · -- At each of the four steps the form of the label leaves at most one kind of disturbance.
    apply not_sometime_of_along _ _ byDds _ _ rfl
    intro written first
    cases first
    refine ⟨?_,?_⟩
    · rintro (⟨_,⟨⟨⟩,_⟩,_⟩ | ⟨_,_,_,_,off⟩ | ⟨_,_,_,⟨⟩,_⟩ | ⟨⟨⟩⟩ | ⟨⟨⟩⟩)
      -- The only call of publish begins while the DDS reader is enabled.
      have on := off .dds
      revert on
      decide
    intro returned second
    cases second
    refine ⟨?_,?_⟩
    · rintro (⟨_,⟨⟨⟩,_⟩,_⟩ | ⟨_,_,⟨⟩,_,_⟩ | ⟨_,_,_,⟨⟩,_,differs⟩ | ⟨⟨⟩⟩ | ⟨⟨⟩⟩)
      exact differs rfl
    intro taken third
    cases third
    refine ⟨?_,?_⟩
    · rintro (⟨_,⟨⟨⟩,_⟩,_⟩ | ⟨_,_,⟨⟩,_,_⟩ | ⟨_,_,_,⟨⟩,_⟩ | ⟨⟨⟩⟩ | ⟨⟨⟩⟩)
    intro called fourth
    cases fourth
    refine ⟨?_,trivial⟩
    rintro (⟨_,⟨⟨⟩,_⟩,_⟩ | ⟨_,_,⟨⟩,_,_⟩ | ⟨_,_,_,⟨⟩,_⟩ | ⟨⟨⟩⟩ | ⟨⟨⟩⟩)
  · intro waits
    rcases waits with queued | taken | chunk
    · cases queued
    · cases taken
    · cases chunk

end Results
end Smw.SwitchOver
