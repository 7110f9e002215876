import Smw.Foundation.Mutexes
import Smw.Foundation.Execution
import Smw.Subscriber

/-! The mutexes that data handlers, discovery and the life of subscribers hold across calls
into each other. A program is written as the nested scopes of its locks. -/
namespace Smw.HandlerLocks
open Foundation Foundation.Execution Foundation.Instr Foundation.Threads Subscriber

inductive ReaderId
  | discovery
  | subscriber (number : Nat)
deriving DecidableEq,Repr

/-- The mutexes, with the lock of Fast-DDS that serialises on_data_available of a reader. -/
inductive Mutex
  | registry
  | observeServiceCallbacks
  | topics
  | dataReader (subscriber : Nat)
  | userDataCallback (subscriber : Nat)
  | iceoryxCallback (subscriber : Nat)
  | notifyCallback (reader : ReaderId)
  | userCallback (reader : ReaderId)
  | executionQueue (reader : ReaderId)
  | fastDds (reader : ReaderId)
deriving DecidableEq,Repr

/-- The threads of Fast-DDS, the executor of each reader, and the thread that constructs and
destroys subscribers. -/
inductive Thread
  | receive (number : Nat)
  | executor (reader : ReaderId)
  | lifecycle
deriving DecidableEq,Repr

/-- What is done to m_data_reader of a subscriber, under its mutex. -/
inductive DataReaderAction
  | create (subscriber : Nat)
  | close (subscriber : Nat)
  | forget (subscriber : Nat)
deriving DecidableEq,Repr

def DataReaderAction.subscriber : DataReaderAction → Nat
  | .create number => number
  | .close number => number
  | .forget number => number

abbrev Script := List (Instr Mutex DataReaderAction)

/-- The subscribers whose m_data_reader is not null. -/
abbrev Present := Nat → Bool

/-- Closing calls set_listener, close and delete_datareader, if there is a reader. -/
def perform (action : DataReaderAction) (present : Present) : Script × Present :=
  match action with
  | .create number => ([],Function.update present number true)
  | .close number =>
    let call : Script := locked (.fastDds (.subscriber number)) []
    (if present number then call ++ (call ++ (call ++ [.effect (.forget number)])) else [],present)
  | .forget number => ([],Function.update present number false)

section Programs

def enable (number : Nat) : Script := locked (.dataReader number) [.effect (.create number)]

def disable (number : Nat) : Script := locked (.dataReader number) [.effect (.close number)]

def switchDds (number : Nat) (switch : Switch) : Script :=
  match switch.reader with
  | .dds => if switch.enable then enable number else disable number
  | .iox => []

def statusChanged (number : Nat) (status : ServiceStatus) : Script :=
  (onServiceStatusChanged status).flatMap (switchDds number)

def onDataAvailable (reader : ReaderId) (taken : Bool) : Script :=
  locked (.fastDds reader) (locked (.notifyCallback reader)
    (if taken then locked (.executionQueue reader) [] else []))

/-- Publishing queries the status of the service twice. -/
def publish : Script := locked .registry [] ++ locked .registry []

/-- The handler of a subscriber publishes any number of times. An empty wrapper calls none. -/
def callWrapper (number : Nat) (wrapper : Option Nat) : Script :=
  match wrapper with
  | some publishes => locked (.userDataCallback number) ((List.range publishes).flatMap (fun _ => publish))
  | none => []

def executeHandlers (number : Nat) (wrappers : List (Option Nat)) : Script :=
  locked (.executionQueue (.subscriber number)) (wrappers.flatMap (callWrapper number))

/-- A message and the subscribers that observe its service, with the status it leads to. -/
structure Message where
  observers : List Nat
  status : ServiceStatus
deriving DecidableEq

def updateRegistryFromServiceDiscovery (message : Message) : Script :=
  locked .registry (locked .observeServiceCallbacks
    (message.observers.flatMap (fun number => statusChanged number message.status)))

def executeDiscovery (messages : List Message) : Script :=
  locked (.executionQueue .discovery) (messages.flatMap updateRegistryFromServiceDiscovery)

/-- The observer is called at once if the registry knows the service. -/
def constructSubscriber (number : Nat) (known : Option ServiceStatus) : Script :=
  locked .topics [] ++ (locked (.notifyCallback (.subscriber number)) [] ++ (enable number ++
    (locked .observeServiceCallbacks (known.toList.flatMap (statusChanged number)) ++
      (locked (.iceoryxCallback number) [] ++
        (disable number ++ locked (.userCallback (.subscriber number)) [])))))

/-- The body of the destructor, and after it the locks of ~FastDDSReader, taken one at a time.
The code deletes the reader as a TransportReader, which has no virtual destructor, and never
gets to them: the runs of the code stop short of these steps. -/
def destroySubscriber (number : Nat) : Script :=
  locked .observeServiceCallbacks [] ++ (locked (.iceoryxCallback number) [] ++
    (locked (.userCallback (.subscriber number)) [] ++ (disable number ++
      (locked (.notifyCallback (.subscriber number)) [] ++ (disable number ++ locked .topics [])))))

end Programs

inductive Activity
  | receive (thread : Nat) (reader : ReaderId) (taken : Bool)
  | handle (subscriber : Nat) (wrappers : List (Option Nat))
  | discover (messages : List Message)
  | construct (subscriber : Nat) (known : Option ServiceStatus)
  | destroy (subscriber : Nat)
deriving DecidableEq

def threads : Threads Thread Mutex DataReaderAction Activity Present where
  thread
    | .receive thread _ _ => .receive thread
    | .handle number _ => .executor (.subscriber number)
    | .discover _ => .executor .discovery
    | .construct _ _ => .lifecycle
    | .destroy _ => .lifecycle
  script activity _ :=
    match activity with
    | .receive _ reader taken => onDataAvailable reader taken
    | .handle number wrappers => executeHandlers number wrappers
    | .discover messages => executeDiscovery messages
    | .construct number known => constructSubscriber number known
    | .destroy number => destroySubscriber number
  perform := perform

abbrev LockState := State Thread Mutex DataReaderAction Present

abbrev LockLabel := Threads.Label Thread Activity

def initial : LockState := State.idle (fun _ => false)

section Discipline

/-- What a thread acquires while it holds the given mutexes, the last acquired first. -/
inductive Allowed : Thread → List Mutex → Mutex → Prop
  | receive (thread reader) : Allowed (.receive thread) [] (.fastDds reader)
  | notify (thread reader) : Allowed (.receive thread) [.fastDds reader] (.notifyCallback reader)
  | enqueue (thread reader) :
      Allowed (.receive thread) [.notifyCallback reader,.fastDds reader] (.executionQueue reader)
  | wake (reader) : Allowed (.executor reader) [] (.executionQueue reader)
  | handler (number) : Allowed (.executor (.subscriber number)) [.executionQueue (.subscriber number)]
      (.userDataCallback number)
  | query (number) : Allowed (.executor (.subscriber number))
      [.userDataCallback number,.executionQueue (.subscriber number)] .registry
  | update : Allowed (.executor .discovery) [.executionQueue .discovery] .registry
  | observers : Allowed (.executor .discovery) [.registry,.executionQueue .discovery] .observeServiceCallbacks
  | switch (number) : Allowed (.executor .discovery)
      [.observeServiceCallbacks,.registry,.executionQueue .discovery] (.dataReader number)
  | close (number) : Allowed (.executor .discovery)
      [.dataReader number,.observeServiceCallbacks,.registry,.executionQueue .discovery]
      (.fastDds (.subscriber number))
  | topics : Allowed .lifecycle [] .topics
  | setNotifyCallback (reader) : Allowed .lifecycle [] (.notifyCallback reader)
  | setIceoryxCallback (number) : Allowed .lifecycle [] (.iceoryxCallback number)
  | setUserCallback (reader) : Allowed .lifecycle [] (.userCallback reader)
  | observe : Allowed .lifecycle [] .observeServiceCallbacks
  | switchAlone (number) : Allowed .lifecycle [] (.dataReader number)
  | switchAtOnce (number) : Allowed .lifecycle [.observeServiceCallbacks] (.dataReader number)
  | closeAlone (number) : Allowed .lifecycle [.dataReader number] (.fastDds (.subscriber number))
  | closeAtOnce (number) :
      Allowed .lifecycle [.dataReader number,.observeServiceCallbacks] (.fastDds (.subscriber number))

def Permits (thread : Thread) (held : List Mutex) (action : DataReaderAction) : Prop :=
  Allowed thread held (.fastDds (.subscriber action.subscriber))

/-- The order in which all mutexes are acquired but those of Fast-DDS, which come first for a
receiving thread and last for a thread that closes a reader. -/
def rank : Mutex → Nat
  | .fastDds _ => 0
  | .notifyCallback _ => 1
  | .executionQueue _ => 2
  | .userDataCallback _ => 3
  | .registry => 4
  | .observeServiceCallbacks => 5
  | .dataReader _ => 6
  | .topics | .iceoryxCallback _ | .userCallback _ => 7

variable {thread : Thread} {held : List Mutex}

theorem perform_balanced (action : DataReaderAction) (present : Present)
    (permitted : Permits thread held action) :
    Balanced (Allowed thread) (Permits thread) held (perform action present).1 := by
  cases action with
  | create number => exact balanced_nil
  | forget number => exact balanced_nil
  | close number =>
    have call : Balanced (Allowed thread) (Permits thread) held
        (locked (.fastDds (.subscriber number)) []) := balanced_locked _ _ permitted balanced_nil
    have forget : Balanced (Allowed thread) (Permits thread) held [.effect (.forget number)] :=
      balanced_effect _ permitted
    unfold perform
    dsimp only
    split
    next =>
      exact balanced_append _ _ call (balanced_append _ _ call (balanced_append _ _ call forget))
    next => exact balanced_nil

theorem enable_balanced (number : Nat) (may : Allowed thread held (.dataReader number))
    (permitted : Permits thread (.dataReader number :: held) (.create number)) :
    Balanced (Allowed thread) (Permits thread) held (enable number) :=
  balanced_locked _ _ may (balanced_effect _ permitted)

theorem disable_balanced (number : Nat) (may : Allowed thread held (.dataReader number))
    (permitted : Permits thread (.dataReader number :: held) (.close number)) :
    Balanced (Allowed thread) (Permits thread) held (disable number) :=
  balanced_locked _ _ may (balanced_effect _ permitted)

theorem statusChanged_balanced (number : Nat) (status : ServiceStatus)
    (may : Allowed thread held (.dataReader number))
    (permitted : Allowed thread (.dataReader number :: held) (.fastDds (.subscriber number))) :
    Balanced (Allowed thread) (Permits thread) held (statusChanged number status) := by
  apply balanced_flatMap
  intro switch _
  unfold switchDds
  split
  next =>
    split
    next => exact enable_balanced number may permitted
    next => exact disable_balanced number may permitted
  next => exact balanced_nil

theorem script_balanced (activity : Activity) (present : Present) :
    Balanced (Allowed (threads.thread activity)) (Permits (threads.thread activity)) []
      (threads.script activity present) := by
  cases activity with
  | receive number reader taken =>
    refine balanced_locked _ _ (.receive number reader) (balanced_locked _ _ (.notify number reader) ?_)
    split
    next => exact balanced_locked _ _ (.enqueue number reader) balanced_nil
    next => exact balanced_nil
  | handle number wrappers =>
    refine balanced_locked _ _ (.wake _) (balanced_flatMap _ _ ?_)
    intro wrapper _
    cases wrapper with
    | none => exact balanced_nil
    | some publishes =>
      refine balanced_locked _ _ (.handler number) (balanced_flatMap _ _ ?_)
      intro _ _
      have query : Balanced (Allowed (.executor (.subscriber number)))
          (Permits (.executor (.subscriber number)))
          [.userDataCallback number,.executionQueue (.subscriber number)] (locked .registry []) :=
        balanced_locked _ _ (.query number) balanced_nil
      exact balanced_append _ _ query query
  | discover messages =>
    refine balanced_locked _ _ (.wake _) (balanced_flatMap _ _ ?_)
    intro message _
    refine balanced_locked _ _ .update (balanced_locked _ _ .observers (balanced_flatMap _ _ ?_))
    intro number _
    exact statusChanged_balanced number message.status (.switch number) (.close number)
  | construct number known =>
    apply balanced_append _ _ (balanced_locked _ _ .topics balanced_nil)
    apply balanced_append _ _ (balanced_locked _ _ (.setNotifyCallback _) balanced_nil)
    apply balanced_append _ _ (enable_balanced number (.switchAlone number) (.closeAlone number))
    refine balanced_append _ _ (balanced_locked _ _ .observe (balanced_flatMap _ _ ?_)) ?_
    · intro status _
      exact statusChanged_balanced number status (.switchAtOnce number) (.closeAtOnce number)
    apply balanced_append _ _ (balanced_locked _ _ (.setIceoryxCallback number) balanced_nil)
    apply balanced_append _ _ (disable_balanced number (.switchAlone number) (.closeAlone number))
    exact balanced_locked _ _ (.setUserCallback _) balanced_nil
  | destroy number =>
    have close := disable_balanced number (.switchAlone number) (.closeAlone number)
    apply balanced_append _ _ (balanced_locked _ _ .observe balanced_nil)
    apply balanced_append _ _ (balanced_locked _ _ (.setIceoryxCallback number) balanced_nil)
    apply balanced_append _ _ (balanced_locked _ _ (.setUserCallback _) balanced_nil)
    apply balanced_append _ _ close
    apply balanced_append _ _ (balanced_locked _ _ (.setNotifyCallback _) balanced_nil)
    apply balanced_append _ _ close
    exact balanced_locked _ _ .topics balanced_nil

def Sound (state : LockState) : Prop := Disciplined Allowed Permits state

theorem step_sound (state next : LockState) (label : LockLabel) (stepped : step threads state label = some next)
    (sound : Sound state) : Sound next :=
  step_disciplined threads script_balanced
    (fun _ _ action present permitted => perform_balanced action present permitted) state next label stepped sound

theorem initial_sound : Sound initial := fun _ => rfl

end Discipline

section Waiting
variable {thread : Thread} {held : List Mutex} {next : Mutex}

theorem ordered_or_closes (allowed : Allowed thread held next) :
    (∃ number, next = .fastDds (.subscriber number) ∧ .dataReader number ∈ held) ∨
      ∀ earlier ∈ held, rank earlier < rank next := by
  cases allowed <;> simp [rank]

theorem fastDds_holder (allowed : Allowed thread held next) (reader : ReaderId)
    (owned : .fastDds reader ∈ held) :
    ∃ number, thread = .receive number ∧ (next = .notifyCallback reader ∨ next = .executionQueue reader) := by
  cases allowed <;> simp_all

theorem notifyCallback_holder (allowed : Allowed thread held next) (reader : ReaderId)
    (owned : .notifyCallback reader ∈ held) : .fastDds reader ∈ held := by
  cases allowed <;> simp_all

theorem executionQueue_holder (allowed : Allowed thread held next) (number : Nat)
    (owned : .executionQueue (.subscriber number) ∈ held) :
    thread = .executor (.subscriber number) ∧ (next = .userDataCallback number ∨ next = .registry) := by
  cases allowed <;> simp_all

theorem userDataCallback_holder (allowed : Allowed thread held next) (number : Nat)
    (owned : .userDataCallback number ∈ held) : thread = .executor (.subscriber number) := by
  cases allowed <;> simp_all

theorem registry_holder (allowed : Allowed thread held next) (owned : .registry ∈ held) :
    thread = .executor .discovery := by
  cases allowed <;> simp_all

theorem observers_holder (allowed : Allowed thread held next) (owned : .observeServiceCallbacks ∈ held) :
    (thread = .executor .discovery ∨ thread = .lifecycle) ∧
      ∃ number, next = .dataReader number ∨ .dataReader number ∈ held := by
  cases allowed <;> simp_all

theorem dataReader_holder (allowed : Allowed thread held next) (number : Nat)
    (owned : .dataReader number ∈ held) :
    (thread = .executor .discovery ∨ thread = .lifecycle) ∧ next = .fastDds (.subscriber number) := by
  cases allowed <;> simp_all

theorem discovery_waits (allowed : Allowed (.executor .discovery) held next) (owned : .registry ∈ held) :
    next = .observeServiceCallbacks ∨ (∃ number, next = .dataReader number) ∨
      ∃ number, next = .fastDds (.subscriber number) := by
  cases allowed <;> simp_all

end Waiting

section Deadlocks

/-- Discovery closes the reader before it gives the registry back, or waits for a thread that
closes it. -/
def ClosesUnderRegistry (state : LockState) (number : Nat) : Prop :=
  state.Nests (.executor .discovery) .registry (.fastDds (.subscriber number)) ∨
    ∃ mutex, (mutex = .observeServiceCallbacks ∨ mutex = .dataReader number) ∧
      state.Nests (.executor .discovery) .registry mutex ∧
        state.Nests .lifecycle mutex (.fastDds (.subscriber number))

/-- The reader of a subscriber is closed under the registry, while a sample for it is being
queued and a handler of it is to publish. -/
structure Overlap (state : LockState) (number : Nat) : Prop where
  queues : ∃ receiver, state.Nests (.receive receiver) (.fastDds (.subscriber number))
    (.executionQueue (.subscriber number))
  queries : state.Nests (.executor (.subscriber number)) (.executionQueue (.subscriber number)) .registry
  closes : ClosesUnderRegistry state number

variable (state : LockState) (sound : Sound state) (stopped : Set Thread)
  (stuck : state.locks.Stuck state.waits stopped)
include sound stuck

/-- The thread that is waited for is allowed to acquire what it waits for itself. -/
theorem stopped_holder (thread : Thread) (member : thread ∈ stopped) (mutex : Mutex)
    (waiting : state.waits thread = some mutex) :
    ∃ other ∈ stopped, other ≠ thread ∧ state.locks.holder mutex = some other ∧
      mutex ∈ state.locks.held other ∧
        ∃ next, state.waits other = some next ∧ Allowed other (state.locks.held other) next := by
  obtain ⟨other,inside,different,holder,owned,next,next_waiting⟩ := stuck.holder thread member mutex waiting
  have allowed := waits_allowed state sound other next next_waiting
  exact ⟨other,inside,different,holder,owned,next,next_waiting,allowed⟩

theorem receiver_of_closer (closer : Thread) (member : closer ∈ stopped) (number : Nat)
    (waiting : state.waits closer = some (.fastDds (.subscriber number))) :
    ∃ receiver, .receive receiver ∈ stopped ∧
      .fastDds (.subscriber number) ∈ state.locks.held (.receive receiver) ∧
        state.waits (.receive receiver) = some (.executionQueue (.subscriber number)) := by
  obtain ⟨_,inside,_,holder,owned,next,next_waiting,allowed⟩ :=
    stopped_holder state sound stopped stuck closer member _ waiting
  obtain ⟨receiver,rfl,notify | queue⟩ := fastDds_holder allowed _ owned
  · rw [notify] at next_waiting
    obtain ⟨other,_,different,_,notifies,_,_,other_allowed⟩ :=
      stopped_holder state sound stopped stuck _ inside _ next_waiting
    -- The thread that notifies holds the lock of Fast-DDS, so it is the same one.
    have same := (state.locks.owned _ other).mpr (notifyCallback_holder other_allowed _ notifies)
    exact absurd (Option.some.inj (same.symm.trans holder)) different
  · rw [queue] at next_waiting
    exact ⟨receiver,inside,owned,next_waiting⟩

theorem executor_of_receiver (receiver : Nat) (member : .receive receiver ∈ stopped) (number : Nat)
    (waiting : state.waits (.receive receiver) = some (.executionQueue (.subscriber number))) :
    .executor (.subscriber number) ∈ stopped ∧
      .executionQueue (.subscriber number) ∈ state.locks.held (.executor (.subscriber number)) ∧
        state.waits (.executor (.subscriber number)) = some .registry := by
  obtain ⟨_,inside,_,_,owned,next,next_waiting,allowed⟩ :=
    stopped_holder state sound stopped stuck _ member _ waiting
  obtain ⟨rfl,handler | query⟩ := executionQueue_holder allowed number owned
  · rw [handler] at next_waiting
    obtain ⟨other,_,different,_,handles,_,_,other_allowed⟩ :=
      stopped_holder state sound stopped stuck _ inside _ next_waiting
    exact absurd (userDataCallback_holder other_allowed number handles) different
  · rw [query] at next_waiting
    exact ⟨inside,owned,next_waiting⟩

theorem discovery_of_executor (number : Nat) (member : .executor (.subscriber number) ∈ stopped)
    (waiting : state.waits (.executor (.subscriber number)) = some .registry) :
    .executor .discovery ∈ stopped ∧ .registry ∈ state.locks.held (.executor .discovery) := by
  obtain ⟨_,inside,_,_,owned,_,_,allowed⟩ := stopped_holder state sound stopped stuck _ member _ waiting
  have same := registry_holder allowed owned
  rw [same] at inside owned
  exact ⟨inside,owned⟩

/-- From a thread that closes a reader to the executor of that reader. -/
theorem chain_of_closer (closer : Thread) (member : closer ∈ stopped) (number : Nat)
    (waiting : state.waits closer = some (.fastDds (.subscriber number))) :
    (∃ receiver, state.Nests (.receive receiver) (.fastDds (.subscriber number))
        (.executionQueue (.subscriber number))) ∧
      .executor (.subscriber number) ∈ stopped ∧
        .executionQueue (.subscriber number) ∈ state.locks.held (.executor (.subscriber number)) ∧
          state.waits (.executor (.subscriber number)) = some .registry := by
  obtain ⟨receiver,received,serial,queues⟩ :=
    receiver_of_closer state sound stopped stuck closer member number waiting
  have handler := executor_of_receiver state sound stopped stuck receiver received number queues
  exact ⟨⟨receiver,state.nests_of_waits _ _ _ serial queues⟩,handler⟩

theorem closer_of_switch (thread : Thread) (member : thread ∈ stopped) (number : Nat)
    (waiting : state.waits thread = some (.dataReader number)) :
    ∃ closer ∈ stopped, closer ≠ thread ∧ .dataReader number ∈ state.locks.held closer ∧
      (closer = .executor .discovery ∨ closer = .lifecycle) ∧
        state.waits closer = some (.fastDds (.subscriber number)) := by
  obtain ⟨closer,inside,different,_,owned,next,next_waiting,allowed⟩ :=
    stopped_holder state sound stopped stuck thread member _ waiting
  obtain ⟨who,rfl⟩ := dataReader_holder allowed number owned
  exact ⟨closer,inside,different,owned,who,next_waiting⟩

theorem discovery_closes (member : .executor .discovery ∈ stopped)
    (registry : .registry ∈ state.locks.held (.executor .discovery)) :
    ∃ closer ∈ stopped, ∃ number, state.waits closer = some (.fastDds (.subscriber number)) ∧
      ClosesUnderRegistry state number := by
  obtain ⟨_,_,waiting,_⟩ := stuck _ member
  have allowed := waits_allowed state sound _ _ waiting
  have until_then := state.nests_of_waits _ .registry _ registry waiting
  rcases discovery_waits allowed registry with rfl | ⟨number,rfl⟩ | ⟨number,rfl⟩
  · obtain ⟨other,inside,different,_,owned,next,next_waiting,other_allowed⟩ :=
      stopped_holder state sound stopped stuck _ member _ waiting
    obtain ⟨who,number,switches | closing⟩ := observers_holder other_allowed owned
    · rw [switches] at next_waiting
      obtain ⟨closer,_,apart,_,closes,closer_waiting⟩ :=
        closer_of_switch state sound stopped stuck other inside number next_waiting
      -- One of the two threads is discovery, which waits for the observers.
      rcases closes with rfl | rfl
      · cases waiting.symm.trans closer_waiting
      · exact absurd (who.resolve_left different).symm apart
    · obtain ⟨_,rfl⟩ := dataReader_holder other_allowed number closing
      have same := who.resolve_left different
      rw [same] at owned inside next_waiting
      have closes := state.nests_of_waits _ _ _ owned next_waiting
      exact ⟨.lifecycle,inside,number,next_waiting,.inr ⟨_,.inl rfl,until_then,closes⟩⟩
  · obtain ⟨closer,inside,different,owned,who,closer_waiting⟩ :=
      closer_of_switch state sound stopped stuck _ member number waiting
    have same := who.resolve_left different
    rw [same] at owned inside closer_waiting
    have closes := state.nests_of_waits _ _ _ owned closer_waiting
    exact ⟨.lifecycle,inside,number,closer_waiting,.inr ⟨_,.inr rfl,until_then,closes⟩⟩
  · exact ⟨_,member,number,waiting,.inl until_then⟩

theorem stuck_overlaps (nonempty : stopped.Nonempty) : ∃ number, Overlap state number := by
  have bounded (mutex : Mutex) : rank mutex ≤ 7 := by
    cases mutex <;> simp [rank]
  obtain ⟨thread,member,mutex,earlier,waiting,owned,broken⟩ :=
    state.locks.order_broken state.waits stopped nonempty stuck rank 7 bounded
  rcases ordered_or_closes (waits_allowed state sound thread mutex waiting) with closes | ordered
  · obtain ⟨first,rfl,_⟩ := closes
    obtain ⟨_,handles,_,queries⟩ := chain_of_closer state sound stopped stuck thread member first waiting
    obtain ⟨discovers,registry⟩ := discovery_of_executor state sound stopped stuck first handles queries
    obtain ⟨closer,inside,number,closer_waiting,closes⟩ :=
      discovery_closes state sound stopped stuck discovers registry
    obtain ⟨queues,_,queue,queries⟩ := chain_of_closer state sound stopped stuck closer inside number closer_waiting
    exact ⟨number,queues,state.nests_of_waits _ _ _ queue queries,closes⟩
  · have below := ordered earlier owned
    omega

end Deadlocks

section Persistence

theorem perform_releases (action : DataReaderAction) (present : Present) (mutex : Mutex)
    (released : .release mutex ∈ (perform action present).1) : ∃ number, mutex = .fastDds (.subscriber number) := by
  cases action with
  | create number => cases released
  | forget number => cases released
  | close number =>
    unfold perform at released
    dsimp only at released
    split at released
    next => exact ⟨number,by simpa [locked] using released⟩
    next => cases released

theorem receive_effectless (state : LockState) (sound : Sound state) (receiver : Nat)
    (action : DataReaderAction) (rest : Script)
    (first : state.todo (.receive receiver) = .effect action :: rest) :
    state.locks.held (.receive receiver) = [] := by
  have follows := sound (.receive receiver)
  rw [first] at follows
  have permitted : Allowed (.receive receiver) (state.locks.held (.receive receiver))
      (.fastDds (.subscriber action.subscriber)) := follows.1
  generalize state.locks.held (.receive receiver) = held at permitted
  cases permitted
  rfl

variable (state : LockState) (sound : Sound state) (next : LockState) (label : LockLabel)
  (stepped : step threads state label = some next)
include stepped

/-- What a thread acquires in a scope that closing does not release is held up by its holder. -/
theorem nests_persists (thread other : Thread) (outer inner : Mutex) (nests : state.Nests thread outer inner)
    (owned : inner ∈ state.locks.held other) (kept : ∀ number, outer ≠ .fastDds (.subscriber number)) :
    next.Nests thread outer inner := by
  have taken : state.locks.holder inner ≠ none := by
    rw [(state.locks.owned inner other).mpr owned]
    exact Option.some_ne_none other
  apply step_nests threads state next label stepped thread outer inner nests taken
  intro action rest first released
  obtain ⟨number,same⟩ := perform_releases action state.data outer released
  exact kept number same

include sound

/-- An overlap does not end: each of its threads holds what another one of them acquires. -/
theorem overlap_persists (number : Nat) (overlap : Overlap state number) : Overlap next number where
  queues := by
    obtain ⟨receiver,queues⟩ := overlap.queues
    refine ⟨receiver,step_nests threads state next label stepped _ _ _ queues ?_ ?_⟩
    · rw [(state.locks.owned _ _).mpr overlap.queries.1]
      exact Option.some_ne_none _
    · intro action rest first
      have idle := receive_effectless state sound receiver action rest first
      have serial := queues.1
      rw [idle] at serial
      cases serial
  queries := by
    have registry : .registry ∈ state.locks.held (.executor .discovery) := by
      rcases overlap.closes with closes | ⟨_,_,until_then,_⟩
      · exact closes.1
      · exact until_then.1
    exact nests_persists state next label stepped _ _ _ _ overlap.queries registry (by simp)
  closes := by
    obtain ⟨receiver,queues⟩ := overlap.queues
    rcases overlap.closes with closes | ⟨mutex,which,until_then,closes⟩
    · exact .inl (nests_persists state next label stepped _ _ _ _ closes queues.1 (by simp))
    · have apart (other : Nat) : mutex ≠ .fastDds (.subscriber other) := by
        rcases which with rfl | rfl <;> simp
      refine .inr ⟨mutex,which,?_,?_⟩
      · exact nests_persists state next label stepped _ _ _ _ until_then closes.1 (by simp)
      · exact nests_persists state next label stepped _ _ _ _ closes queues.1 apart

end Persistence

theorem overlap_forever (labels : List LockLabel) (state final : LockState) (sound : Sound state)
    (number : Nat) (overlap : Overlap state number) (ran : exec (step threads) state labels = some final) :
    Overlap final number := by
  have kept := exec_invariant (step threads) (fun state => Sound state ∧ Overlap state number) ?_
    labels state final ran ⟨sound,overlap⟩
  · exact kept.2
  · intro state label next stepped both
    exact ⟨step_sound state next label stepped both.1,
      overlap_persists state both.1 next label stepped number both.2⟩

section Unavoidable

def added : DataReaderAction → Nat
  | .close _ => 7
  | _ => 0

theorem perform_work (action : DataReaderAction) (present : Present) :
    work added (perform action present).1 ≤ added action := by
  cases action with
  | create number => exact Nat.le_refl 0
  | forget number => exact Nat.le_refl 0
  | close number =>
    unfold perform
    dsimp only
    split
    next => exact Nat.le_refl 7
    next => exact Nat.zero_le 7

theorem allowed_apart (thread : Thread) (held : List Mutex) (mutex : Mutex)
    (allowed : Allowed thread held mutex) : mutex ∉ held := by
  cases allowed <;> simp

/-- Whatever is done after an overlap, the threads end in a deadlock if they go on. -/
theorem overlap_unavoidable (labels later : List LockLabel) (state middle : LockState) (number : Nat)
    (reached : exec (step threads) initial labels = some state) (overlap : Overlap state number)
    (ran : exec (step threads) state later = some middle) :
    ∃ after final, exec (step threads) middle after = some final ∧ final.Deadlocked := by
  have ran_all := (exec_append _ _ _ _ _).mpr ⟨state,reached,ran⟩
  have keeps (before next : LockState) (label : LockLabel) (stepped : step threads before label = some next)
      (sound : Sound before) : Sound next := step_sound before next label stepped sound
  have before := exec_invariant (step threads) (fun state => Sound state ∧ state.Few)
    (fun state label next stepped both =>
      ⟨keeps state next label stepped both.1,step_few threads state next label stepped both.2⟩)
  have sound := (before labels initial state reached ⟨initial_sound,[],fun _ _ => rfl⟩).1
  obtain ⟨middle_sound,few⟩ := before _ initial middle ran_all ⟨initial_sound,[],fun _ _ => rfl⟩
  have still := overlap_forever later state middle sound number overlap ran
  obtain ⟨after,final,went_on,final_sound,settled⟩ :=
    settles threads added perform_work keeps middle few middle_sound
  have at_last := overlap_forever after middle final middle_sound number still went_on
  refine ⟨after,final,went_on,?_⟩
  apply deadlocked_of_settled allowed_apart final final_sound settled (.executor (.subscriber number))
  obtain ⟨_,_,_,program,_⟩ := at_last.queries
  rw [program]
  simp

end Unavoidable

def Apart (state : LockState) (label : LockLabel) : Prop :=
  ∀ next, step threads state label = some next → ∀ number, ¬ Overlap next number

theorem never_deadlocked (labels : List LockLabel) (apart : Along (step threads) Apart initial labels) :
    Throughout (step threads) (fun state => ¬ state.Deadlocked) initial labels := by
  have untangled : Throughout (step threads)
      (fun state => Sound state ∧ ∀ number, ¬ Overlap state number) initial labels := by
    refine throughout_of_along (step threads) Apart _ ?_ labels initial apart ⟨initial_sound,?_⟩
    · intro state label next stepped guarded both
      exact ⟨step_sound state next label stepped both.1,guarded next stepped⟩
    · intro number overlap
      cases overlap.queries.1
  refine Throughout.imp (step threads) _ _ ?_ labels initial untangled
  intro state both deadlocked
  obtain ⟨stopped,nonempty,stuck⟩ := deadlocked
  obtain ⟨number,overlap⟩ := stuck_overlaps state both.1 stopped stuck nonempty
  exact both.2 number overlap

def remoteProvider : ServiceStatus := {remoteProviders := OrderedMap.empty.insert ⟨"10.0.0.2/","200"⟩ ()}

def localProvider : ServiceStatus := {localProviders := OrderedMap.empty.insert ⟨"10.0.0.1/","100"⟩ ()}

def arrivalDuringDiscovery : List LockLabel :=
  [.start (.receive 0 (.subscriber 0) true),.advance (.receive 0),
    .start (.discover [⟨[0],localProvider⟩]),.advance (.executor .discovery),.advance (.executor .discovery)]

theorem arrival_not_deadlocked : Throughout (step threads) (fun state => ¬ state.Deadlocked) initial
    arrivalDuringDiscovery := by
  have apart (state next : LockState) (label : LockLabel) (stepped : step threads state label = some next)
      (unhandled : ∀ number, next.locks.held (.executor (.subscriber number)) = []) : Apart state label := by
    intro other same number overlap
    cases stepped.symm.trans same
    have owned := overlap.queries.1
    rw [unhandled] at owned
    cases owned
  apply never_deadlocked
  intro first stepped
  cases stepped
  refine ⟨apart _ _ _ rfl (fun _ => rfl),?_⟩
  intro second stepped
  cases stepped
  refine ⟨apart _ _ _ rfl (fun _ => rfl),?_⟩
  intro third stepped
  cases stepped
  refine ⟨apart _ _ _ rfl (fun _ => rfl),?_⟩
  intro fourth stepped
  cases stepped
  refine ⟨apart _ _ _ rfl (fun _ => rfl),?_⟩
  intro fifth stepped
  cases stepped
  exact ⟨apart _ _ _ rfl (fun _ => rfl),trivial⟩

/-- A remote provider is discovered, a sample of it arrives and is handled; the next sample arrives
while discovery learns of a local provider. -/
def providerComesHome : List LockLabel :=
  [.start (.construct 0 none)] ++ List.replicate 23 (.advance .lifecycle) ++
    [.start (.discover [⟨[0],remoteProvider⟩])] ++ List.replicate 9 (.advance (.executor .discovery)) ++
    [.start (.receive 0 (.subscriber 0) true)] ++ List.replicate 6 (.advance (.receive 0)) ++
    [.start (.handle 0 [some 1])] ++ List.replicate 2 (.advance (.executor (.subscriber 0))) ++
    [.start (.receive 0 (.subscriber 0) true)] ++ List.replicate 2 (.advance (.receive 0)) ++
    [.start (.discover [⟨[0],localProvider⟩])] ++ List.replicate 5 (.advance (.executor .discovery))

/-- Discovery closes the reader while it holds the registry, which the handler queries. -/
theorem handler_meets_discovery : ¬ Throughout (step threads) (fun state => ¬ state.Deadlocked) initial
    providerComesHome := by
  intro all
  have reached : ∃ final, exec (step threads) initial providerComesHome = some final ∧
      (final.waits (.executor .discovery) = some (.fastDds (.subscriber 0)) ∧
        final.locks.holder (.fastDds (.subscriber 0)) = some (.receive 0)) ∧
      (final.waits (.receive 0) = some (.executionQueue (.subscriber 0)) ∧
        final.locks.holder (.executionQueue (.subscriber 0)) = some (.executor (.subscriber 0))) ∧
      final.waits (.executor (.subscriber 0)) = some .registry ∧
        final.locks.holder .registry = some (.executor .discovery) :=
    ⟨_,rfl,by decide⟩
  obtain ⟨final,ran,closes,queues,queries⟩ := reached
  have free := Throughout.final (step threads) _ _ _ _ all ran
  apply free
  refine ⟨{.executor .discovery,.receive 0,.executor (.subscriber 0)},⟨_,Set.mem_insert _ _⟩,?_⟩
  intro thread member
  rcases member with rfl | rfl | rfl
  · exact ⟨_,_,closes.1,by simp,by simp,closes.2⟩
  · exact ⟨_,_,queues.1,by simp,by simp,queues.2⟩
  · exact ⟨_,_,queries.1,by simp,by simp,queries.2⟩

end Smw.HandlerLocks
