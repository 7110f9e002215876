import Smw.Readers

/-! The executor thread of the DDS reader around its condition variable: the listener queues
under the mutex and notifies after it, the destructor notifies without the mutex. -/
namespace Smw.ExecutorThread
open Foundation.Execution Readers
variable {V : Type}

inductive Executor
  | checking
  | locking
  | testing
  /-- The predicate was false; the mutex is still held. -/
  | committed
  | blocked
  | woken
  | waited
  | draining
  | running
  | exited
deriving DecidableEq,Repr

def Executor.holdsMutex : Executor → Bool
  | .testing | .committed | .waited | .draining | .running => true
  | _ => false

/-- A notification is lost on an executor that is not blocked. -/
def Executor.notified : Executor → Executor
  | .blocked => .woken
  | other => other

inductive Destructor
  | alive
  | exitStored
  | listenerCleared
  | disabled
  | joining
  | joined
deriving DecidableEq,Repr

structure ReaderState (V : Type) where
  userCallbackExecutionQueue : List (UserCallbackWrapper V) := []
  executor : Executor := .checking
  destructor : Destructor := .alive
  /-- The listener threads that have queued and have still to call notify_one. -/
  notifying : Nat := 0
  queued : List (UserCallbackWrapper V) := []
  executed : List (UserCallbackWrapper V) := []

/-- The store to m_exit is the first act of the destructor, and the only one to it. -/
def ReaderState.exit (state : ReaderState V) : Bool := state.destructor ≠ .alive

def ReaderState.listening (state : ReaderState V) : Bool :=
  state.destructor = .alive ∨ state.destructor = .exitStored

inductive Label (V : Type)
  | push (wrapper : UserCallbackWrapper V)
  | notifyOne
  | spuriousWakeUp
  | execute
  | destroy

def executorStep (state : ReaderState V) : Option (ReaderState V) :=
  match state.executor with
  | .checking => some {state with executor := if state.exit then .exited else .locking}
  | .locking => some {state with executor := .testing}
  | .testing =>
    let predicate := !state.userCallbackExecutionQueue.isEmpty || state.exit
    some {state with executor := if predicate then .waited else .committed}
  | .committed => some {state with executor := .blocked}
  | .blocked => none
  | .woken => some {state with executor := .testing}
  | .waited => some {state with executor := if state.exit then .exited else .draining}
  | .draining =>
    match state.userCallbackExecutionQueue with
    | [] => some {state with executor := .checking}
    | wrapper :: _ => some {state with executor := .running,executed := state.executed ++ [wrapper]}
  | .running =>
    some {state with
      executor := .draining
      userCallbackExecutionQueue := state.userCallbackExecutionQueue.tail}
  | .exited => none

/-- Clearing the notify callback waits for the listener that runs it. -/
def destructorStep (state : ReaderState V) : Option (ReaderState V) :=
  match state.destructor with
  | .alive => some {state with destructor := .exitStored}
  | .exitStored => if state.notifying = 0 then some {state with destructor := .listenerCleared} else none
  | .listenerCleared => some {state with destructor := .disabled}
  | .disabled => some {state with destructor := .joining,executor := state.executor.notified}
  | .joining => if state.executor = .exited then some {state with destructor := .joined} else none
  | .joined => none

def step (state : ReaderState V) : Label V → Option (ReaderState V)
  | .push wrapper =>
    if state.listening ∧ state.executor.holdsMutex = false then
      some {state with
        userCallbackExecutionQueue := state.userCallbackExecutionQueue ++ [wrapper]
        notifying := state.notifying + 1
        queued := state.queued ++ [wrapper]}
    else none
  | .notifyOne =>
    if 0 < state.notifying then
      some {state with notifying := state.notifying - 1,executor := state.executor.notified}
    else none
  | .spuriousWakeUp => if state.executor = .blocked then some {state with executor := .woken} else none
  | .execute => executorStep state
  | .destroy => destructorStep state

section Property

def Hung (state : ReaderState V) : Prop :=
  state.destructor = .joining ∧ state.executor = .blocked ∧ state.notifying = 0

def Awake (state : ReaderState V) : Prop :=
  ¬ Hung state ∧ ∀ next, step state .execute = some next → ¬ Hung next

/-- The destructor does not notify between the test of the predicate and the blocking. -/
def Heard (state : ReaderState V) : Label V → Prop
  | .destroy => state.destructor = .disabled → state.executor ≠ .committed
  | _ => True

/-- The queued wrappers whose calls have not started; the one that runs is still in front. -/
def waiting (state : ReaderState V) : List (UserCallbackWrapper V) :=
  if state.executor = .running then state.userCallbackExecutionQueue.tail
  else state.userCallbackExecutionQueue

structure Sound (state : ReaderState V) : Prop where
  account : state.queued = state.executed ++ waiting state
  committed_empty : state.executor = .committed → state.userCallbackExecutionQueue = []
  blocked_notified : state.executor = .blocked → state.userCallbackExecutionQueue ≠ [] → 0 < state.notifying
  silent : state.listening = false → state.notifying = 0

end Property

section Steps
variable (state next : ReaderState V)

theorem notified_running (executor : Executor) : executor.notified = .running ↔ executor = .running := by
  cases executor <;> simp [Executor.notified]

theorem notified_committed (executor : Executor) : executor.notified = .committed ↔ executor = .committed := by
  cases executor <;> simp [Executor.notified]

theorem notified_not_blocked (executor : Executor) : executor.notified ≠ .blocked := by
  cases executor <;> simp [Executor.notified]

theorem Sound.move (sound : Sound state) (executor : Executor) (destructor : Destructor)
    (notifying : Nat) (running : executor = .running ↔ state.executor = .running)
    (committed : executor = .committed → state.userCallbackExecutionQueue = [])
    (blocked : executor = .blocked → state.userCallbackExecutionQueue ≠ [] → 0 < notifying)
    (silent : ReaderState.listening {state with destructor := destructor} = false → notifying = 0) :
    Sound {state with executor := executor,destructor := destructor,notifying := notifying} where
  account := by
    rw [sound.account]
    simp only [waiting,running]
  committed_empty := committed
  blocked_notified := blocked
  silent := silent

inductive Turn : ReaderState V → Prop
  | on (executor : Executor) (from_call : state.executor ≠ .running) (into_call : executor ≠ .running)
      (commits : executor = .committed → state.userCallbackExecutionQueue = [] ∧ state.exit = false)
      (blocks : executor = .blocked → state.executor = .committed) : Turn {state with executor := executor}
  | call (wrapper rest) (draining : state.executor = .draining)
      (queue : state.userCallbackExecutionQueue = wrapper :: rest) :
      Turn {state with executor := .running,executed := state.executed ++ [wrapper]}
  | pop (running : state.executor = .running) :
      Turn {state with
        executor := .draining
        userCallbackExecutionQueue := state.userCallbackExecutionQueue.tail}

theorem executorStep_turn (stepped : executorStep state = some next) : Turn state next := by
  unfold executorStep at stepped
  split at stepped
  next checking =>
    cases stepped
    refine .on _ ?_ ?_ ?_ ?_ <;> cases state.exit <;> simp [checking]
  next locking =>
    cases stepped
    refine .on _ ?_ ?_ ?_ ?_ <;> simp [locking]
  next testing =>
    cases stepped
    refine .on _ (by simp [testing]) ?_ ?_ ?_
    · split <;> simp
    · intro committed
      split at committed
      next => cases committed
      next none_left => simpa using none_left
    · split <;> simp
  next committed =>
    cases stepped
    refine .on _ ?_ ?_ ?_ ?_ <;> simp [committed]
  next => cases stepped
  next woken =>
    cases stepped
    refine .on _ ?_ ?_ ?_ ?_ <;> simp [woken]
  next waited =>
    cases stepped
    refine .on _ ?_ ?_ ?_ ?_ <;> cases state.exit <;> simp [waited]
  next draining =>
    split at stepped
    next empty =>
      cases stepped
      refine .on _ ?_ ?_ ?_ ?_ <;> simp [draining]
    next wrapper rest queue =>
      cases stepped
      exact .call wrapper rest draining queue
  next running =>
    cases stepped
    exact .pop running
  next => cases stepped

theorem executorStep_sound (stepped : executorStep state = some next) (sound : Sound state) : Sound next := by
  cases executorStep_turn state next stepped with
  | on executor from_call into_call commits blocks =>
    refine sound.move state _ _ _ (iff_of_false into_call from_call) (fun committed => (commits committed).1) ?_
      sound.silent
    intro blocked waits
    exact absurd (sound.committed_empty (blocks blocked)) waits
  | call wrapper rest draining queue =>
    refine ⟨?_,by simp,by simp,sound.silent⟩
    simpa [waiting,draining,queue] using sound.account
  | pop running =>
    refine ⟨?_,by simp,by simp,sound.silent⟩
    simpa [waiting,running] using sound.account

theorem destructorStep_sound (stepped : destructorStep state = some next) (sound : Sound state) :
    Sound next := by
  unfold destructorStep at stepped
  split at stepped
  next alive =>
    cases stepped
    refine sound.move state _ _ _ Iff.rfl sound.committed_empty sound.blocked_notified ?_
    simp [ReaderState.listening]
  next stored =>
    split at stepped
    next idle =>
      cases stepped
      refine sound.move state _ _ _ Iff.rfl sound.committed_empty sound.blocked_notified ?_
      exact fun _ => idle
    next => cases stepped
  next cleared =>
    cases stepped
    refine sound.move state _ _ _ Iff.rfl sound.committed_empty sound.blocked_notified ?_
    exact fun _ => sound.silent (by simp [ReaderState.listening,cleared])
  next disabled =>
    cases stepped
    refine sound.move state _ _ _ (notified_running _) ?_ ?_ ?_
    · exact fun committed => sound.committed_empty ((notified_committed _).mp committed)
    · exact fun blocked => absurd blocked (notified_not_blocked _)
    · exact fun _ => sound.silent (by simp [ReaderState.listening,disabled])
  next joining =>
    split at stepped
    next =>
      cases stepped
      refine sound.move state _ _ _ Iff.rfl sound.committed_empty sound.blocked_notified ?_
      exact fun _ => sound.silent (by simp [ReaderState.listening,joining])
    next => cases stepped
  next => cases stepped

theorem step_sound (label : Label V) (stepped : step state label = some next) (sound : Sound state) :
    Sound next := by
  cases label with
  | push wrapper =>
    simp only [step] at stepped
    split at stepped
    next free =>
      cases stepped
      obtain ⟨listening,unlocked⟩ := free
      refine ⟨?_,?_,?_,?_⟩
      · have idle : state.executor ≠ .running := by
          intro running
          simp [running,Executor.holdsMutex] at unlocked
        have account := sound.account
        simp only [waiting,if_neg idle] at account ⊢
        rw [account,List.append_assoc]
      · intro committed
        have held : state.executor = .committed := committed
        simp [held,Executor.holdsMutex] at unlocked
      · exact fun _ _ => Nat.succ_pos _
      · intro cleared
        exact absurd (listening.symm.trans cleared) (by simp)
    next => cases stepped
  | notifyOne =>
    simp only [step] at stepped
    split at stepped
    next =>
      cases stepped
      refine sound.move state _ _ _ (notified_running _) ?_ ?_ ?_
      · exact fun committed => sound.committed_empty ((notified_committed _).mp committed)
      · exact fun blocked => absurd blocked (notified_not_blocked _)
      · intro cleared
        rw [sound.silent cleared]
    next => cases stepped
  | spuriousWakeUp =>
    simp only [step] at stepped
    split at stepped
    next blocked =>
      cases stepped
      refine sound.move state _ _ _ ?_ ?_ ?_ sound.silent <;> simp [blocked]
    next => cases stepped
  | execute => exact executorStep_sound state next stepped sound
  | destroy => exact destructorStep_sound state next stepped sound

theorem initial_sound : Sound ({} : ReaderState V) := by
  refine ⟨rfl,?_,?_,?_⟩ <;> simp [ReaderState.listening]

end Steps

section Refinement

/-- The reader as it is seen without its thread: a wrapper leaves the queue when it is called. -/
structure Shows (callback : DataCallback) (state : ReaderState V) (reader : FastDDSReader V) : Prop where
  queue : reader.userCallbackExecutionQueue = waiting state
  handed : reader.handed = state.executed.flatMap UserCallbackWrapper.call
  inbox : reader.inbox.queue = [] ∧ reader.inbox.taken = none
  callback : reader.userCallback = callback

def Answers (callback : DataCallback) (state next : ReaderState V) : Prop :=
  ∀ reader, Shows callback state reader →
    ∃ labels after, exec FastDDSReader.step reader labels = some after ∧ Shows callback next after

variable (callback : DataCallback) (state next : ReaderState V)

theorem answers_aside (executed : next.executed = state.executed)
    (queue : next.userCallbackExecutionQueue = state.userCallbackExecutionQueue)
    (running : next.executor = .running ↔ state.executor = .running) : Answers callback state next := by
  intro reader shows_state
  refine ⟨[],reader,rfl,?_,?_,shows_state.inbox,shows_state.callback⟩
  · rw [shows_state.queue]
    simp only [waiting,queue,running]
  · rw [shows_state.handed,executed]

theorem executorStep_answers (stepped : executorStep state = some next) : Answers callback state next := by
  cases executorStep_turn state next stepped with
  | on executor from_call into_call commits blocks =>
    exact answers_aside callback state _ rfl rfl (iff_of_false into_call from_call)
  | call wrapper rest draining queue =>
    intro reader shows_state
    have in_front : reader.userCallbackExecutionQueue = wrapper :: rest := by
      simpa [waiting,draining,queue] using shows_state.queue
    refine ⟨[.execute],{reader with
      userCallbackExecutionQueue := rest
      handed := reader.handed ++ wrapper.call},?_,?_,?_,shows_state.inbox,shows_state.callback⟩
    · simp [exec,FastDDSReader.step,in_front]
    · simp [waiting,queue]
    · simp [shows_state.handed]
  | pop running =>
    intro reader shows_state
    refine ⟨[],reader,rfl,?_,shows_state.handed,shows_state.inbox,shows_state.callback⟩
    simpa [waiting,running] using shows_state.queue

theorem destructorStep_answers (stepped : destructorStep state = some next) : Answers callback state next := by
  unfold destructorStep at stepped
  split at stepped
  next =>
    cases stepped
    exact answers_aside callback state _ rfl rfl Iff.rfl
  next =>
    split at stepped <;> cases stepped
    exact answers_aside callback state _ rfl rfl Iff.rfl
  next =>
    cases stepped
    exact answers_aside callback state _ rfl rfl Iff.rfl
  next =>
    cases stepped
    exact answers_aside callback state _ rfl rfl (notified_running _)
  next =>
    split at stepped <;> cases stepped
    exact answers_aside callback state _ rfl rfl Iff.rfl
  next => cases stepped

/-- A wrapper that is queued is a sample that arrived, was taken and was handled. -/
theorem push_answers (wrapper : UserCallbackWrapper V) (current : wrapper.callback = callback)
    (stepped : step state (.push wrapper) = some next) : Answers callback state next := by
  simp only [step] at stepped
  split at stepped
  next free =>
    cases stepped
    intro reader shows_state
    have idle : state.executor ≠ .running := by
      intro running
      simp [running,Executor.holdsMutex] at free
    obtain ⟨nothing,untaken⟩ := shows_state.inbox
    have built : UserCallbackWrapper.mk wrapper.sample reader.userCallback = wrapper := by
      rw [shows_state.callback,← current]
    have queue := shows_state.queue
    simp only [waiting,if_neg idle] at queue
    refine ⟨[.arrive wrapper.sample,.notify,.handle],{reader with
      inbox := {reader.inbox with arrived := reader.inbox.arrived ++ [wrapper.sample],owed := false}
      userCallbackExecutionQueue := reader.userCallbackExecutionQueue ++ [wrapper]},?_,?_,
      shows_state.handed,⟨nothing,untaken⟩,shows_state.callback⟩
    · simp [exec,FastDDSReader.step,Inbox.arrive,Inbox.take,nothing,untaken,built]
    · simp only [waiting,if_neg idle,queue]
  next => cases stepped

theorem step_answers (label : Label V) (current : ∀ wrapper, label = .push wrapper → wrapper.callback = callback)
    (stepped : step state label = some next) : Answers callback state next := by
  cases label with
  | push wrapper => exact push_answers callback state next wrapper (current wrapper rfl) stepped
  | notifyOne =>
    simp only [step] at stepped
    split at stepped <;> cases stepped
    exact answers_aside callback state _ rfl rfl (notified_running _)
  | spuriousWakeUp =>
    simp only [step] at stepped
    split at stepped
    next blocked =>
      cases stepped
      exact answers_aside callback state _ rfl rfl (by simp [blocked])
    next => cases stepped
  | execute => exact executorStep_answers callback state next stepped
  | destroy => exact destructorStep_answers callback state next stepped

end Refinement

/-- Every run of the threads under one callback is a run of the reader whose executor calls
and pops in one step. -/
theorem refines_reader (callback : DataCallback) (labels : List (Label V)) (final : ReaderState V)
    (current : ∀ label ∈ labels, ∀ wrapper, label = .push wrapper → wrapper.callback = callback)
    (ran : exec step {} labels = some final) :
    ∃ steps reader, exec FastDDSReader.step {userCallback := callback} steps = some reader ∧
      Shows callback final reader := by
  refine exec_allowed step (fun label => ∀ wrapper, label = .push wrapper → wrapper.callback = callback)
    (fun state => ∃ steps reader, exec FastDDSReader.step {userCallback := callback} steps = some reader ∧
      Shows callback state reader) ?_ labels current {} final ran ⟨[],_,rfl,rfl,rfl,⟨rfl,rfl⟩,rfl⟩
  intro state label next allowed stepped reached
  obtain ⟨steps,reader,went,shows_state⟩ := reached
  have answers := step_answers callback state next label allowed stepped
  obtain ⟨more,after,went_on,shows_next⟩ := answers reader shows_state
  exact ⟨steps ++ more,after,(exec_append _ _ _ _ _).mpr ⟨reader,went,went_on⟩,shows_next⟩

section Shutdown
variable (state next : ReaderState V)

def Leaving (state : ReaderState V) : Prop :=
  state.destructor = .joining → state.executor ≠ .committed ∧ state.executor ≠ .blocked

theorem executorStep_blocks (stepped : executorStep state = some next) :
    next.destructor = state.destructor ∧ (next.executor = .blocked → state.executor = .committed) ∧
      (next.executor = .committed → state.exit = false) := by
  cases executorStep_turn state next stepped with
  | on executor from_call into_call commits blocks => exact ⟨rfl,blocks,fun committed => (commits committed).2⟩
  | call wrapper rest draining queue => exact ⟨rfl,by simp,by simp⟩
  | pop running => exact ⟨rfl,by simp,by simp⟩

theorem awake_iff_leaving (sound : Sound state) : Awake state ↔ Leaving state := by
  constructor
  · intro awake joining
    have nobody : state.notifying = 0 := sound.silent (by simp [ReaderState.listening,joining])
    constructor
    · intro committed
      refine awake.2 {state with executor := .blocked} ?_ ⟨joining,rfl,nobody⟩
      simp only [step,executorStep,committed]
    · intro blocked
      exact awake.1 ⟨joining,blocked,nobody⟩
  · intro leaving
    constructor
    · intro hung
      exact (leaving hung.1).2 hung.2.1
    · intro next stepped hung
      obtain ⟨same,blocks,_⟩ := executorStep_blocks state next stepped
      exact (leaving (same.symm.trans hung.1)).1 (blocks hung.2.1)

theorem destructorStep_leaving_iff (stepped : destructorStep state = some next) :
    Leaving next ↔ (state.destructor = .disabled → state.executor ≠ .committed) := by
  unfold destructorStep at stepped
  split at stepped
  next alive =>
    cases stepped
    simp [Leaving,alive]
  next stored =>
    split at stepped <;> cases stepped
    simp [Leaving,stored]
  next cleared =>
    cases stepped
    simp [Leaving,cleared]
  next disabled =>
    cases stepped
    simp [Leaving,disabled,notified_committed,notified_not_blocked]
  next joining =>
    split at stepped <;> cases stepped
    simp [Leaving,joining]
  next => cases stepped

theorem step_leaving_iff (label : Label V) (stepped : step state label = some next) (leaving : Leaving state) :
    Leaving next ↔ Heard state label := by
  cases label with
  | push wrapper =>
    simp only [step] at stepped
    split at stepped <;> cases stepped
    exact iff_of_true leaving trivial
  | notifyOne =>
    simp only [step] at stepped
    split at stepped <;> cases stepped
    refine iff_of_true ?_ trivial
    intro joining
    exact ⟨fun committed => (leaving joining).1 ((notified_committed _).mp committed),notified_not_blocked _⟩
  | spuriousWakeUp =>
    simp only [step] at stepped
    split at stepped <;> cases stepped
    exact iff_of_true (fun _ => by simp) trivial
  | execute =>
    obtain ⟨same,blocks,commits⟩ := executorStep_blocks state next stepped
    refine iff_of_true ?_ trivial
    intro joining
    rw [same] at joining
    constructor
    · intro committed
      have running := commits committed
      simp [ReaderState.exit,joining] at running
    · intro blocked
      exact (leaving joining).1 (blocks blocked)
  | destroy => exact destructorStep_leaving_iff state next stepped

end Shutdown

/-- A run never hangs if the destructor's notification never falls between the test of the
predicate and the blocking; and any run where it falls there can hang in the next step. -/
theorem shutdown_never_hangs_iff (labels : List (Label V)) :
    (Along step Heard {} labels → Throughout step (fun state => ¬ Hung state) {} labels) ∧
    (Throughout step Awake {} labels ↔ Along step Heard {} labels) := by
  have exactly : Throughout step Awake {} labels ↔ Along step Heard ({} : ReaderState V) labels := by
    refine throughout_iff_along step Sound Awake Heard ?_ ?_ labels {} initial_sound ?_
    · intro state label next stepped sound
      exact step_sound state next label stepped sound
    · intro state label next stepped sound awake
      have leaving := (awake_iff_leaving state sound).mp awake
      rw [awake_iff_leaving next (step_sound state next label stepped sound)]
      exact step_leaving_iff state next label stepped leaving
    · apply (awake_iff_leaving _ initial_sound).mpr
      intro joining
      cases joining
  refine ⟨?_,exactly⟩
  intro heard
  exact Throughout.imp step Awake _ (fun _ awake => awake.1) labels {} (exactly.mpr heard)

/-- The executor finds the queue empty and m_exit false, the destructor does all its part,
and then the executor blocks. -/
theorem shutdown_hangs : ¬ ∀ (labels : List (Label Nat)) (final : ReaderState Nat),
    exec step {} labels = some final → ¬ Hung final := by
  intro never
  exact never [.execute,.execute,.execute,.destroy,.destroy,.destroy,.destroy,.execute] _ rfl ⟨rfl,rfl,rfl⟩

end Smw.ExecutorThread
