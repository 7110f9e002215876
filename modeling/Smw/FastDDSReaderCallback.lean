import Smw.Readers

/-! The data callback of the DDS reader on its way from the receiving thread to the executor,
which calls it later, while it may be replaced at any time. -/
namespace Smw.FastDDSReaderCallback
open Foundation.Execution Readers
variable {V : Type}

/-- Where onDataAvailable stands, which the mutex of the listener serialises. -/
inductive Receiver (V : Type)
  | idle
  | taken (sample : V)
  | wrapped (wrapper : UserCallbackWrapper V)

/-- The executor holds the mutex of the queue unless it waits. While it runs a callback, the
wrapper of that call is still at the front of the queue. -/
inductive Executor
  | waiting
  | draining
  | running
deriving DecidableEq

structure CallbackState (V : Type) where
  userCallback : DataCallback := none
  receiver : Receiver V := .idle
  userCallbackExecutionQueue : List (UserCallbackWrapper V) := []
  executor : Executor := .waiting
  started : List (Nat × V) := []

inductive Label (V : Type)
  | setDataCallback (callback : DataCallback)
  | take (sample : V)
  | wrap
  | enqueue
  | wake
  | execute
  | finish
  | wait

/-- A step of the receiving thread, of the executor or of a caller, none where it is blocked. -/
def step (state : CallbackState V) : Label V → Option (CallbackState V)
  | .setDataCallback callback => some {state with userCallback := callback}
  | .take sample =>
    match state.receiver with
    | .idle => some {state with receiver := .taken sample}
    | _ => none
  | .wrap =>
    match state.receiver with
    | .taken sample => some {state with receiver := .wrapped ⟨sample,state.userCallback⟩}
    | _ => none
  | .enqueue =>
    match state.receiver,state.executor with
    | .wrapped wrapper,.waiting =>
      some {state with
        receiver := .idle
        userCallbackExecutionQueue := state.userCallbackExecutionQueue ++ [wrapper]}
    | _,_ => none
  | .wake =>
    match state.executor,state.userCallbackExecutionQueue with
    | .waiting,_ :: _ => some {state with executor := .draining}
    | _,_ => none
  | .execute =>
    match state.executor,state.userCallbackExecutionQueue with
    | .draining,wrapper :: rest =>
      match wrapper.callback with
      | some callback =>
        some {state with executor := .running,started := state.started ++ [(callback,wrapper.sample)]}
      | none => some {state with userCallbackExecutionQueue := rest}
    | _,_ => none
  | .finish =>
    match state.executor with
    | .running =>
      some {state with
        executor := .draining
        userCallbackExecutionQueue := state.userCallbackExecutionQueue.tail}
    | _ => none
  | .wait =>
    match state.executor,state.userCallbackExecutionQueue with
    | .draining,[] => some {state with executor := .waiting}
    | _,_ => none

section Property

def Receiver.pending : Receiver V → List (UserCallbackWrapper V)
  | .wrapped wrapper => [wrapper]
  | _ => []

/-- The wrappers in the queue whose calls have not started. -/
def queued (state : CallbackState V) : List (UserCallbackWrapper V) :=
  match state.executor with
  | .running => state.userCallbackExecutionQueue.tail
  | _ => state.userCallbackExecutionQueue

def Label.sets : Label V → Bool
  | .setDataCallback (some _) => true
  | _ => false

/-- Once the callback is cleared, no data callback starts until another one is set. -/
def ClearingFinal (state : CallbackState V) : Prop :=
  ∀ cleared after final, step state (.setDataCallback none) = some cleared →
    (∀ label ∈ after, label.sets = false) → exec step cleared after = some final →
    final.started = state.started

/-- Every wrapper that is built and whose call has not started has an empty callback. -/
def NothingPending (state : CallbackState V) : Prop :=
  ∀ wrapper ∈ state.receiver.pending ++ queued state, wrapper.callback = none

structure Cleared (base : List (Nat × V)) (state : CallbackState V) : Prop where
  empty : state.userCallback = none
  pending : NothingPending state
  started : state.started = base

end Property

section Silence

/-- Only a wrapper that is built now, from the empty callback, may be new. -/
theorem Cleared.frame (base : List (Nat × V)) (state next : CallbackState V) (held : Cleared base state)
    (same : next.userCallback = state.userCallback) (started : next.started = state.started)
    (fewer : ∀ wrapper ∈ next.receiver.pending ++ queued next,
      wrapper ∈ state.receiver.pending ++ queued state ∨ wrapper.callback = state.userCallback) :
    Cleared base next where
  empty := same.trans held.empty
  started := started.trans held.started
  pending := by
    intro wrapper member
    rcases fewer wrapper member with known | built
    · exact held.pending wrapper known
    · exact built.trans held.empty

theorem step_cleared (base : List (Nat × V)) (state : CallbackState V) (label : Label V)
    (next : CallbackState V) (keeps : label.sets = false) (stepped : step state label = some next)
    (held : Cleared base state) : Cleared base next := by
  cases label with
  | setDataCallback callback =>
    cases stepped
    cases callback with
    | some callback => cases keeps
    | none => exact ⟨rfl,held.pending,held.started⟩
  | take sample =>
    simp only [step] at stepped
    split at stepped
    next idle =>
      cases stepped
      exact held.frame base state _ rfl rfl (fun _ member => .inl (by simpa [idle,Receiver.pending,queued] using member))
    next => cases stepped
  | wrap =>
    simp only [step] at stepped
    split at stepped
    next sample taken =>
      cases stepped
      refine held.frame base state _ rfl rfl ?_
      intro wrapper member
      rcases List.mem_append.mp member with built | listed
      · right
        rw [List.mem_singleton.mp built]
      · exact .inl (List.mem_append_right _ listed)
    next => cases stepped
  | enqueue =>
    simp only [step] at stepped
    split at stepped
    next built wrapped waiting =>
      cases stepped
      refine held.frame base state _ rfl rfl ?_
      intro wrapper member
      left
      simpa [queued,wrapped,waiting,Receiver.pending,or_comm] using member
    next => cases stepped
  | wake =>
    simp only [step] at stepped
    split at stepped
    next first rest waiting queue =>
      cases stepped
      exact held.frame base state _ rfl rfl (fun _ member => .inl (by simpa [queued,waiting] using member))
    next => cases stepped
  | execute =>
    simp only [step] at stepped
    split at stepped
    next first rest draining queue =>
      split at stepped
      next callback full =>
        have none_here := held.pending first (by simp [queued,draining,queue])
        rw [full] at none_here
        cases none_here
      next =>
        cases stepped
        refine held.frame base state _ rfl rfl ?_
        intro wrapper member
        left
        simp only [queued,draining,queue,List.mem_append] at member ⊢
        exact member.imp_right (List.mem_cons_of_mem _)
    next => cases stepped
  | finish =>
    simp only [step] at stepped
    split at stepped
    next running =>
      cases stepped
      exact held.frame base state _ rfl rfl (fun _ member => .inl (by simpa [queued,running] using member))
    next => cases stepped
  | wait =>
    simp only [step] at stepped
    split at stepped
    next draining queue =>
      cases stepped
      exact held.frame base state _ rfl rfl (fun _ member => .inl (by simpa [queued,draining] using member))
    next => cases stepped

end Silence

section LateCalls
variable (base : List (Nat × V))

/-- Some continuation that sets no callback starts a call. -/
def Starts (state : CallbackState V) : Prop :=
  ∃ after final, (∀ label ∈ after, label.sets = false) ∧ exec step state after = some final ∧
    final.started ≠ base

theorem starts_of_step (state next : CallbackState V) (label : Label V) (keeps : label.sets = false)
    (stepped : step state label = some next) (starts : Starts base next) : Starts base state := by
  obtain ⟨after,final,allowed,ran,started⟩ := starts
  refine ⟨label :: after,final,?_,(exec_cons _ _ _ _ _).mpr ⟨next,stepped,ran⟩,started⟩
  exact List.forall_mem_cons.mpr ⟨keeps,allowed⟩

def Full (wrapper : UserCallbackWrapper V) : Prop := wrapper.callback ≠ none

theorem front_starts (state : CallbackState V) (wrapper : UserCallbackWrapper V)
    (rest : List (UserCallbackWrapper V)) (draining : state.executor = .draining)
    (holds : state.userCallbackExecutionQueue = wrapper :: rest) (started : state.started = base)
    (full : Full wrapper) : Starts base state := by
  obtain ⟨callback,nonempty⟩ := Option.ne_none_iff_exists'.mp full
  apply starts_of_step base state _ .execute rfl (by simp only [step,draining,holds,nonempty]; rfl)
  refine ⟨[],_,by simp,rfl,?_⟩
  simp [started]

theorem receiver_starts (state : CallbackState V) (wrapper : UserCallbackWrapper V)
    (wrapped : state.receiver = .wrapped wrapper) (waiting : state.executor = .waiting)
    (holds : state.userCallbackExecutionQueue = []) (started : state.started = base) (full : Full wrapper) :
    Starts base state := by
  apply starts_of_step base state _ .enqueue rfl (by simp only [step,wrapped,waiting,holds]; rfl)
  apply starts_of_step base _ _ .wake rfl rfl
  exact front_starts base _ wrapper [] rfl rfl started full

theorem pending_wrapped (receiver : Receiver V) (wrapper : UserCallbackWrapper V)
    (member : wrapper ∈ receiver.pending) : receiver = .wrapped wrapper := by
  cases receiver with
  | idle => cases member
  | taken sample => cases member
  | wrapped built => rw [List.mem_singleton.mp member]

/-- The executor empties the queue before it lets the receiving thread add to it. -/
theorem draining_starts (queue : List (UserCallbackWrapper V)) (state : CallbackState V)
    (draining : state.executor = .draining) (holds : state.userCallbackExecutionQueue = queue)
    (started : state.started = base) (full : ∃ wrapper ∈ state.receiver.pending ++ queue, Full wrapper) :
    Starts base state := by
  induction queue generalizing state with
  | nil =>
    obtain ⟨wrapper,member,nonempty⟩ := full
    have wrapped := pending_wrapped state.receiver wrapper (by simpa using member)
    apply starts_of_step base state _ .wait rfl (by simp only [step,draining,holds]; rfl)
    exact receiver_starts base _ wrapper wrapped rfl rfl started nonempty
  | cons first rest ih =>
    cases callback : first.callback with
    | some callback => exact front_starts base state first rest draining holds started (by simp [Full,callback])
    | none =>
      apply starts_of_step base state _ .execute rfl (by simp only [step,draining,holds,callback]; rfl)
      refine ih _ rfl rfl started ?_
      obtain ⟨wrapper,member,nonempty⟩ := full
      refine ⟨wrapper,?_,nonempty⟩
      rcases List.mem_append.mp member with built | listed
      · exact List.mem_append_left _ built
      · rcases List.mem_cons.mp listed with rfl | inside
        · exact absurd callback nonempty
        · exact List.mem_append_right _ inside

theorem pending_starts (state : CallbackState V) (started : state.started = base)
    (full : ∃ wrapper ∈ state.receiver.pending ++ queued state, Full wrapper) : Starts base state := by
  unfold queued at full
  cases executor : state.executor with
  | draining =>
    rw [executor] at full
    exact draining_starts base _ state executor rfl started full
  | running =>
    rw [executor] at full
    apply starts_of_step base state _ .finish rfl (by simp only [step,executor]; rfl)
    exact draining_starts base _ _ rfl rfl started full
  | waiting =>
    rw [executor] at full
    cases holds : state.userCallbackExecutionQueue with
    | nil =>
      obtain ⟨wrapper,member,nonempty⟩ := full
      have wrapped := pending_wrapped state.receiver wrapper (by simpa [holds] using member)
      exact receiver_starts base state wrapper wrapped executor holds started nonempty
    | cons first rest =>
      apply starts_of_step base state _ .wake rfl (by simp only [step,executor,holds]; rfl)
      refine draining_starts base _ _ rfl rfl started ?_
      rw [holds] at full
      exact full

end LateCalls

/-- Clearing is final exactly where no wrapper with a callback is on its way. -/
theorem clearing_final_iff (state : CallbackState V) : ClearingFinal state ↔ NothingPending state := by
  constructor
  · intro silent
    by_contra pending
    obtain ⟨wrapper,member,nonempty⟩ : ∃ wrapper ∈ state.receiver.pending ++ queued state, Full wrapper := by
      simpa [NothingPending,Full] using pending
    obtain ⟨after,final,allowed,ran,started⟩ :=
      pending_starts state.started {state with userCallback := none} rfl ⟨wrapper,member,nonempty⟩
    exact started (silent _ after final rfl allowed ran)
  · intro pending cleared after final stepped allowed ran
    cases stepped
    have held := exec_allowed step (fun label => label.sets = false) (Cleared state.started)
      (fun before label next keeps moved => step_cleared state.started before label next keeps moved) after
      allowed _ final ran ⟨rfl,pending,rfl⟩
    exact held.started

/-- A sample is queued with its callback, the callback is cleared, and then the executor
calls it. -/
theorem queued_call_after_clearing : ∃ state cleared final,
    exec step {} [.setDataCallback (some 0),.take 7,.wrap,.enqueue] = some state ∧
      step state (.setDataCallback none) = some cleared ∧ exec step cleared [.wake,.execute] = some final ∧
      final.started = [(0,7)] ∧ ¬ ClearingFinal state := by
  refine ⟨_,_,_,rfl,rfl,rfl,rfl,?_⟩
  intro silent
  have same := silent _ [.wake,.execute] _ rfl (by decide) rfl
  cases same

end Smw.FastDDSReaderCallback
