import Smw.Readers

/-! The data callback of the iceoryx reader, called by the thread of its listener on every
sample that it takes, while others set the callback, subscribe, unsubscribe and destroy. -/
namespace Smw.IceoryxReaderCallback
open Foundation.Execution Readers

/-- Where onDataAvailable stands. Running, it holds the mutex of the callback. -/
inductive Handler
  | idle
  | taken (sample : Nat)
  | running (sample : Nat)
deriving DecidableEq

structure Invocation where
  sample : Nat
  callback : DataCallback
deriving DecidableEq

/-- Samples are numbered as they arrive. The reader is created subscribed and attached. -/
structure ListenerState where
  userCallback : DataCallback := none
  subscribed : Bool := true
  attached : Bool := true
  arrived : Nat := 0
  queue : List Nat := []
  handler : Handler := .idle
  /-- The samples that the callback has moved away, and those whose chunk was released. -/
  kept : List Nat := []
  released : List Nat := []
  terminated : Bool := false
  /-- The samples that were taken while the callback was empty. -/
  takenEmpty : List Nat := []
  invocations : List Invocation := []

inductive Label
  | setDataCallback (callback : DataCallback)
  | enable
  | disable
  | detach
  | arrive
  | take
  | invoke
  | finish (keeps : Bool)
  | drop (sample : Nat)
deriving DecidableEq

/-- A step of the reader while the process runs, none where it is blocked. -/
def act (state : ListenerState) : Label → Option ListenerState
  | .setDataCallback callback =>
    match state.handler with
    | .running _ => none
    | _ => some {state with userCallback := callback}
  | .enable => some {state with subscribed := true}
  | .disable => some {state with subscribed := false}
  | .detach => if state.handler = .idle then some {state with attached := false} else none
  | .arrive =>
    if state.subscribed then
      some {state with arrived := state.arrived + 1,queue := state.queue ++ [state.arrived]}
    else none
  | .take =>
    match state.handler,state.attached,state.queue with
    | .idle,true,sample :: rest =>
      some {state with
        handler := .taken sample
        queue := rest
        takenEmpty := if state.userCallback = none then state.takenEmpty ++ [sample] else state.takenEmpty}
    | _,_,_ => none
  | .invoke =>
    match state.handler with
    | .taken sample =>
      let invocation := Invocation.mk sample state.userCallback
      let invoked := {state with invocations := state.invocations ++ [invocation]}
      match state.userCallback with
      | some _ => some {invoked with handler := .running sample}
      -- Calling an empty function throws out of the thread of the listener.
      | none => some {invoked with terminated := true}
    | _ => none
  | .finish keeps =>
    match state.handler with
    | .running sample =>
      if keeps then some {state with handler := .idle,kept := state.kept ++ [sample]}
      else some {state with handler := .idle,released := state.released ++ [sample]}
    | _ => none
  | .drop sample =>
    if sample ∈ state.kept then
      some {state with kept := state.kept.erase sample,released := state.released ++ [sample]}
    else none

def step (state : ListenerState) (label : Label) : Option ListenerState :=
  if state.terminated then none else act state label

/-- The steps that touch neither the callback nor a sample that was taken. -/
def Label.aside : Label → Bool
  | .enable | .disable | .detach | .arrive => true
  | _ => false

inductive Move (state : ListenerState) : Label → ListenerState → Prop
  | set (callback) : Move state (.setDataCallback callback) {state with userCallback := callback}
  | aside (label subscribed attached arrived queue) (is_aside : Label.aside label = true) :
      Move state label
        {state with subscribed := subscribed,attached := attached,arrived := arrived,queue := queue}
  | take (sample rest) (idle : state.handler = .idle) (queue : state.queue = sample :: rest) :
      Move state .take
        {state with
          handler := .taken sample
          queue := rest
          takenEmpty := if state.userCallback = none then state.takenEmpty ++ [sample] else state.takenEmpty}
  | invoke (sample callback) (taken : state.handler = .taken sample)
      (full : state.userCallback = some callback) :
      Move state .invoke
        {state with
          handler := .running sample
          invocations := state.invocations ++ [⟨sample,state.userCallback⟩]}
  | terminate (sample) (taken : state.handler = .taken sample) (empty : state.userCallback = none) :
      Move state .invoke
        {state with terminated := true,invocations := state.invocations ++ [⟨sample,state.userCallback⟩]}
  | keep (sample) (running : state.handler = .running sample) :
      Move state (.finish true) {state with handler := .idle,kept := state.kept ++ [sample]}
  | release (sample) (running : state.handler = .running sample) :
      Move state (.finish false) {state with handler := .idle,released := state.released ++ [sample]}
  | drop (sample) (kept : sample ∈ state.kept) :
      Move state (.drop sample)
        {state with kept := state.kept.erase sample,released := state.released ++ [sample]}

theorem step_alive (state next : ListenerState) (label : Label) (stepped : step state label = some next) :
    state.terminated = false ∧ act state label = some next := by
  unfold step at stepped
  split at stepped
  next => cases stepped
  next alive => exact ⟨by simpa using alive,stepped⟩

theorem step_move (state next : ListenerState) (label : Label) (stepped : step state label = some next) :
    Move state label next := by
  obtain ⟨_,acted⟩ := step_alive state next label stepped
  cases label with
  | setDataCallback callback =>
    simp only [act] at acted
    split at acted
    next => cases acted
    next =>
      cases acted
      exact .set callback
  | enable =>
    cases acted
    exact .aside .enable _ _ _ _ rfl
  | disable =>
    cases acted
    exact .aside .disable _ _ _ _ rfl
  | detach =>
    simp only [act] at acted
    split at acted
    next =>
      cases acted
      exact .aside .detach _ _ _ _ rfl
    next => cases acted
  | arrive =>
    simp only [act] at acted
    split at acted
    next =>
      cases acted
      exact .aside .arrive _ _ _ _ rfl
    next => cases acted
  | take =>
    simp only [act] at acted
    split at acted
    next sample rest idle attached queue =>
      cases acted
      exact .take sample rest idle queue
    next => cases acted
  | invoke =>
    simp only [act] at acted
    split at acted
    next sample taken =>
      split at acted
      next callback full =>
        cases acted
        exact .invoke sample callback taken full
      next empty =>
        cases acted
        exact .terminate sample taken empty
    next => cases acted
  | finish keeps =>
    simp only [act] at acted
    split at acted
    next sample running =>
      cases keeps with
      | true =>
        cases acted
        exact .keep sample running
      | false =>
        cases acted
        exact .release sample running
    next => cases acted
  | drop sample =>
    simp only [act] at acted
    split at acted
    next kept =>
      cases acted
      exact .drop sample kept
    next => cases acted

section Property

/-- Only a callback that is not empty was invoked. A sample that was taken while it was empty
is still in the hand of the listener, or was released without an invocation. -/
structure Proper (state : ListenerState) : Prop where
  nonEmpty : ∀ invocation ∈ state.invocations, invocation.callback ≠ none
  dropped : ∀ sample ∈ state.takenEmpty, state.handler = .taken sample ∨
    sample ∈ state.released ∧ ∀ invocation ∈ state.invocations, invocation.sample ≠ sample

/-- The state is proper, and stays so if the listener hands over the sample that it has. -/
def Settled (state : ListenerState) : Prop :=
  Proper state ∧ ∀ next, step state .invoke = some next → Proper next

/-- Samples are taken only while there is a callback, and it is cleared only while none of
them is about to be handed over. -/
def Careful (state : ListenerState) : Label → Prop
  | .take => state.userCallback ≠ none
  | .setDataCallback none => ∀ sample, state.handler ≠ .taken sample
  | _ => True

structure Ready (state : ListenerState) : Prop where
  nonEmpty : ∀ invocation ∈ state.invocations, invocation.callback ≠ none
  never : state.takenEmpty = []
  prepared : ∀ sample, state.handler = .taken sample → state.userCallback ≠ none

/-- Whatever was handled was invoked, and only an empty callback terminates. -/
structure Invoked (state : ListenerState) : Prop where
  terminated : state.terminated = true → ∃ invocation ∈ state.invocations, invocation.callback = none
  running : ∀ sample, state.handler = .running sample →
    ∃ invocation ∈ state.invocations, invocation.sample = sample
  kept : ∀ sample ∈ state.kept, ∃ invocation ∈ state.invocations, invocation.sample = sample
  released : ∀ sample ∈ state.released, ∃ invocation ∈ state.invocations, invocation.sample = sample

end Property

section Steps
variable (state next : ListenerState) (label : Label) (stepped : step state label = some next)
include stepped

theorem step_invoked (held : Invoked state) : Invoked next := by
  have longer (last : Invocation) (number : Nat)
      (before : ∃ invocation ∈ state.invocations, invocation.sample = number) :
      ∃ invocation ∈ state.invocations ++ [last], invocation.sample = number := by
    obtain ⟨invocation,member,same⟩ := before
    exact ⟨invocation,List.mem_append_left _ member,same⟩
  cases step_move state next label stepped with
  | set callback => exact ⟨held.terminated,held.running,held.kept,held.released⟩
  | aside => exact ⟨held.terminated,held.running,held.kept,held.released⟩
  | take sample rest idle queue =>
    refine ⟨held.terminated,?_,held.kept,held.released⟩
    intro other running
    cases running
  | invoke sample callback taken full =>
    refine ⟨?_,?_,fun other member => longer _ other (held.kept other member),
      fun other member => longer _ other (held.released other member)⟩
    · intro terminated
      obtain ⟨invocation,member,empty⟩ := held.terminated terminated
      exact ⟨invocation,List.mem_append_left _ member,empty⟩
    · intro other running
      cases running
      exact ⟨_,List.mem_append_right _ List.mem_cons_self,rfl⟩
  | terminate sample taken empty =>
    exact ⟨fun _ => ⟨_,List.mem_append_right _ List.mem_cons_self,empty⟩,
      fun other running => longer _ other (held.running other running),
      fun other member => longer _ other (held.kept other member),
      fun other member => longer _ other (held.released other member)⟩
  | keep sample running =>
    refine ⟨held.terminated,?_,?_,held.released⟩
    · intro other still
      cases still
    · intro other member
      rcases List.mem_append.mp member with before | last
      · exact held.kept other before
      · rw [List.mem_singleton.mp last]
        exact held.running sample running
  | release sample running =>
    refine ⟨held.terminated,?_,held.kept,?_⟩
    · intro other still
      cases still
    · intro other member
      rcases List.mem_append.mp member with before | last
      · exact held.released other before
      · rw [List.mem_singleton.mp last]
        exact held.running sample running
  | drop sample kept =>
    refine ⟨held.terminated,held.running,?_,?_⟩
    · intro other member
      exact held.kept other (List.mem_of_mem_erase member)
    · intro other member
      rcases List.mem_append.mp member with before | last
      · exact held.released other before
      · rw [List.mem_singleton.mp last]
        exact held.kept sample kept

theorem step_ready_iff (ready : Ready state) : Ready next ↔ Careful state label := by
  cases step_move state next label stepped with
  | set callback =>
    cases callback with
    | some callback => exact iff_of_true ⟨ready.nonEmpty,ready.never,fun _ _ => Option.some_ne_none _⟩ trivial
    | none =>
      constructor
      · intro after sample taken
        exact after.prepared sample taken rfl
      · intro free
        exact ⟨ready.nonEmpty,ready.never,fun sample taken => absurd taken (free sample)⟩
  | aside _ subscribed attached arrived queue is_aside =>
    refine iff_of_true ⟨ready.nonEmpty,ready.never,ready.prepared⟩ ?_
    cases label with
    | setDataCallback callback => cases is_aside
    | take => cases is_aside
    | _ => trivial
  | take sample rest idle queue =>
    constructor
    · intro after
      exact after.prepared sample rfl
    · intro full
      refine ⟨ready.nonEmpty,?_,fun _ _ => full⟩
      exact (if_neg full).trans ready.never
  | invoke sample callback taken full =>
    refine iff_of_true ⟨?_,ready.never,?_⟩ trivial
    · intro invocation member
      rcases List.mem_append.mp member with before | last
      · exact ready.nonEmpty invocation before
      · rw [List.mem_singleton.mp last]
        exact ready.prepared sample taken
    · intro other still
      cases still
  | terminate sample taken empty => exact absurd empty (ready.prepared sample taken)
  | keep sample running => exact iff_of_true ⟨ready.nonEmpty,ready.never,fun _ still => by cases still⟩ trivial
  | release sample running =>
    exact iff_of_true ⟨ready.nonEmpty,ready.never,fun _ still => by cases still⟩ trivial
  | drop sample kept => exact iff_of_true ⟨ready.nonEmpty,ready.never,ready.prepared⟩ trivial

end Steps

theorem step_invoke (state : ListenerState) (alive : state.terminated = false) (sample : Nat)
    (taken : state.handler = .taken sample) : ∃ next, step state .invoke = some next ∧
      next.takenEmpty = state.takenEmpty ∧
      next.invocations = state.invocations ++ [⟨sample,state.userCallback⟩] ∧
      (next.handler = .taken sample → state.userCallback = none) := by
  by_cases empty : state.userCallback = none
  · have stepped : step state .invoke = some {state with
        terminated := true
        invocations := state.invocations ++ [⟨sample,state.userCallback⟩]} := by
      simp [step,act,alive,taken,empty]
    exact ⟨_,stepped,rfl,rfl,fun _ => empty⟩
  · obtain ⟨callback,full⟩ := Option.ne_none_iff_exists'.mp empty
    have stepped : step state .invoke = some {state with
        handler := .running sample
        invocations := state.invocations ++ [⟨sample,state.userCallback⟩]} := by
      simp [step,act,alive,taken,full]
    refine ⟨_,stepped,rfl,rfl,?_⟩
    intro still
    cases still

theorem settled_iff_ready (state : ListenerState) (invoked : Invoked state) : Settled state ↔ Ready state := by
  constructor
  · intro settled
    obtain ⟨proper,handed⟩ := settled
    have alive : state.terminated = false := by
      by_contra terminated
      obtain ⟨invocation,member,empty⟩ := invoked.terminated (by simpa using terminated)
      exact proper.nonEmpty invocation member empty
    have prepared : ∀ sample, state.handler = .taken sample → state.userCallback ≠ none := by
      intro sample taken empty
      obtain ⟨next,stepped,_,invocations,_⟩ := step_invoke state alive sample taken
      refine (handed next stepped).nonEmpty ⟨sample,state.userCallback⟩ ?_ empty
      rw [invocations]
      exact List.mem_append_right _ List.mem_cons_self
    refine ⟨proper.nonEmpty,?_,prepared⟩
    by_contra some_taken
    obtain ⟨sample,member⟩ := List.exists_mem_of_ne_nil _ some_taken
    rcases proper.dropped sample member with taken | ⟨released,uninvoked⟩
    · obtain ⟨next,stepped,takenEmpty,invocations,still⟩ := step_invoke state alive sample taken
      rcases (handed next stepped).dropped sample (takenEmpty ▸ member) with in_hand | ⟨_,uninvoked⟩
      · exact prepared sample taken (still in_hand)
      · refine uninvoked ⟨sample,state.userCallback⟩ ?_ rfl
        rw [invocations]
        exact List.mem_append_right _ List.mem_cons_self
    · obtain ⟨invocation,listed,same⟩ := invoked.released sample released
      exact uninvoked invocation listed same
  · intro ready
    have proper (other : ListenerState) (still : Ready other) : Proper other := by
      refine ⟨still.nonEmpty,?_⟩
      intro sample member
      rw [still.never] at member
      cases member
    refine ⟨proper state ready,?_⟩
    intro next stepped
    exact proper next ((step_ready_iff state next .invoke stepped ready).mpr trivial)

theorem initial_invoked : Invoked {} where
  terminated := by
    intro terminated
    cases terminated
  running := by
    intro sample running
    cases running
  kept := by
    intro sample member
    cases member
  released := by
    intro sample member
    cases member

theorem callback_nonempty_iff (labels : List Label) :
    Throughout step Settled {} labels ↔ Along step Careful {} labels := by
  refine throughout_iff_along step Invoked Settled Careful ?_ ?_ labels {} initial_invoked ?_
  · intro state label next stepped invoked
    exact step_invoked state next label stepped invoked
  · intro state label next stepped invoked settled
    have ready := (settled_iff_ready state invoked).mp settled
    rw [settled_iff_ready next (step_invoked state next label stepped invoked)]
    exact step_ready_iff state next label stepped ready
  · refine (settled_iff_ready {} initial_invoked).mpr ⟨?_,rfl,?_⟩
    · intro invocation member
      cases member
    · intro sample taken
      cases taken

/-- A sample arrives between the construction of the reader and its first callback. -/
theorem early_sample_terminates : ¬ Throughout step Proper {} [.arrive,.take,.invoke] := by
  intro all
  have proper := Throughout.final step Proper _ _ _ all rfl
  exact proper.nonEmpty ⟨0,none⟩ (by decide) rfl

end Smw.IceoryxReaderCallback
