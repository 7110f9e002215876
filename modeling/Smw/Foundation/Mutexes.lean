import Smw.Foundation.Execution
import Mathlib.Algebra.Order.BigOperators.Group.List
import Mathlib.Algebra.Order.Ring.Nat
import Mathlib.Data.Set.Basic
import Mathlib.Logic.Function.Basic

/-! Threads that acquire and release mutexes. A mutex has one holder at most; a thread runs
a program of acquisitions and releases that nest, and waits for a mutex that is held. -/
namespace Foundation

/-- What every thread holds, the last acquired first. -/
structure Locks (T M : Type) where
  holder : M → Option T
  held : T → List M
  owned : ∀ mutex thread, holder mutex = some thread ↔ mutex ∈ held thread
  distinct : ∀ thread, (held thread).Nodup

namespace Locks
variable {T M : Type}

def unlocked : Locks T M where
  holder := fun _ => none
  held := fun _ => []
  owned := by
    intro mutex thread
    simp
  distinct := fun _ => List.nodup_nil

variable [DecidableEq T] [DecidableEq M]

def acquire (locks : Locks T M) (thread : T) (mutex : M) (free : locks.holder mutex = none) : Locks T M where
  holder := Function.update locks.holder mutex (some thread)
  held := Function.update locks.held thread (mutex :: locks.held thread)
  owned := by
    intro other owner
    have unheld : mutex ∉ locks.held owner := by
      rw [← locks.owned,free]
      exact Option.some_ne_none owner ∘ Eq.symm
    by_cases same : owner = thread
    · subst same
      by_cases taken : other = mutex
      · simp [taken]
      · simp [taken,locks.owned]
    · by_cases taken : other = mutex
      · subst taken
        simp [same,unheld,Ne.symm same]
      · simp [same,taken,locks.owned]
  distinct := by
    intro owner
    by_cases same : owner = thread
    · subst same
      rw [Function.update_self,List.nodup_cons,← locks.owned,free]
      exact ⟨Option.some_ne_none owner ∘ Eq.symm,locks.distinct owner⟩
    · rw [Function.update_of_ne same]
      exact locks.distinct owner

def release (locks : Locks T M) (thread : T) (mutex : M) (below : List M)
    (top : locks.held thread = mutex :: below) : Locks T M where
  holder := Function.update locks.holder mutex none
  held := Function.update locks.held thread below
  owned := by
    intro other owner
    have distinct := locks.distinct thread
    rw [top,List.nodup_cons] at distinct
    have holder : locks.holder mutex = some thread := (locks.owned mutex thread).mpr (by simp [top])
    by_cases same : owner = thread
    · subst same
      by_cases left : other = mutex
      · simp [left,distinct.1]
      · simp [left,locks.owned,top]
    · have unheld : mutex ∉ locks.held owner := by
        rw [← locks.owned,holder]
        exact fun equal => same (Option.some.inj equal).symm
      by_cases left : other = mutex
      · subst left
        simp [same,unheld]
      · simp [same,left,locks.owned]
  distinct := by
    intro owner
    by_cases same : owner = thread
    · subst same
      have distinct := locks.distinct owner
      rw [top,List.nodup_cons] at distinct
      rw [Function.update_self]
      exact distinct.2
    · rw [Function.update_of_ne same]
      exact locks.distinct owner

end Locks

namespace Locks
variable {T M : Type} (locks : Locks T M) (waits : T → Option M)

/-- Every thread of the set waits for a mutex that another one of them holds. -/
def Stuck (threads : Set T) : Prop :=
  ∀ thread ∈ threads, ∃ mutex other, waits thread = some mutex ∧ other ∈ threads ∧ other ≠ thread ∧
    locks.holder mutex = some other

def Deadlocked : Prop := ∃ threads : Set T, threads.Nonempty ∧ locks.Stuck waits threads

variable {locks waits} in
theorem Stuck.holder {threads : Set T} (stuck : locks.Stuck waits threads) (thread : T)
    (member : thread ∈ threads) (mutex : M) (waiting : waits thread = some mutex) :
    ∃ other ∈ threads, other ≠ thread ∧ locks.holder mutex = some other ∧ mutex ∈ locks.held other ∧
      ∃ next, waits other = some next := by
  obtain ⟨same,other,same_waiting,inside,different,holder⟩ := stuck thread member
  cases waiting.symm.trans same_waiting
  obtain ⟨next,_,next_waiting,_⟩ := stuck other inside
  exact ⟨other,inside,different,holder,(locks.owned mutex other).mp holder,next,next_waiting⟩

/-- Threads that acquire in the order of a bounded rank do not get stuck: some thread of a
stuck set waits for a mutex that does not come after one that it holds. -/
theorem order_broken (threads : Set T) (nonempty : threads.Nonempty) (stuck : locks.Stuck waits threads)
    (rank : M → Nat) (top : Nat) (bounded : ∀ mutex, rank mutex ≤ top) :
    ∃ thread ∈ threads, ∃ mutex earlier, waits thread = some mutex ∧ earlier ∈ locks.held thread ∧
      rank mutex ≤ rank earlier := by
  by_contra ordered
  push Not at ordered
  have climbs (level : Nat) : ∃ thread ∈ threads, ∃ mutex, waits thread = some mutex ∧ level ≤ rank mutex := by
    induction level with
    | zero =>
      obtain ⟨thread,member⟩ := nonempty
      obtain ⟨mutex,_,waiting,_⟩ := stuck thread member
      exact ⟨thread,member,mutex,waiting,Nat.zero_le _⟩
    | succ level ih =>
      obtain ⟨thread,member,mutex,waiting,above⟩ := ih
      obtain ⟨other,inside,_,_,owned,next,next_waiting⟩ := stuck.holder thread member mutex waiting
      have higher := ordered other inside next mutex next_waiting owned
      exact ⟨other,inside,next,next_waiting,by omega⟩
  obtain ⟨_,_,mutex,_,above⟩ := climbs (top + 1)
  have below := bounded mutex
  omega

end Locks

/-- An instruction of a thread, and the effects that may add instructions before the next. -/
inductive Instr (M E : Type)
  | acquire (mutex : M)
  | release (mutex : M)
  | effect (action : E)
deriving DecidableEq

namespace Instr
variable {M E : Type}

/-- A scope that holds the mutex. -/
def locked (mutex : M) (body : List (Instr M E)) : List (Instr M E) :=
  .acquire mutex :: (body ++ [.release mutex])

/-- A program that is run while the given mutexes are held: it acquires and acts as allowed,
releases what it acquired last, and ends with nothing held. -/
def Follows (allowed : List M → M → Prop) (permits : List M → E → Prop) :
    List M → List (Instr M E) → Prop
  | held, [] => held = []
  | held, .acquire mutex :: rest => allowed held mutex ∧ Follows allowed permits (mutex :: held) rest
  | held, .release mutex :: rest => ∃ below, held = mutex :: below ∧ Follows allowed permits below rest
  | held, .effect action :: rest => permits held action ∧ Follows allowed permits held rest

/-- One mutex is held, and the program acquires another one before it releases the first. -/
def Nests (outer inner : M) (held : List M) (program : List (Instr M E)) : Prop :=
  outer ∈ held ∧ ∃ before after, program = before ++ .acquire inner :: after ∧ .release outer ∉ before

/-- A piece of a program that ends with the mutexes held that it began with. -/
def Balanced (allowed : List M → M → Prop) (permits : List M → E → Prop) (held : List M)
    (piece : List (Instr M E)) : Prop :=
  ∀ rest, Follows allowed permits held rest → Follows allowed permits held (piece ++ rest)

section Balanced
variable {allowed : List M → M → Prop} {permits : List M → E → Prop} {held : List M}

theorem balanced_nil : Balanced allowed permits held [] := fun _ follows => follows

theorem balanced_append (first second : List (Instr M E)) (left : Balanced allowed permits held first)
    (right : Balanced allowed permits held second) : Balanced allowed permits held (first ++ second) := by
  intro rest follows
  rw [List.append_assoc]
  exact left _ (right rest follows)

theorem balanced_flatMap {A : Type} (items : List A) (piece : A → List (Instr M E))
    (each : ∀ item ∈ items, Balanced allowed permits held (piece item)) :
    Balanced allowed permits held (items.flatMap piece) := by
  induction items with
  | nil => exact balanced_nil
  | cons item rest ih =>
    rw [List.flatMap_cons]
    have others := ih (fun other member => each other (List.mem_cons_of_mem _ member))
    exact balanced_append _ _ (each item List.mem_cons_self) others

theorem balanced_locked (mutex : M) (body : List (Instr M E)) (may : allowed held mutex)
    (inside : Balanced allowed permits (mutex :: held) body) :
    Balanced allowed permits held (locked mutex body) := by
  intro rest follows
  refine ⟨may,?_⟩
  change Follows allowed permits (mutex :: held) ((body ++ [.release mutex]) ++ rest)
  rw [List.append_assoc]
  exact inside _ ⟨held,rfl,follows⟩

theorem balanced_effect (action : E) (may : permits held action) :
    Balanced allowed permits held [.effect action] := fun _ follows => ⟨may,follows⟩

end Balanced

/-- The length of a program, where an effect counts for the instructions that it may add. -/
def work (weight : E → Nat) : List (Instr M E) → Nat
  | [] => 0
  | .effect action :: rest => weight action + 1 + work weight rest
  | .acquire _ :: rest => 1 + work weight rest
  | .release _ :: rest => 1 + work weight rest

theorem work_append (weight : E → Nat) (first second : List (Instr M E)) :
    work weight (first ++ second) = work weight first + work weight second := by
  induction first with
  | nil => simp [work]
  | cons instruction rest ih =>
    cases instruction <;> simp only [List.cons_append,work,ih] <;> omega

end Instr

/-- Threads that run activities, each of one thread. An effect changes the data that the
threads share and gives the instructions that follow from it. -/
structure Threads (T M E A S : Type) where
  thread : A → T
  script : A → S → List (Instr M E)
  perform : E → S → List (Instr M E) × S

namespace Threads
variable {T M E A S : Type}

structure State (T M E S : Type) where
  locks : Locks T M
  todo : T → List (Instr M E)
  data : S

def State.idle (data : S) : State T M E S := ⟨Locks.unlocked,fun _ => [],data⟩

inductive Label (T A : Type)
  | start (activity : A)
  | advance (thread : T)
deriving DecidableEq

/-- The mutex that a thread acquires next. -/
def State.waits (state : State T M E S) (thread : T) : Option M :=
  match state.todo thread with
  | .acquire mutex :: _ => some mutex
  | _ => none

def State.Nests (state : State T M E S) (thread : T) (outer inner : M) : Prop :=
  Instr.Nests outer inner (state.locks.held thread) (state.todo thread)

theorem State.nests_of_waits (state : State T M E S) (thread : T) (outer inner : M)
    (owned : outer ∈ state.locks.held thread) (waiting : state.waits thread = some inner) :
    state.Nests thread outer inner := by
  unfold State.waits at waiting
  split at waiting
  next mutex rest todo =>
    cases waiting
    exact ⟨owned,[],rest,todo,List.not_mem_nil⟩
  next => cases waiting

def State.Deadlocked (state : State T M E S) : Prop := state.locks.Deadlocked state.waits

variable [DecidableEq T] [DecidableEq M] (threads : Threads T M E A S)

/-- An instruction of one thread, or the start of an activity where its thread has none. -/
def step (state : State T M E S) : Label T A → Option (State T M E S)
  | .start activity =>
    match state.todo (threads.thread activity) with
    | [] =>
      let script := threads.script activity state.data
      some {state with todo := Function.update state.todo (threads.thread activity) script}
    | _ :: _ => none
  | .advance thread =>
    match state.todo thread with
    | [] => none
    | .acquire mutex :: rest =>
      if free : state.locks.holder mutex = none then
        some {state with
          locks := state.locks.acquire thread mutex free
          todo := Function.update state.todo thread rest}
      else none
    | .release mutex :: rest =>
      match top : state.locks.held thread with
      | last :: below =>
        if same : last = mutex then
          some {state with
            locks := state.locks.release thread mutex below (same ▸ top)
            todo := Function.update state.todo thread rest}
        else none
      | [] => none
    | .effect action :: rest =>
      let (expansion,data) := threads.perform action state.data
      some {state with todo := Function.update state.todo thread (expansion ++ rest),data := data}

/-- The thread that takes a step, what it holds afterwards and what is left of its program. -/
inductive Turn (state : State T M E S) : Label T A → T → List M → List (Instr M E) → Prop
  | start (activity : A) (idle : state.todo (threads.thread activity) = []) :
      Turn state (.start activity) (threads.thread activity)
        (state.locks.held (threads.thread activity)) (threads.script activity state.data)
  | acquire (thread : T) (mutex : M) (rest : List (Instr M E))
      (first : state.todo thread = .acquire mutex :: rest) (free : state.locks.holder mutex = none) :
      Turn state (.advance thread) thread (mutex :: state.locks.held thread) rest
  | release (thread : T) (mutex : M) (below : List M) (rest : List (Instr M E))
      (first : state.todo thread = .release mutex :: rest) (top : state.locks.held thread = mutex :: below) :
      Turn state (.advance thread) thread below rest
  | effect (thread : T) (action : E) (rest : List (Instr M E))
      (first : state.todo thread = .effect action :: rest) :
      Turn state (.advance thread) thread (state.locks.held thread)
        ((threads.perform action state.data).1 ++ rest)

theorem step_turn (state next : State T M E S) (label : Label T A)
    (stepped : step threads state label = some next) :
    ∃ thread held todo, Turn threads state label thread held todo ∧
      next.locks.held = Function.update state.locks.held thread held ∧
        next.todo = Function.update state.todo thread todo := by
  cases label with
  | start activity =>
    simp only [step] at stepped
    split at stepped
    next idle =>
      cases stepped
      exact ⟨_,_,_,.start activity idle,(Function.update_eq_self _ _).symm,rfl⟩
    next => cases stepped
  | advance thread =>
    simp only [step] at stepped
    split at stepped
    next => cases stepped
    next mutex rest first =>
      split at stepped
      next free =>
        cases stepped
        exact ⟨_,_,_,.acquire thread mutex rest first free,rfl,rfl⟩
      next => cases stepped
    next mutex rest first =>
      split at stepped
      next last below top =>
        split at stepped
        next same =>
          cases stepped
          exact ⟨_,_,_,.release thread mutex below rest first (same ▸ top),rfl,rfl⟩
        next => cases stepped
      next => cases stepped
    next action rest first =>
      cases stepped
      exact ⟨_,_,_,.effect thread action rest first,(Function.update_eq_self _ _).symm,rfl⟩

/-- The rule for what a thread holds and has left to do: its own turns decide. -/
theorem step_thread (state next : State T M E S) (label : Label T A)
    (stepped : step threads state label = some next) (thread : T)
    (stands : List M → List (Instr M E) → Prop)
    (turns : ∀ held todo, Turn threads state label thread held todo → stands held todo)
    (before : stands (state.locks.held thread) (state.todo thread)) :
    stands (next.locks.held thread) (next.todo thread) := by
  obtain ⟨other,held,todo,turn,holds,left⟩ := step_turn threads state next label stepped
  rw [holds,left]
  by_cases same : thread = other
  · subst same
    rw [Function.update_self,Function.update_self]
    exact turns held todo turn
  · rw [Function.update_of_ne same,Function.update_of_ne same]
    exact before

/-- A thread does not get out of a scope while what it acquires there is held. -/
theorem step_nests (state next : State T M E S) (label : Label T A)
    (stepped : step threads state label = some next) (thread : T) (outer inner : M)
    (nests : state.Nests thread outer inner) (taken : state.locks.holder inner ≠ none)
    (quiet : ∀ action rest, state.todo thread = .effect action :: rest →
      .release outer ∉ (threads.perform action state.data).1) :
    next.Nests thread outer inner := by
  apply step_thread threads state next label stepped thread (Instr.Nests outer inner)
  · intro held todo turn
    obtain ⟨owned,before,after,program,kept⟩ := nests
    cases turn with
    | start activity idle =>
      rw [idle] at program
      simp at program
    | acquire _ mutex rest first free =>
      rw [first] at program
      rcases List.cons_eq_append_iff.mp program with ⟨_,head⟩ | ⟨remaining,rfl,rest_split⟩
      · cases head
        exact absurd free taken
      · refine ⟨List.mem_cons_of_mem _ owned,remaining,after,rest_split,?_⟩
        exact fun member => kept (List.mem_cons_of_mem _ member)
    | release _ mutex below rest first top =>
      rw [first] at program
      rcases List.cons_eq_append_iff.mp program with ⟨_,head⟩ | ⟨remaining,rfl,rest_split⟩
      · cases head
      · refine ⟨?_,remaining,after,rest_split,fun member => kept (List.mem_cons_of_mem _ member)⟩
        rw [top] at owned
        rcases List.mem_cons.mp owned with rfl | inside
        · exact absurd List.mem_cons_self kept
        · exact inside
    | effect _ action rest first =>
      have silent := quiet action rest first
      rw [first] at program
      rcases List.cons_eq_append_iff.mp program with ⟨_,head⟩ | ⟨remaining,rfl,rest_split⟩
      · cases head
      · refine ⟨owned,(threads.perform action state.data).1 ++ remaining,after,?_,?_⟩
        · rw [rest_split,List.append_assoc]
        · intro member
          rcases List.mem_append.mp member with added | left
          · exact silent added
          · exact kept (List.mem_cons_of_mem _ left)
  · exact nests

section Discipline
variable (allowed : T → List M → M → Prop) (permits : T → List M → E → Prop)

/-- Every thread acquires and acts only as it is allowed to. -/
def Disciplined (state : State T M E S) : Prop :=
  ∀ thread, Instr.Follows (allowed thread) (permits thread) (state.locks.held thread) (state.todo thread)

variable {allowed permits}

omit [DecidableEq T] [DecidableEq M] in
theorem waits_allowed (state : State T M E S) (disciplined : Disciplined allowed permits state)
    (thread : T) (mutex : M) (waiting : state.waits thread = some mutex) :
    allowed thread (state.locks.held thread) mutex := by
  have follows := disciplined thread
  unfold State.waits at waiting
  split at waiting
  next next_mutex rest todo =>
    cases waiting
    rw [todo] at follows
    exact follows.1
  next => cases waiting

theorem step_disciplined
    (scripts : ∀ activity data, Instr.Balanced (allowed (threads.thread activity))
      (permits (threads.thread activity)) [] (threads.script activity data))
    (effects : ∀ thread held action data, permits thread held action →
      Instr.Balanced (allowed thread) (permits thread) held (threads.perform action data).1)
    (state next : State T M E S) (label : Label T A) (stepped : step threads state label = some next)
    (disciplined : Disciplined allowed permits state) : Disciplined allowed permits next := by
  intro thread
  have follows := disciplined thread
  apply step_thread threads state next label stepped thread
    (Instr.Follows (allowed thread) (permits thread)) _ follows
  intro held todo turn
  cases turn with
  | start activity idle =>
    rw [idle] at follows
    have begun := scripts activity state.data [] rfl
    rw [List.append_nil] at begun
    rw [follows]
    exact begun
  | acquire _ mutex rest first free =>
    rw [first] at follows
    exact follows.2
  | release _ mutex below rest first top =>
    rw [first,top] at follows
    obtain ⟨other,held,remaining⟩ := follows
    rw [(List.cons.inj held).2]
    exact remaining
  | effect _ action rest first =>
    rw [first] at follows
    exact effects thread _ action state.data follows.1 rest follows.2

end Discipline

section Settling
variable (allowed : T → List M → M → Prop) (permits : T → List M → E → Prop) (weight : E → Nat)

/-- Every thread that has something left to do waits for a mutex that is held. -/
def State.Settled (state : State T M E S) : Prop :=
  ∀ thread, state.todo thread ≠ [] → ∃ mutex, state.waits thread = some mutex ∧ state.locks.holder mutex ≠ none

variable {allowed permits}

theorem advances_or_waits (state : State T M E S) (disciplined : Disciplined allowed permits state) (thread : T)
    (busy : state.todo thread ≠ []) :
    (∃ next, step threads state (.advance thread) = some next) ∨
      ∃ mutex, state.waits thread = some mutex ∧ state.locks.holder mutex ≠ none := by
  have follows := disciplined thread
  cases program : state.todo thread with
  | nil => exact absurd program busy
  | cons instruction rest =>
    rw [program] at follows
    cases instruction with
    | acquire mutex =>
      by_cases free : state.locks.holder mutex = none
      · left
        simp only [step,program,dif_pos free]
        exact ⟨_,rfl⟩
      · right
        exact ⟨mutex,by simp only [State.waits,program],free⟩
    | release mutex =>
      left
      obtain ⟨below,top,_⟩ := follows
      simp only [step,program]
      split
      next last others held =>
        rw [top] at held
        cases held
        exact ⟨_,dif_pos rfl⟩
      next held =>
        rw [top] at held
        cases held
    | effect action =>
      left
      simp only [step,program]
      exact ⟨_,rfl⟩

theorem advance_work (bounded : ∀ action data, Instr.work weight (threads.perform action data).1 ≤ weight action)
    (state next : State T M E S) (thread : T) (stepped : step threads state (.advance thread) = some next) :
    Instr.work weight (next.todo thread) < Instr.work weight (state.todo thread) ∧
      ∀ other, other ≠ thread → next.todo other = state.todo other := by
  obtain ⟨_,held,todo,turn,_,left⟩ := step_turn threads state next _ stepped
  rw [left]
  cases turn with
  | acquire _ mutex rest first free =>
    rw [Function.update_self,first]
    refine ⟨?_,fun other different => Function.update_of_ne different _ _⟩
    simp only [Instr.work]
    omega
  | release _ mutex below rest first top =>
    rw [Function.update_self,first]
    refine ⟨?_,fun other different => Function.update_of_ne different _ _⟩
    simp only [Instr.work]
    omega
  | effect _ action rest first =>
    rw [Function.update_self,first]
    refine ⟨?_,fun other different => Function.update_of_ne different _ _⟩
    have added := bounded action state.data
    simp only [Instr.work,Instr.work_append]
    omega

/-- All but finitely many threads are idle. -/
def State.Few (state : State T M E S) : Prop :=
  ∃ busy : List T, ∀ thread, thread ∉ busy → state.todo thread = []

theorem step_few (state next : State T M E S) (label : Label T A) (stepped : step threads state label = some next)
    (few : state.Few) : next.Few := by
  obtain ⟨busy,idle⟩ := few
  obtain ⟨turning,_,_,_,_,left⟩ := step_turn threads state next label stepped
  refine ⟨turning :: busy,?_⟩
  intro thread outside
  obtain ⟨different,unlisted⟩ := not_or.mp (outside ∘ List.mem_cons.mpr)
  rw [left,Function.update_of_ne different]
  exact idle thread unlisted

/-- What the given threads have left to do. -/
def State.total (state : State T M E S) (busy : List T) : Nat :=
  (busy.map (fun thread => Instr.work weight (state.todo thread))).sum

theorem advance_total (bounded : ∀ action data, Instr.work weight (threads.perform action data).1 ≤ weight action)
    (state next : State T M E S) (thread : T) (stepped : step threads state (.advance thread) = some next)
    (busy : List T) (listed : thread ∈ busy) : next.total weight busy < state.total weight busy := by
  obtain ⟨less,others⟩ := advance_work threads weight bounded state next thread stepped
  apply List.sum_lt_sum
  · intro other _
    by_cases same : other = thread
    · rw [same]
      exact Nat.le_of_lt less
    · rw [others other same]
  · exact ⟨thread,listed,less⟩

/-- Threads that have a turn take one until none has: each turn leaves less to do. -/
theorem settles (bounded : ∀ action data, Instr.work weight (threads.perform action data).1 ≤ weight action)
    (kept : ∀ state next label, step threads state label = some next →
      Disciplined allowed permits state → Disciplined allowed permits next)
    (state : State T M E S) (few : state.Few) (disciplined : Disciplined allowed permits state) :
    ∃ labels final, Execution.exec (step threads) state labels = some final ∧
      Disciplined allowed permits final ∧ final.Settled := by
  obtain ⟨busy,idle⟩ := few
  induction left : state.total weight busy using Nat.strong_induction_on generalizing state with
  | _ total ih =>
    by_cases settled : state.Settled
    · exact ⟨[],state,rfl,disciplined,settled⟩
    · unfold State.Settled at settled
      push Not at settled
      obtain ⟨thread,unfinished,unheld⟩ := settled
      rcases advances_or_waits threads state disciplined thread unfinished with ⟨next,stepped⟩ | waiting
      · have listed : thread ∈ busy := by
          by_contra outside
          exact unfinished (idle thread outside)
        have smaller := advance_total threads weight bounded state next thread stepped busy listed
        rw [left] at smaller
        have others := (advance_work threads weight bounded state next thread stepped).2
        have still_idle (other : T) (outside : other ∉ busy) : next.todo other = [] := by
          rw [others other (fun same => outside (same ▸ listed))]
          exact idle other outside
        obtain ⟨labels,final,ran,reached⟩ := ih _ smaller next (kept state next _ stepped disciplined) still_idle rfl
        exact ⟨_,final,(Execution.exec_cons _ _ _ _ _).mpr ⟨next,stepped,ran⟩,reached⟩
      · obtain ⟨mutex,waits,held⟩ := waiting
        exact absurd (unheld mutex waits) held

omit [DecidableEq T] [DecidableEq M] in
/-- A thread that holds a mutex has something left to do, so nobody waits for an idle one. -/
theorem deadlocked_of_settled (apart : ∀ thread held mutex, allowed thread held mutex → mutex ∉ held)
    (state : State T M E S) (disciplined : Disciplined allowed permits state) (settled : state.Settled)
    (thread : T) (unfinished : state.todo thread ≠ []) : state.Deadlocked := by
  refine ⟨fun other => state.todo other ≠ [],⟨thread,unfinished⟩,?_⟩
  intro waiter busy
  obtain ⟨mutex,waiting,taken⟩ := settled waiter busy
  obtain ⟨other,holder⟩ := Option.ne_none_iff_exists'.mp taken
  have owned := (state.locks.owned mutex other).mp holder
  refine ⟨mutex,other,waiting,?_,?_,holder⟩
  · intro finished
    have follows := disciplined other
    rw [finished] at follows
    rw [show state.locks.held other = [] from follows] at owned
    cases owned
  · intro same
    rw [same] at owned
    exact apart waiter _ mutex (waits_allowed state disciplined waiter mutex waiting) owned

end Settling
end Threads
end Foundation
