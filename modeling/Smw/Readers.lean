import Smw.Foundation.Execution
import Smw.Foundation.Backlog

/-! The two readers between the queue of the transport and the data callback. Each takes one
sample for a notification; the reader of DDS queues it once more for its own thread. -/
namespace Smw.Readers
open Foundation.Execution Foundation.Backlog
variable {V : Type}

/-- A data callback is empty, or the one with the given number. -/
abbrev DataCallback := Option Nat

/-- What the transport keeps for a reader, with the sample that the handler in progress has
taken. A notification is owed once a sample has arrived. -/
structure Inbox (V : Type) where
  arrived : List V := []
  queue : List V := []
  taken : Option V := none
  owed : Bool := false

namespace Inbox

def arrive (inbox : Inbox V) (sample : V) : Inbox V :=
  {inbox with
    arrived := inbox.arrived ++ [sample]
    queue := inbox.queue ++ [sample]
    owed := true}

/-- The take of a notification. It fails on an empty queue, and then nothing is handled. -/
def take (inbox : Inbox V) : Inbox V :=
  match inbox.queue with
  | sample :: rest => {inbox with queue := rest,taken := some sample,owed := false}
  | [] => {inbox with owed := false}

end Inbox

inductive Label (V : Type)
  | arrive (sample : V)
  | notify
  | handle
  | execute
deriving DecidableEq

structure UserCallbackWrapper (V : Type) where
  sample : V
  callback : DataCallback

def UserCallbackWrapper.call (wrapper : UserCallbackWrapper V) : List (Nat × V) :=
  match wrapper.callback with
  | some callback => [(callback,wrapper.sample)]
  | none => []

structure FastDDSReader (V : Type) where
  inbox : Inbox V := {}
  userCallback : DataCallback := none
  userCallbackExecutionQueue : List (UserCallbackWrapper V) := []
  handed : List (Nat × V) := []

structure IceoryxReader (V : Type) where
  inbox : Inbox V := {}
  userCallback : DataCallback := none
  handed : List (Nat × V) := []

/-- The listener takes and queues under its mutex; the executor calls and then pops. -/
def FastDDSReader.step (reader : FastDDSReader V) : Label V → Option (FastDDSReader V)
  | .arrive sample => some {reader with inbox := reader.inbox.arrive sample}
  | .notify =>
    match reader.inbox.taken with
    | none => some {reader with inbox := reader.inbox.take}
    | some _ => none
  | .handle =>
    reader.inbox.taken.map (fun sample =>
      let wrapper := UserCallbackWrapper.mk sample reader.userCallback
      {reader with
        inbox := {reader.inbox with taken := none}
        userCallbackExecutionQueue := reader.userCallbackExecutionQueue ++ [wrapper]})
  | .execute =>
    match reader.userCallbackExecutionQueue with
    | wrapper :: rest =>
      some {reader with
        userCallbackExecutionQueue := rest
        handed := reader.handed ++ wrapper.call}
    | [] => none

/-- The listener thread takes and calls. An empty callback throws, which ends the process. -/
def IceoryxReader.step (reader : IceoryxReader V) : Label V → Option (IceoryxReader V)
  | .arrive sample => some {reader with inbox := reader.inbox.arrive sample}
  | .notify =>
    match reader.inbox.taken with
    | none => some {reader with inbox := reader.inbox.take}
    | some _ => none
  | .handle =>
    reader.inbox.taken.bind (fun sample =>
      reader.userCallback.map (fun callback =>
        {reader with
          inbox := {reader.inbox with taken := none}
          handed := reader.handed ++ [(callback,sample)]}))
  | .execute => none

def Inbox.Quiet (inbox : Inbox V) : Prop := inbox.owed = false ∧ inbox.taken = none

def Label.arrives : Label V → Bool
  | .arrive _ => true
  | _ => false

def Label.notifies : Label V → Bool
  | .notify => true
  | _ => false

/-- No notification stands for several arrivals: from any point of the run on, there are at
least as many notifications as arrivals. -/
def NotifiedEach (labels : List (Label V)) : Prop :=
  ∀ after, after <:+ labels → after.countP Label.arrives ≤ after.countP Label.notifies

section Inboxes

structure Inbox.Accounts (inbox : Inbox V) (handled : List V) (labels : List (Label V)) : Prop where
  arrived : inbox.arrived = handled ++ (inbox.taken.toList ++ inbox.queue)
  waiting : inbox.queue.length = backlog Label.arrives Label.notifies labels

theorem accounts_initial : Inbox.Accounts ({} : Inbox V) [] [] := ⟨rfl,rfl⟩

theorem Inbox.Accounts.arrive {inbox : Inbox V} {handled : List V} {labels : List (Label V)}
    (held : inbox.Accounts handled labels) (sample : V) :
    (inbox.arrive sample).Accounts handled (labels ++ [.arrive sample]) := by
  refine ⟨?_,?_⟩
  · simp [Inbox.arrive,held.arrived]
  · rw [backlog_snoc,← held.waiting]
    simp [Inbox.arrive,wait,Label.arrives]

theorem Inbox.Accounts.take {inbox : Inbox V} {handled : List V} {labels : List (Label V)}
    (held : inbox.Accounts handled labels) (free : inbox.taken = none) :
    inbox.take.Accounts handled (labels ++ [.notify]) := by
  unfold Inbox.take
  have arrived := held.arrived
  have waiting := held.waiting
  rw [free] at arrived
  cases queued : inbox.queue with
  | nil =>
    rw [queued] at arrived waiting
    refine ⟨?_,?_⟩
    · simpa [free,queued] using arrived
    · rw [backlog_snoc,← waiting]
      simp [wait,Label.arrives,Label.notifies]
  | cons sample rest =>
    rw [queued] at arrived waiting
    refine ⟨?_,?_⟩
    · simpa using arrived
    · rw [backlog_snoc,← waiting]
      simp [wait,Label.arrives,Label.notifies]

theorem Inbox.Accounts.handle {inbox : Inbox V} {handled : List V} {labels : List (Label V)}
    (held : inbox.Accounts handled labels) (sample : V) (taken : inbox.taken = some sample) :
    Inbox.Accounts {inbox with taken := none} (handled ++ [sample]) (labels ++ [.handle]) := by
  refine ⟨?_,?_⟩
  · rw [held.arrived,taken]
    simp
  · rw [backlog_snoc,← held.waiting]
    simp [wait,Label.arrives,Label.notifies]

theorem Inbox.Accounts.execute {inbox : Inbox V} {handled : List V} {labels : List (Label V)}
    (held : inbox.Accounts handled labels) : inbox.Accounts handled (labels ++ [.execute]) := by
  refine ⟨held.arrived,?_⟩
  rw [backlog_snoc,← held.waiting]
  simp [wait,Label.arrives,Label.notifies]

/-- In a quiet state everything was handled exactly if every arrival had its notification. -/
theorem Inbox.Accounts.complete_iff {inbox : Inbox V} {handled : List V} {labels : List (Label V)}
    (held : inbox.Accounts handled labels) (quiet : inbox.Quiet) :
    handled = inbox.arrived ↔ NotifiedEach labels := by
  have apart (label : Label V) (arriving : label.arrives = true) : label.notifies = false := by
    cases label <;> first | rfl | cases arriving
  have emptied := backlog_eq_zero_iff Label.arrives Label.notifies apart labels
  rw [held.arrived,quiet.2,NotifiedEach,← emptied,← held.waiting]
  simp

end Inboxes

section Runs
variable (callback : Nat)

structure FastDDSReader.Accounts (labels : List (Label V)) (reader : FastDDSReader V) : Prop where
  set : reader.userCallback = some callback
  wrapped : ∀ wrapper ∈ reader.userCallbackExecutionQueue, wrapper.callback = some callback
  handled : ∃ executed : List V, reader.handed = executed.map (fun sample => (callback,sample)) ∧
    reader.inbox.Accounts
      (executed ++ reader.userCallbackExecutionQueue.map UserCallbackWrapper.sample) labels

theorem fastdds_step_accounts (past : List (Label V)) (reader next : FastDDSReader V) (label : Label V)
    (stepped : reader.step label = some next) (held : reader.Accounts callback past) :
    next.Accounts callback (past ++ [label]) := by
  obtain ⟨set,wrapped,executed,handed,accounts⟩ := held
  cases label with
  | arrive sample =>
    cases stepped
    exact ⟨set,wrapped,executed,handed,accounts.arrive sample⟩
  | notify =>
    simp only [FastDDSReader.step] at stepped
    split at stepped
    next free =>
      cases stepped
      exact ⟨set,wrapped,executed,handed,accounts.take free⟩
    next => cases stepped
  | handle =>
    obtain ⟨sample,taken,rfl⟩ := Option.map_eq_some_iff.mp stepped
    refine ⟨set,?_,executed,handed,?_⟩
    · intro wrapper member
      rcases List.mem_append.mp member with before | added
      · exact wrapped wrapper before
      · rw [List.mem_singleton.mp added]
        exact set
    · have accounts := accounts.handle sample taken
      simpa using accounts
  | execute =>
    simp only [FastDDSReader.step] at stepped
    split at stepped
    next wrapper rest queued =>
      cases stepped
      rw [queued] at wrapped accounts
      refine ⟨set,fun other member => wrapped other (List.mem_cons_of_mem _ member),
        executed ++ [wrapper.sample],?_,?_⟩
      · simp [handed,UserCallbackWrapper.call,wrapped wrapper (List.mem_cons_self)]
      · simpa using accounts.execute
    next => cases stepped

structure IceoryxReader.Accounts (labels : List (Label V)) (reader : IceoryxReader V) : Prop where
  set : reader.userCallback = some callback
  handled : ∃ executed : List V, reader.handed = executed.map (fun sample => (callback,sample)) ∧
    reader.inbox.Accounts executed labels

theorem iceoryx_step_accounts (past : List (Label V)) (reader next : IceoryxReader V) (label : Label V)
    (stepped : reader.step label = some next) (held : reader.Accounts callback past) :
    next.Accounts callback (past ++ [label]) := by
  obtain ⟨set,executed,handed,accounts⟩ := held
  cases label with
  | arrive sample =>
    cases stepped
    exact ⟨set,executed,handed,accounts.arrive sample⟩
  | notify =>
    simp only [IceoryxReader.step] at stepped
    split at stepped
    next free =>
      cases stepped
      exact ⟨set,executed,handed,accounts.take free⟩
    next => cases stepped
  | handle =>
    obtain ⟨sample,taken,called⟩ := Option.bind_eq_some_iff.mp stepped
    obtain ⟨used,found,rfl⟩ := Option.map_eq_some_iff.mp called
    rw [set] at found
    cases found
    exact ⟨set,executed ++ [sample],by simp [handed],accounts.handle sample taken⟩
  | execute => cases stepped

/-- With a callback set, in every state in which no notification is to come and all handlers
have run, the reader has handed over exactly what arrived if and only if no notification
stood for several arrivals; so for either reader. -/
theorem handed_all_iff (callback : Nat) (labels : List (Label V)) :
    (∀ final, exec FastDDSReader.step {userCallback := some callback} labels = some final →
      final.inbox.Quiet → final.userCallbackExecutionQueue = [] →
      (final.handed = final.inbox.arrived.map (fun sample => (callback,sample)) ↔
        NotifiedEach labels)) ∧
    (∀ final, exec IceoryxReader.step {userCallback := some callback} labels = some final →
      final.inbox.Quiet →
      (final.handed = final.inbox.arrived.map (fun sample => (callback,sample)) ↔
        NotifiedEach labels)) := by
  have tagged (first second : V) (same : (callback,first) = (callback,second)) : first = second :=
    (Prod.mk.inj same).2
  refine ⟨?_,?_⟩
  · intro final ran quiet drained
    obtain ⟨_,_,executed,handed,accounts⟩ := exec_history FastDDSReader.step
      (fun labels reader => reader.Accounts callback labels) {userCallback := some callback}
      ⟨rfl,nofun,[],rfl,accounts_initial⟩
      (fun past reader label next stepped held =>
        fastdds_step_accounts callback past reader next label stepped held) labels final ran
    rw [drained,List.map_nil,List.append_nil] at accounts
    rw [handed,List.map_inj_right tagged]
    exact accounts.complete_iff quiet
  · intro final ran quiet
    obtain ⟨_,executed,handed,accounts⟩ := exec_history IceoryxReader.step
      (fun labels reader => reader.Accounts callback labels) {userCallback := some callback}
      ⟨rfl,[],rfl,accounts_initial⟩
      (fun past reader label next stepped held =>
        iceoryx_step_accounts callback past reader next label stepped held) labels final ran
    rw [handed,List.map_inj_right tagged]
    exact accounts.complete_iff quiet

/-- Two samples arrive and one notification follows: the second one stays in the queue of
the transport, in either reader. -/
theorem second_sample_left :
    (¬ ∀ final, exec FastDDSReader.step {userCallback := some 0}
        [.arrive 1,.arrive 2,.notify,.handle,.execute] = some final →
      final.inbox.Quiet → final.userCallbackExecutionQueue = [] →
      final.handed = final.inbox.arrived.map (fun sample : UInt32 => (0,sample))) ∧
    ¬ ∀ final, exec IceoryxReader.step {userCallback := some 0}
        [.arrive 1,.arrive 2,.notify,.handle] = some final →
      final.inbox.Quiet →
      final.handed = final.inbox.arrived.map (fun sample : UInt32 => (0,sample)) := by
  refine ⟨?_,?_⟩
  · intro all
    have complete := all _ rfl ⟨rfl,rfl⟩ rfl
    revert complete
    decide
  · intro all
    have complete := all _ rfl ⟨rfl,rfl⟩
    revert complete
    decide

end Runs
end Smw.Readers
