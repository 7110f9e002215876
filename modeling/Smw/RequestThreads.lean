import Smw.PendingMessages
import Smw.Foundation.Execution
import Mathlib.Logic.Function.Basic

/-! The requesting threads of a process and its write thread, step by step. A request
writes its message without a lock and then passes its two locked regions; the write
thread holds the mutex of a map for as long as it sends from it. -/
namespace Smw.RequestThreads
open Foundation PendingMessages ServiceDiscoveryOperation

inductive RequestPc
  | idle
  | written (operation : ServiceDiscoveryOperation) (service : ServiceDescription)
  | cleared (operation : ServiceDiscoveryOperation) (service : ServiceDescription)
deriving DecidableEq

/-- Where the write thread stands, with what its loop has still to send. -/
inductive CyclePc
  | beforeAlways
  | sendingAlways (todo : List ServiceDiscovery)
  | beforeSomeTimes
  | sendingSomeTimes (todo : List ServiceDescription)
deriving DecidableEq

inductive Mutex
  | messageNeedSendAlways
  | messageNeedSendSomeTimes
deriving DecidableEq

structure LocalState (T : Type) where
  pending : Pending := {}
  request : T → RequestPc := fun _ => .idle
  cycle : CyclePc := .beforeAlways

inductive Label (T : Type)
  | write (thread : T) (operation : ServiceDiscoveryOperation) (service : ServiceDescription)
  | first (thread : T)
  | second (thread : T)
  | cycle
deriving DecidableEq

/-- The write thread holds the mutex; a request holds it only inside one of its steps. -/
def CyclePc.holds : CyclePc → Mutex → Bool
  | .sendingAlways _,.messageNeedSendAlways => true
  | .sendingSomeTimes _,.messageNeedSendSomeTimes => true
  | _,_ => false

def firstMutex (operation : ServiceDiscoveryOperation) : Mutex :=
  if operation = .offer ∨ operation = .find then .messageNeedSendSomeTimes else .messageNeedSendAlways

def secondMutex (operation : ServiceDiscoveryOperation) : Mutex :=
  if operation = .offer ∨ operation = .find then .messageNeedSendAlways else .messageNeedSendSomeTimes

def cycleStep {T : Type} (state : LocalState T) : LocalState T × List ServiceDiscovery :=
  match state.cycle with
  | .beforeAlways =>
    ({state with cycle := .sendingAlways (sendAlwaysMessage state.pending.messageNeedSendAlways)},[])
  | .sendingAlways (message :: todo) => ({state with cycle := .sendingAlways todo},[message])
  | .sendingAlways [] => ({state with cycle := .beforeSomeTimes},[])
  | .beforeSomeTimes =>
    ({state with cycle := .sendingSomeTimes state.pending.messageNeedSendSomeTimes.keys},[])
  | .sendingSomeTimes (service :: todo) =>
    let visited := resend state.pending.messageNeedSendSomeTimes service
    ({state with
      pending := {state.pending with messageNeedSendSomeTimes := visited.2}
      cycle := .sendingSomeTimes todo},visited.1)
  | .sendingSomeTimes [] => ({state with cycle := .beforeAlways},[])

/-- A step of the process `own` and the messages it writes, none where it is not enabled. -/
def step {T : Type} [DecidableEq T] (own : ServiceEntityInfo) (state : LocalState T) :
    Label T → Option (LocalState T × List ServiceDiscovery)
  | .write thread operation service =>
    if state.request thread = .idle then
      some ({state with request := Function.update state.request thread (.written operation service)},
        [discoveryMessage own operation service])
    else none
  | .first thread =>
    match state.request thread with
    | .written operation service =>
      if state.cycle.holds (firstMutex operation) then none
      else some ({state with
        pending := firstRegion operation service state.pending
        request := Function.update state.request thread (.cleared operation service)},[])
    | _ => none
  | .second thread =>
    match state.request thread with
    | .cleared operation service =>
      if state.cycle.holds (secondMutex operation) then none
      else some ({state with
        pending := secondRegion own operation service state.pending
        request := Function.update state.request thread .idle},[])
    | _ => none
  | .cycle => some (cycleStep state)

inductive Move {T : Type} [DecidableEq T] (own : ServiceEntityInfo) (state : LocalState T) :
    Label T → LocalState T → List ServiceDiscovery → Prop
  | write (thread operation service) (idle : state.request thread = .idle) :
      Move own state (.write thread operation service)
        {state with request := Function.update state.request thread (.written operation service)}
        [discoveryMessage own operation service]
  | first (thread operation service) (at_first : state.request thread = .written operation service)
      (free : state.cycle.holds (firstMutex operation) = false) :
      Move own state (.first thread)
        {state with
          pending := firstRegion operation service state.pending
          request := Function.update state.request thread (.cleared operation service)} []
  | second (thread operation service) (at_second : state.request thread = .cleared operation service)
      (free : state.cycle.holds (secondMutex operation) = false) :
      Move own state (.second thread)
        {state with
          pending := secondRegion own operation service state.pending
          request := Function.update state.request thread .idle} []
  | lockAlways (at_lock : state.cycle = .beforeAlways) :
      Move own state .cycle
        {state with cycle := .sendingAlways (sendAlwaysMessage state.pending.messageNeedSendAlways)} []
  | sendAlways (message todo) (at_send : state.cycle = .sendingAlways (message :: todo)) :
      Move own state .cycle {state with cycle := .sendingAlways todo} [message]
  | unlockAlways (at_end : state.cycle = .sendingAlways []) :
      Move own state .cycle {state with cycle := .beforeSomeTimes} []
  | lockSomeTimes (at_lock : state.cycle = .beforeSomeTimes) :
      Move own state .cycle
        {state with cycle := .sendingSomeTimes state.pending.messageNeedSendSomeTimes.keys} []
  | resend (service todo) (at_send : state.cycle = .sendingSomeTimes (service :: todo)) :
      Move own state .cycle
        {state with
          pending := {state.pending with
            messageNeedSendSomeTimes := (resend state.pending.messageNeedSendSomeTimes service).2}
          cycle := .sendingSomeTimes todo}
        (PendingMessages.resend state.pending.messageNeedSendSomeTimes service).1
  | unlockSomeTimes (at_end : state.cycle = .sendingSomeTimes []) :
      Move own state .cycle {state with cycle := .beforeAlways} []

section Moves
variable {T : Type} [DecidableEq T] (own : ServiceEntityInfo)

theorem cycleStep_move (state : LocalState T) :
    Move own state .cycle (cycleStep state).1 (cycleStep state).2 := by
  unfold cycleStep
  split
  next at_lock => exact .lockAlways at_lock
  next message todo at_send => exact .sendAlways message todo at_send
  next at_end => exact .unlockAlways at_end
  next at_lock => exact .lockSomeTimes at_lock
  next service todo at_send => exact .resend service todo at_send
  next at_end => exact .unlockSomeTimes at_end

theorem step_move (state next : LocalState T) (label : Label T) (written : List ServiceDiscovery)
    (stepped : step own state label = some (next,written)) : Move own state label next written := by
  cases label with
  | write thread operation service =>
    simp only [step] at stepped
    split at stepped
    next idle =>
      cases stepped
      exact .write thread operation service idle
    next => cases stepped
  | first thread =>
    simp only [step] at stepped
    split at stepped
    next operation service at_first =>
      split at stepped
      next => cases stepped
      next free =>
        cases stepped
        exact .first thread operation service at_first (by simpa using free)
    next => cases stepped
  | second thread =>
    simp only [step] at stepped
    split at stepped
    next operation service at_second =>
      split at stepped
      next => cases stepped
      next free =>
        cases stepped
        exact .second thread operation service at_second (by simpa using free)
    next => cases stepped
  | cycle =>
    have same : cycleStep state = (next,written) := Option.some.inj stepped
    have move := cycleStep_move own state
    rw [same] at move
    exact move

/-- Only the write thread moves its place in the cycle. -/
theorem move_cycle (state next : LocalState T) (label : Label T) (written : List ServiceDiscovery)
    (move : Move own state label next written) (others : label ≠ .cycle) : next.cycle = state.cycle := by
  cases move with
  | write => rfl
  | first => rfl
  | second => rfl
  | lockAlways => exact absurd rfl others
  | sendAlways => exact absurd rfl others
  | unlockAlways => exact absurd rfl others
  | lockSomeTimes => exact absurd rfl others
  | resend => exact absurd rfl others
  | unlockSomeTimes => exact absurd rfl others

end Moves

section Uninterrupted
variable {T : Type} [DecidableEq T] (own : ServiceEntityInfo)

/-- A step together with the log of the messages written so far. -/
def logStep (logged : LocalState T × List ServiceDiscovery) (label : Label T) :
    Option (LocalState T × List ServiceDiscovery) :=
  (step own logged.1 label).map (fun done => (done.1,logged.2 ++ done.2))

/-- A request that runs while the write thread sleeps is `requestDiscoveryOperation`. -/
theorem request_uninterrupted (state : LocalState T) (log : List ServiceDiscovery) (thread : T)
    (operation : ServiceDiscoveryOperation) (service : ServiceDescription)
    (idle : state.request thread = .idle) (asleep : state.cycle = .beforeAlways) :
    Execution.exec (logStep own) (state,log)
        [.write thread operation service,.first thread,.second thread] =
      some ({state with pending := (requestDiscoveryOperation own operation service state.pending).2},
        log ++ (requestDiscoveryOperation own operation service state.pending).1) := by
  have restored : Function.update state.request thread RequestPc.idle = state.request := by
    rw [← idle,Function.update_eq_self]
  simp [Execution.exec,logStep,step,idle,asleep,CyclePc.holds,restored,requestDiscoveryOperation]

theorem sendingAlways_run (todo : List ServiceDiscovery) (state : LocalState T)
    (log : List ServiceDiscovery) (sending : state.cycle = .sendingAlways todo) :
    Execution.exec (logStep own) (state,log) (List.replicate (todo.length + 1) .cycle) =
      some ({state with cycle := .beforeSomeTimes},log ++ todo) := by
  induction todo generalizing state log with
  | nil => simp [Execution.exec,logStep,step,cycleStep,sending]
  | cons message todo ih =>
    rw [List.length_cons,List.replicate_succ,Execution.exec]
    have sent : logStep own (state,log) .cycle =
        some ({state with cycle := .sendingAlways todo},log ++ [message]) := by
      simp [logStep,step,cycleStep,sending]
    rw [sent,Option.bind_some,ih _ _ rfl]
    simp

theorem sendingSomeTimes_run (todo : List ServiceDescription) (state : LocalState T)
    (log : List ServiceDiscovery) (sending : state.cycle = .sendingSomeTimes todo) :
    Execution.exec (logStep own) (state,log) (List.replicate (todo.length + 1) .cycle) =
      some ({state with
        pending := {state.pending with
          messageNeedSendSomeTimes := (resendAll state.pending.messageNeedSendSomeTimes todo).2}
        cycle := .beforeAlways},
        log ++ (resendAll state.pending.messageNeedSendSomeTimes todo).1) := by
  induction todo generalizing state log with
  | nil => simp [Execution.exec,logStep,step,cycleStep,sending,resendAll]
  | cons service todo ih =>
    rw [List.length_cons,List.replicate_succ,Execution.exec]
    have sent : logStep own (state,log) .cycle =
        some ({state with
          pending := {state.pending with
            messageNeedSendSomeTimes := (resend state.pending.messageNeedSendSomeTimes service).2}
          cycle := .sendingSomeTimes todo},
          log ++ (resend state.pending.messageNeedSendSomeTimes service).1) := by
      simp [logStep,step,cycleStep,sending]
    rw [sent,Option.bind_some,ih _ _ rfl]
    simp [resendAll]

/-- A turn of the write thread that no request interrupts is `discoveryCycle`. -/
theorem cycle_uninterrupted (state : LocalState T) (log : List ServiceDiscovery)
    (asleep : state.cycle = .beforeAlways) :
    ∃ steps, Execution.exec (logStep own) (state,log) (List.replicate steps .cycle) =
      some ({state with pending := (discoveryCycle state.pending).2},
        log ++ (discoveryCycle state.pending).1) := by
  let always := sendAlwaysMessage state.pending.messageNeedSendAlways
  let services := state.pending.messageNeedSendSomeTimes.keys
  have locked : Execution.exec (logStep own) (state,log) (List.replicate 1 .cycle) =
      some ({state with cycle := .sendingAlways always},log) := by
    simp [Execution.exec,logStep,step,cycleStep,asleep,always]
  have sent := sendingAlways_run own always {state with cycle := .sendingAlways always} log rfl
  have relocked : Execution.exec (logStep own) ({state with cycle := .beforeSomeTimes},log ++ always)
      (List.replicate 1 .cycle) =
      some ({state with cycle := .sendingSomeTimes services},log ++ always) := by
    simp [Execution.exec,logStep,step,cycleStep,services]
  have resent := sendingSomeTimes_run own services {state with cycle := .sendingSomeTimes services}
    (log ++ always) rfl
  have first_half := (Execution.exec_append _ _ _ _ _).mpr ⟨_,locked,sent⟩
  have second_half := (Execution.exec_append _ _ _ _ _).mpr ⟨_,relocked,resent⟩
  have whole := (Execution.exec_append _ _ _ _ _).mpr ⟨_,first_half,second_half⟩
  simp only [List.replicate_append_replicate] at whole
  refine ⟨_,whole.trans ?_⟩
  simp [discoveryCycle,sendAndRemoveSomeTimeMessage,always,services,asleep]

end Uninterrupted
end Smw.RequestThreads
