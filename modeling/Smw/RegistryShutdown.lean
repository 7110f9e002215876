import Smw.StopMessages
import Smw.DiscoveryAgreement
import Smw.Foundation.Fairness
import Mathlib.Data.Prod.Lex

/-! The destructor of the registry against its own threads: it sets `m_exit` and joins the
write thread, which reads `m_exit` once a cycle, while requests may still be under way. -/
namespace Smw.RegistryShutdown
open Foundation Foundation.Execution PendingMessages RequestThreads StopMessages
open ServiceDiscoveryOperation

/-- The loop of the write thread: before its test of `m_exit`, in its body, or left. -/
inductive LoopPc
  | testing
  | cycling
  | finished
deriving DecidableEq

structure ShutdownState (T : Type) where
  threads : LocalState T := {}
  loop : LoopPc := .testing
  exit : Bool := false
  joined : Bool := false
  sent : List ServiceDiscovery := []

inductive Label (T : Type)
  | request (label : RequestThreads.Label T)
  | test
  | cycle
  | exit
  | join

/-- A step of the process `own`; `sent` is what its write thread wrote, and a cycle that
returns to `beforeAlways` has reached the end of the loop's body. -/
def step {T : Type} [DecidableEq T] (own : ServiceEntityInfo) (state : ShutdownState T) :
    Label T → Option (ShutdownState T)
  | .request .cycle => none
  | .request label =>
    (RequestThreads.step own state.threads label).map (fun done => {state with threads := done.1})
  | .test =>
    if state.loop = .testing then
      some {state with loop := if state.exit then .finished else .cycling}
    else none
  | .cycle =>
    if state.loop = .cycling then
      let done := cycleStep state.threads
      some {state with
        threads := done.1
        loop := if done.1.cycle = .beforeAlways then .testing else .cycling
        sent := state.sent ++ done.2}
    else none
  | .exit => if state.exit then none else some {state with exit := true}
  | .join =>
    if state.exit = true ∧ state.joined = false ∧ state.loop = .finished then
      some {state with joined := true}
    else none

inductive Effect {T : Type} [DecidableEq T] (own : ServiceEntityInfo) (state : ShutdownState T) :
    Label T → ShutdownState T → Prop
  | request (label threads written) (others : label ≠ .cycle)
      (move : Move own state.threads label threads written) :
      Effect own state (.request label) {state with threads := threads}
  | test (at_test : state.loop = .testing) :
      Effect own state .test {state with loop := if state.exit then .finished else .cycling}
  | cycle (threads written) (in_body : state.loop = .cycling)
      (cycled : cycleStep state.threads = (threads,written)) :
      Effect own state .cycle
        {state with
          threads := threads
          loop := if threads.cycle = .beforeAlways then .testing else .cycling
          sent := state.sent ++ written}
  | exit (running : state.exit = false) : Effect own state .exit {state with exit := true}
  | join (exiting : state.exit = true) (waiting : state.joined = false) (left : state.loop = .finished) :
      Effect own state .join {state with joined := true}

section Steps
variable {T : Type} [DecidableEq T] {own : ServiceEntityInfo} {state next : ShutdownState T}

theorem step_effect (label : Label T) (stepped : step own state label = some next) :
    Effect own state label next := by
  unfold step at stepped
  split at stepped
  next => cases stepped
  next label others =>
    obtain ⟨done,moved,same⟩ := Option.map_eq_some_iff.mp stepped
    cases same
    exact .request label done.1 done.2 others (step_move own _ _ label _ moved)
  next =>
    split at stepped
    next at_test =>
      cases stepped
      exact .test at_test
    next => cases stepped
  next =>
    split at stepped
    next in_body =>
      cases stepped
      exact .cycle _ _ in_body rfl
    next => cases stepped
  next =>
    split at stepped
    next => cases stepped
    next running =>
      cases stepped
      exact .exit (by simpa using running)
  next =>
    split at stepped
    next may =>
      cases stepped
      exact .join may.1 may.2.1 may.2.2
    next => cases stepped

theorem exit_stays (label : Label T) (effect : Effect own state label next) (exiting : state.exit = true) :
    next.exit = true := by
  cases effect with
  | request => exact exiting
  | test => exact exiting
  | cycle => exact exiting
  | exit => rfl
  | join => exact exiting

end Steps

/-- Every message in a map is about the service that it is filed under. -/
structure Keyed (pending : Pending) : Prop where
  always : ∀ service message, pending.messageNeedSendAlways.find service = some message →
    message.serviceDesc = service
  someTimes : ∀ service counted, pending.messageNeedSendSomeTimes.find service = some counted →
    counted.discoveryMessage.serviceDesc = service

section Keys
variable {T : Type} [DecidableEq T] {own : ServiceEntityInfo}

theorem move_keyed {state next : LocalState T} {label : RequestThreads.Label T}
    {written : List ServiceDiscovery} (move : Move own state label next written)
    (keyed : Keyed state.pending) : Keyed next.pending := by
  cases move with
  | write => exact keyed
  | first thread operation service =>
    obtain ⟨always,someTimes⟩ :=
      DiscoveryAgreement.firstRegion_filed _ _ keyed.always keyed.someTimes operation service
    exact ⟨always,someTimes⟩
  | second thread operation service =>
    obtain ⟨always,someTimes⟩ :=
      DiscoveryAgreement.secondRegion_filed _ _ keyed.always keyed.someTimes own operation service
        (discoveryMessage_serviceDesc own operation service)
    exact ⟨always,someTimes⟩
  | lockAlways => exact keyed
  | sendAlways => exact keyed
  | unlockAlways => exact keyed
  | lockSomeTimes => exact keyed
  | resend visited todo =>
    refine ⟨keyed.always,?_⟩
    intro service counted found
    obtain ⟨earlier,before,same⟩ := DiscoveryAgreement.resend_find _ visited service counted found
    rw [same]
    exact keyed.someTimes service earlier before
  | unlockSomeTimes => exact keyed

theorem effect_keyed {state next : ShutdownState T} (label : Label T) (effect : Effect own state label next)
    (keyed : Keyed state.threads.pending) : Keyed next.threads.pending := by
  cases effect with
  | request label threads written others move => exact move_keyed move keyed
  | test => exact keyed
  | cycle threads written in_body cycled =>
    have move := cycleStep_move own state.threads
    rw [cycled] at move
    exact move_keyed move keyed
  | exit => exact keyed
  | join => exact keyed

end Keys

/-- The most that a thread in its last cycle still writes about a service. -/
def budget (service : ServiceDescription) : CyclePc → Nat
  | .beforeAlways => 2
  | .sendingAlways todo => (about service todo).length + 1
  | .beforeSomeTimes => 1
  | .sendingSomeTimes todo => todo.count service

def lastBudget {T : Type} (service : ServiceDescription) (state : ShutdownState T) : Nat :=
  if state.loop = .cycling then budget service state.threads.cycle else 0

section Budget
variable {T : Type} {own : ServiceEntityInfo} (service : ServiceDescription)

theorem always_budget (pending : Pending) (keyed : Keyed pending) :
    (about service (sendAlwaysMessage pending.messageNeedSendAlways)).length ≤ 1 := by
  have filed := about_filed service pending.messageNeedSendAlways id keyed.always
  simp only [id_eq] at filed
  rw [sendAlwaysMessage,filed]
  cases pending.messageNeedSendAlways.find service <;> simp

theorem resend_budget (pending : Pending) (keyed : Keyed pending) (visited : ServiceDescription)
    (todo : List ServiceDescription) :
    (about service (PendingMessages.resend pending.messageNeedSendSomeTimes visited).1).length +
      todo.count service ≤ (visited :: todo).count service := by
  rw [resend_eq,List.count_cons]
  cases found : pending.messageNeedSendSomeTimes.find visited with
  | none => simp [about]
  | some counted =>
    have filed := keyed.someTimes visited counted found
    by_cases same : visited = service
    · simp [about,filed,same,Nat.add_comm]
    · simp [about,filed,same]

/-- A step of the cycle pays for what it writes. -/
theorem cycle_pays (state : LocalState T) (keyed : Keyed state.pending) :
    (about service (cycleStep state).2).length +
      (if (cycleStep state).1.cycle = .beforeAlways then 0 else budget service (cycleStep state).1.cycle) ≤
        budget service state.cycle := by
  unfold cycleStep
  split
  next at_lock =>
    have few := always_budget service state.pending keyed
    rw [at_lock]
    simp only [budget,about,List.filter_nil,List.length_nil] at few ⊢
    simp only [reduceCtorEq,if_false]
    omega
  next message todo at_send =>
    rw [at_send]
    simp only [budget,reduceCtorEq,if_false]
    have split := congrArg List.length (about_append service [message] todo)
    rw [List.length_append,List.singleton_append] at split
    omega
  next at_end =>
    rw [at_end]
    simp [budget,about]
  next at_lock =>
    have few := List.nodup_iff_count_le_one.mp state.pending.messageNeedSendSomeTimes.keys_nodup service
    rw [at_lock]
    simp only [budget,about,List.filter_nil,List.length_nil,reduceCtorEq,if_false]
    omega
  next visited todo at_send =>
    rw [at_send]
    simp only [budget,reduceCtorEq,if_false]
    exact resend_budget service state.pending keyed visited todo
  next at_end =>
    rw [at_end]
    simp [budget,about]

theorem cycle_bounded (state : LocalState T) (keyed : Keyed state.pending)
    (bounded : budget service state.cycle ≤ 2) : budget service (cycleStep state).1.cycle ≤ 2 := by
  have pays := cycle_pays service state keyed
  by_cases back : (cycleStep state).1.cycle = .beforeAlways
  · rw [back]
    exact le_refl _
  · rw [if_neg back] at pays
    omega

variable [DecidableEq T]

/-- Once `m_exit` is set, every step pays for what the write thread sends in it. -/
theorem effect_pays {state next : ShutdownState T} (label : Label T) (effect : Effect own state label next)
    (exiting : state.exit = true) (keyed : Keyed state.threads.pending) :
    ∃ written, next.sent = state.sent ++ written ∧
      (about service written).length + lastBudget service next ≤ lastBudget service state := by
  cases effect with
  | request label threads written others move =>
    refine ⟨[],(List.append_nil _).symm,?_⟩
    have same := move_cycle own _ threads label written move others
    simp [about,lastBudget,same]
  | test at_test =>
    refine ⟨[],(List.append_nil _).symm,?_⟩
    simp [about,lastBudget,exiting]
  | cycle threads written in_body cycled =>
    refine ⟨written,rfl,?_⟩
    have pays := cycle_pays service state.threads keyed
    rw [cycled] at pays
    simp only [lastBudget,in_body,if_true]
    by_cases back : threads.cycle = .beforeAlways
    · simpa [back] using pays
    · simpa [back] using pays
  | exit running =>
    rw [exiting] at running
    cases running
  | join exiting waiting left => exact ⟨[],(List.append_nil _).symm,by simp [about,lastBudget,left]⟩

theorem run_pays (labels : List (Label T)) (state final : ShutdownState T)
    (exiting : state.exit = true) (keyed : Keyed state.threads.pending)
    (ran : exec (step own) state labels = some final) :
    ∃ written, final.sent = state.sent ++ written ∧
      (about service written).length + lastBudget service final ≤ lastBudget service state := by
  induction labels generalizing state with
  | nil =>
    cases ran
    exact ⟨[],(List.append_nil _).symm,by simp [about]⟩
  | cons label rest ih =>
    obtain ⟨next,stepped,remaining⟩ := (exec_cons _ _ _ _ _).mp ran
    have effect := step_effect label stepped
    obtain ⟨first,sent,pays⟩ := effect_pays service label effect exiting keyed
    obtain ⟨later,also_sent,also_pays⟩ :=
      ih next (exit_stays label effect exiting) (effect_keyed label effect keyed) remaining
    refine ⟨first ++ later,by rw [also_sent,sent,List.append_assoc],?_⟩
    rw [about_append,List.length_append]
    omega

end Budget

/-- What holds in every state of the process, whoever steps. -/
structure InTurn {T : Type} (state : ShutdownState T) : Prop where
  keyed : Keyed state.threads.pending
  bounded : ∀ service, budget service state.threads.cycle ≤ 2
  returned : state.joined = true → state.exit = true ∧ state.loop = .finished

section Runs
variable {T : Type} {own : ServiceEntityInfo}

theorem initial_keyed : Keyed {} where
  always _ _ found := by cases found
  someTimes _ _ found := by cases found

theorem initial_inTurn : InTurn ({} : ShutdownState T) where
  keyed := initial_keyed
  bounded _ := le_refl _
  returned joined := by cases joined

variable [DecidableEq T]

theorem effect_inTurn {state next : ShutdownState T} (label : Label T) (effect : Effect own state label next)
    (held : InTurn state) : InTurn next := by
  refine ⟨effect_keyed label effect held.keyed,?_,?_⟩
  · intro service
    cases effect with
    | request label threads written others move =>
      rw [move_cycle own _ threads label written move others]
      exact held.bounded service
    | test => exact held.bounded service
    | cycle threads written in_body cycled =>
      have bounded := cycle_bounded service state.threads held.keyed (held.bounded service)
      rw [cycled] at bounded
      exact bounded
    | exit => exact held.bounded service
    | join => exact held.bounded service
  · intro joined
    cases effect with
    | request => exact held.returned joined
    | test at_test =>
      have left := (held.returned joined).2
      rw [at_test] at left
      cases left
    | cycle threads written in_body cycled =>
      have left := (held.returned joined).2
      rw [in_body] at left
      cases left
    | exit => exact ⟨rfl,(held.returned joined).2⟩
    | join exiting waiting left => exact ⟨exiting,left⟩

theorem reachable_inTurn (labels : List (Label T)) (state : ShutdownState T)
    (ran : exec (step own) {} labels = some state) : InTurn state :=
  exec_invariant (step own) InTurn
    (fun _ label _ stepped held => effect_inTurn label (step_effect label stepped) held)
    labels {} state ran initial_inTurn

/-- Out of its body and with `m_exit` set, the thread sends nothing more. -/
theorem run_silent (labels : List (Label T)) (state final : ShutdownState T) (exiting : state.exit = true)
    (outside : state.loop ≠ .cycling) (ran : exec (step own) state labels = some final) :
    final.sent = state.sent := by
  have kept := exec_invariant (step own)
    (fun now => now.exit = true ∧ now.loop ≠ .cycling ∧ now.sent = state.sent) ?_
    labels state final ran ⟨exiting,outside,rfl⟩
  · exact kept.2.2
  · intro now label next stepped held
    obtain ⟨exits,apart,same⟩ := held
    have effect := step_effect label stepped
    refine ⟨exit_stays label effect exits,?_⟩
    cases effect with
    | request => exact ⟨apart,same⟩
    | test => exact ⟨by simp [exits],same⟩
    | cycle threads written in_body => exact absurd in_body apart
    | exit => exact ⟨apart,same⟩
    | join => exact ⟨apart,same⟩

/-- From the moment `m_exit` is set the write thread writes at most two more messages
about any service, whatever is requested meanwhile, and nothing where it is not in the
body of its loop, as when the destructor has returned. -/
theorem last_messages (past after : List (Label T)) (state final : ShutdownState T)
    (reached : exec (step own) {} past = some state) (exiting : state.exit = true)
    (ran : exec (step own) state after = some final) :
    ∃ written, final.sent = state.sent ++ written ∧
      (∀ service, (about service written).length ≤ 2) ∧
      (state.loop ≠ .cycling ∨ state.joined = true → written = []) := by
  have held := reachable_inTurn past state reached
  have accounts (service : ServiceDescription) := run_pays service after state final exiting held.keyed ran
  obtain ⟨written,sent,_⟩ := accounts ⟨0,0⟩
  refine ⟨written,sent,?_,?_⟩
  · intro service
    obtain ⟨same,also_sent,pays⟩ := accounts service
    have alike : written = same := List.append_cancel_left (sent.symm.trans also_sent)
    have most : lastBudget service state ≤ 2 := by
      unfold lastBudget
      split
      next => exact held.bounded service
      next => omega
    rw [alike]
    omega
  · intro outside
    have apart : state.loop ≠ .cycling := by
      rcases outside with apart | joined
      · exact apart
      · rw [(held.returned joined).2]
        decide
    have silent := run_silent after state final exiting apart ran
    rw [sent] at silent
    exact List.append_right_eq_self.mp silent

end Runs

def exitInCycle : List (Label Unit) :=
  [.request (.write () .offer ⟨10,1⟩),.request (.first ()),.request (.second ()),.test,.exit]

/-- The offer is stopped between the two halves of the last cycle. -/
def stopAndJoin : List (Label Unit) :=
  [.cycle,.cycle,.cycle,.request (.write () .stopOffer ⟨10,1⟩),.request (.first ()),.request (.second ()),
    .cycle,.cycle,.cycle,.test,.join]

theorem two_last_messages : ∃ state final, exec (step ⟨"10.0.0.1/","100"⟩) {} exitInCycle = some state ∧
    exec (step ⟨"10.0.0.1/","100"⟩) state stopAndJoin = some final ∧
    (about ⟨10,1⟩ final.sent).length = 2 ∧
    ∃ written, final.sent = state.sent ++ written ∧ ∀ service, (about service written).length ≤ 2 := by
  obtain ⟨state,reached,exiting,final,ran,twice⟩ : ∃ state,
      exec (step ⟨"10.0.0.1/","100"⟩) {} exitInCycle = some state ∧ state.exit = true ∧ ∃ final,
        exec (step ⟨"10.0.0.1/","100"⟩) state stopAndJoin = some final ∧
        (about ⟨10,1⟩ final.sent).length = 2 := ⟨_,rfl,rfl,_,rfl,rfl⟩
  obtain ⟨written,sent,few,_⟩ := last_messages exitInCycle stopAndJoin state final reached exiting ran
  exact ⟨state,final,reached,ran,twice,written,sent,few⟩

section Termination
variable {T : Type}

/-- Steps of the write thread itself. -/
def OfThread : Label T → Prop
  | .test => True
  | .cycle => True
  | _ => False

/-- How far the thread is from the end of its loop; the maps may grow until it takes
their messages, so the number of steps left has no bound before that. -/
def distance (state : ShutdownState T) : Nat ×ₗ Nat :=
  match state.loop,state.threads.cycle with
  | .finished,_ => toLex (0,0)
  | .testing,_ => toLex (1,0)
  | .cycling,.sendingSomeTimes todo => toLex (2,todo.length)
  | .cycling,.beforeSomeTimes => toLex (3,0)
  | .cycling,.sendingAlways todo => toLex (4,todo.length)
  | .cycling,.beforeAlways => toLex (5,0)

theorem cycle_nearer (state : ShutdownState T) (in_body : state.loop = .cycling) :
    distance {state with
      threads := (cycleStep state.threads).1
      loop := if (cycleStep state.threads).1.cycle = .beforeAlways then .testing else .cycling
      sent := state.sent ++ (cycleStep state.threads).2} < distance state := by
  have here : distance state = distance {state with loop := .cycling} := by rw [← in_body]
  rw [here]
  unfold cycleStep
  split
  next at_lock => simp [distance,at_lock,Prod.Lex.toLex_lt_toLex]
  next message todo at_send => simp [distance,at_send,Prod.Lex.toLex_lt_toLex]
  next at_end => simp [distance,at_end,Prod.Lex.toLex_lt_toLex]
  next at_lock => simp [distance,at_lock,Prod.Lex.toLex_lt_toLex]
  next visited todo at_send => simp [distance,at_send,Prod.Lex.toLex_lt_toLex]
  next at_end => simp [distance,at_end,Prod.Lex.toLex_lt_toLex]

variable [DecidableEq T] {own : ServiceEntityInfo}

theorem thread_enabled (state : ShutdownState T) (inside : state.loop ≠ .finished) :
    ∃ label, OfThread label ∧ (step own state label).isSome = true := by
  cases place : state.loop with
  | testing => exact ⟨.test,trivial,by simp [step,place]⟩
  | cycling => exact ⟨.cycle,trivial,by simp [step,place]⟩
  | finished => exact absurd place inside

/-- The thread's own steps bring it nearer to the end, and no other step takes it back. -/
theorem effect_nearer {state next : ShutdownState T} (label : Label T) (effect : Effect own state label next)
    (exiting : state.exit = true) :
    next.loop = .finished ∨ distance next < distance state ∨
      (distance next = distance state ∧ ¬ OfThread label) := by
  cases effect with
  | request label threads written others move =>
    have same := move_cycle own _ threads label written move others
    exact .inr (.inr ⟨by simp [distance,same],id⟩)
  | test at_test => exact .inl (by simp [exiting])
  | cycle threads written in_body cycled =>
    have nearer := cycle_nearer state in_body
    rw [cycled] at nearer
    exact .inr (.inl nearer)
  | exit running =>
    rw [exiting] at running
    cases running
  | join => exact .inr (.inr ⟨rfl,id⟩)

theorem finished_stays {state next : ShutdownState T} (label : Label T) (effect : Effect own state label next)
    (left : state.loop = .finished) : next.loop = .finished := by
  cases effect with
  | request => exact left
  | test at_test =>
    rw [left] at at_test
    cases at_test
  | cycle threads written in_body =>
    rw [left] at in_body
    cases in_body
  | exit => exact left
  | join => exact left

theorem exit_persists (run : Run (step (T := T) own)) (start : Nat) (exiting : (run.state start).exit = true) :
    ∀ time ≥ start, (run.state time).exit = true :=
  run.invariant (fun _ => True) (fun state => state.exit = true)
    (fun _ label _ _ stepped held => exit_stays label (step_effect label stepped) held) start
    (fun _ _ _ _ => trivial) exiting

theorem thread_finishes (run : Run (step (T := T) own)) (thread_fair : run.Fair OfThread) (start : Nat)
    (exiting : (run.state start).exit = true) : ∃ time ≥ start, (run.state time).loop = .finished := by
  refine run.eventually_of_rank (fun state => state.exit = true) (fun state => state.loop = .finished)
    OfThread distance ?_ ?_ ?_ thread_fair start (exit_persists run start exiting)
  · intro state _ inside
    exact thread_enabled state inside
  · intro state label next stepped exits inside
    rcases effect_nearer label (step_effect label stepped) exits with left | nearer | same
    · exact absurd left inside
    · exact nearer.le
    · exact same.1.le
  · intro state label next stepped exits own_step inside
    rcases effect_nearer label (step_effect label stepped) exits with left | nearer | same
    · exact absurd left inside
    · exact nearer
    · exact absurd own_step same.2

/-- The destructor returns in every run that lets the write thread go on and, when that
has left its loop, the destructor too: no request can hold either of them up. -/
theorem destructor_returns (own : ServiceEntityInfo) (run : Run (step (T := T) own))
    (thread_fair : run.Fair OfThread) (join_fair : run.Fair (fun label => label = .join)) (start : Nat)
    (exiting : (run.state start).exit = true) : ∃ time ≥ start, (run.state time).joined = true := by
  obtain ⟨left,later,finished⟩ := thread_finishes run thread_fair start exiting
  have exits := exit_persists run start exiting
  have stays := run.invariant (fun _ => True) (fun state => state.loop = .finished)
    (fun _ label _ _ stepped held => finished_stays label (step_effect label stepped) held) left
    (fun _ _ _ _ => trivial) finished
  have ends := run.eventually_of_rank (fun state => state.exit = true ∧ state.loop = .finished)
    (fun state => state.joined = true) (fun label => label = .join) (fun _ => 0) ?_ ?_ ?_ join_fair left
    (fun time after => ⟨exits time (by omega),stays time after⟩)
  · obtain ⟨time,afterwards,joined⟩ := ends
    exact ⟨time,by omega,joined⟩
  · intro state held waiting
    refine ⟨.join,rfl,?_⟩
    simp [step,held.1,held.2,waiting]
  · intro state label next _ _ _
    exact le_refl _
  · intro state label next stepped _ joins waiting
    subst joins
    cases step_effect .join stepped with
    | join => exact absurd rfl waiting

end Termination

theorem stopped_and_joined : ∃ run : Run (step (T := Unit) ⟨"10.0.0.1/","100"⟩),
    run.state 0 = {} ∧ run.label 4 = some .exit ∧ ∃ time ≥ 5, (run.state time).joined = true := by
  obtain ⟨final,ran,finished,joined⟩ : ∃ final,
      exec (step ⟨"10.0.0.1/","100"⟩) {} (exitInCycle ++ stopAndJoin) = some final ∧
        final.loop = .finished ∧ final.joined = true := ⟨_,rfl,rfl,rfl⟩
  let run := (Run.idle final).precede {} (exitInCycle ++ stopAndJoin) ran
  have begins := (Run.idle final).precede_before {} (exitInCycle ++ stopAndJoin) ran 0 (by decide)
  have asks := (Run.idle final).precede_before {} (exitInCycle ++ stopAndJoin) ran 4 (by decide)
  have exiting := (Run.idle final).precede_before {} (exitInCycle ++ stopAndJoin) ran 5 (by decide)
  have asked : (run.state 5).exit = true := by
    rw [exiting.1]
    rfl
  refine ⟨run,begins.1,asks.2,?_⟩
  refine destructor_returns ⟨"10.0.0.1/","100"⟩ run ?_ ?_ 5 asked
  · refine Run.precede_idle_fair {} final _ ran OfThread ?_
    intro label of_thread
    cases label with
    | test => simp [step,finished]
    | cycle => simp [step,finished]
    | request => cases of_thread
    | exit => cases of_thread
    | join => cases of_thread
  · refine Run.precede_idle_fair {} final _ ran (fun label => label = .join) ?_
    intro label joins
    subst joins
    simp [step,joined]

end Smw.RegistryShutdown
