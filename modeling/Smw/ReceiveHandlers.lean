import Smw.Subscriber

/-! The receive handler of a subscriber. The threads of both readers call it and any thread may
register another one, all of them under the mutex of the handler. -/
namespace Smw.ReceiveHandlers
open Foundation Foundation.Execution
open Subscriber (Reader)

/-- Where the thread of a reader stands in onDataAvailable. -/
inductive Delivery (H V : Type)
  | idle
  | waiting (sample : V)
  | calling (handler : H) (sample : V)
deriving DecidableEq

/-- What happens under the mutex. -/
inductive Event (H V : Type)
  | register (callback : Option H)
  | call (reader : Reader) (handler : H) (sample : V)
  | finish (reader : Reader)
  | drop (reader : Reader) (sample : V)
deriving DecidableEq

/-- A call of registerReceiveHandler: before its assignment, or after it and the unlock. -/
inductive Registration (H : Type)
  | waiting (callback : Option H)
  | assigned
deriving DecidableEq

structure HandlerState (R H V : Type) where
  userDataCallback : Option H := none
  /-- The reader whose thread holds the mutex, while it runs the handler. -/
  mutex : Option Reader := none
  delivery : Reader → Delivery H V := fun _ => .idle
  registration : R → Option (Registration H) := fun _ => none
  history : List (Event H V) := []

inductive Label (R H V : Type)
  | deliver (reader : Reader) (sample : V)
  | enter (reader : Reader)
  | finish (reader : Reader)
  | request (thread : R) (callback : Option H)
  | register (thread : R)
  | returned (thread : R)
deriving DecidableEq

section Step
variable {R H V : Type} [DecidableEq R]

/-- A step of a reader or of a registering thread, none where it is elsewhere or blocked. -/
def step (state : HandlerState R H V) : Label R H V → Option (HandlerState R H V)
  | .deliver reader sample =>
    match state.delivery reader with
    | .idle => some {state with delivery := Function.update state.delivery reader (.waiting sample)}
    | _ => none
  | .enter reader =>
    match state.delivery reader,state.mutex with
    | .waiting sample,none =>
      match state.userDataCallback with
      | some handler => some {state with
          mutex := some reader
          delivery := Function.update state.delivery reader (.calling handler sample)
          history := state.history ++ [.call reader handler sample]}
      | none => some {state with
          delivery := Function.update state.delivery reader .idle
          history := state.history ++ [.drop reader sample]}
    | _,_ => none
  | .finish reader =>
    match state.delivery reader with
    | .calling _ _ => some {state with
        mutex := none
        delivery := Function.update state.delivery reader .idle
        history := state.history ++ [.finish reader]}
    | _ => none
  | .request thread callback =>
    match state.registration thread with
    | none => some {state with
        registration := Function.update state.registration thread (some (.waiting callback))}
    | some _ => none
  | .register thread =>
    match state.registration thread,state.mutex with
    | some (.waiting callback),none => some {state with
        userDataCallback := callback
        registration := Function.update state.registration thread (some .assigned)
        history := state.history ++ [.register callback]}
    | _,_ => none
  | .returned thread =>
    match state.registration thread with
    | some .assigned =>
      some {state with registration := Function.update state.registration thread none}
    | _ => none

end Step

section Property
variable {R H V : Type} [DecidableEq H]

/-- The handler as if there were one thread: a call is over before anything else begins. -/
structure Served (H : Type) where
  handler : Option H := none
  busy : Option Reader := none
deriving DecidableEq

def serve : Option (Served H) → Event H V → Option (Served H)
  | some ⟨_,none⟩,.register callback => some ⟨callback,none⟩
  | some ⟨some handler,none⟩,.call reader used _ =>
    if used = handler then some ⟨some handler,some reader⟩ else none
  | some ⟨none,none⟩,.drop _ _ => some ⟨none,none⟩
  | some ⟨handler,some busy⟩,.finish reader => if reader = busy then some ⟨handler,none⟩ else none
  | _,_ => none

def serveAll (served : Served H) (history : List (Event H V)) : Option (Served H) :=
  history.foldl serve (some served)

def delivered (reader : Reader) : Label R H V → Option V
  | .deliver author sample => if author = reader then some sample else none
  | _ => none

/-- The sample that an event takes from the reader, for the handler or for nobody. -/
def taken (reader : Reader) : Event H V → Option V
  | .call author _ sample => if author = reader then some sample else none
  | .drop author sample => if author = reader then some sample else none
  | _ => none

def Delivery.pending : Delivery H V → List V
  | .waiting sample => [sample]
  | _ => []

structure Sequential (labels : List (Label R H V)) (state : HandlerState R H V) : Prop where
  history : serveAll {} state.history = some ⟨state.userDataCallback,state.mutex⟩
  held : ∀ reader handler sample, state.delivery reader = .calling handler sample → state.mutex = some reader
  /-- Every sample is taken once, in the order of its reader. -/
  samples : ∀ reader, labels.filterMap (delivered reader) =
    state.history.filterMap (taken reader) ++ (state.delivery reader).pending

end Property

section History
variable {H V : Type} [DecidableEq H]

theorem serveAll_snoc (served : Served H) (history : List (Event H V)) (event : Event H V) :
    serveAll served (history ++ [event]) = serve (serveAll served history) event := by
  simp [serveAll]

theorem serveAll_append (served : Served H) (first second : List (Event H V)) :
    serveAll served (first ++ second) = (serveAll served first).bind (fun middle => serveAll middle second) := by
  induction second using List.reverseRecOn with
  | nil => simp [serveAll]
  | append_singleton second event ih =>
    rw [← List.append_assoc,serveAll_snoc,ih]
    cases serveAll served first with
    | none => cases event <;> rfl
    | some middle => simp [serveAll_snoc]

/-- A handler that is called was there before, or one of these events has registered it. -/
theorem serveAll_calls (handler : Option H) (busy : Option Reader) (history : List (Event H V))
    (served : Served H) (ran : serveAll ⟨handler,busy⟩ history = some served) :
    (served.handler = handler ∨ .register served.handler ∈ history) ∧
    ∀ reader used sample, .call reader used sample ∈ history →
      handler = some used ∨ .register (some used) ∈ history := by
  induction history using List.reverseRecOn generalizing served with
  | nil =>
    cases ran
    exact ⟨.inl rfl,by simp⟩
  | append_singleton history event ih =>
    rw [serveAll_snoc] at ran
    cases before : serveAll ⟨handler,busy⟩ history with
    | none =>
      rw [before] at ran
      cases event <;> cases ran
    | some middle =>
      obtain ⟨current,calls⟩ := ih middle before
      rw [before] at ran
      have earlier (reader : Reader) (used : H) (sample : V) (member : .call reader used sample ∈ history) :
          handler = some used ∨ .register (some used) ∈ history ++ [event] :=
        (calls reader used sample member).imp id (List.mem_append_left [event])
      obtain ⟨holder,mutex⟩ := middle
      cases event with
      | register callback =>
        cases mutex with
        | some busy => cases ran
        | none =>
          cases ran
          refine ⟨.inr (by simp),?_⟩
          intro reader used sample member
          exact earlier reader used sample (by simpa using member)
      | call reader used sample =>
        cases holder with
        | none => cases mutex <;> cases ran
        | some holder =>
          cases mutex with
          | some busy => cases ran
          | none =>
            simp only [serve] at ran
            split at ran
            next equal =>
              subst equal
              cases ran
              have known : handler = some used ∨
                  .register (some used) ∈ history ++ [.call reader used sample] :=
                current.imp Eq.symm (List.mem_append_left _)
              refine ⟨known.imp Eq.symm id,?_⟩
              intro other named value member
              rcases List.mem_append.mp member with before | last
              · exact earlier other named value before
              · cases List.mem_singleton.mp last
                exact known
            next => cases ran
      | finish reader =>
        cases mutex with
        | none => cases holder <;> cases ran
        | some busy =>
          simp only [serve] at ran
          split at ran
          next =>
            cases ran
            refine ⟨current.imp id (List.mem_append_left _),?_⟩
            intro other named value member
            exact earlier other named value (by simpa using member)
          next => cases ran
      | drop reader sample =>
        cases holder with
        | some holder => cases mutex <;> cases ran
        | none =>
          cases mutex with
          | some busy => cases ran
          | none =>
            cases ran
            refine ⟨current.imp id (List.mem_append_left _),?_⟩
            intro other named value member
            exact earlier other named value (by simpa using member)

end History

section Preservation
variable {R H V : Type} [DecidableEq H]

/-- The samples stay in balance where they do for the reader that a step is about. -/
theorem samples_balance (past : List (Label R H V)) (state next : HandlerState R H V) (label : Label R H V)
    (held : Sequential past state) (events : List (Event H V)) (history : next.history = state.history ++ events)
    (author : Reader) (elsewhere : ∀ other, other ≠ author → next.delivery other = state.delivery other ∧
      delivered other label = none ∧ events.filterMap (taken other) = [])
    (balance : (state.delivery author).pending ++ (delivered author label).toList =
      events.filterMap (taken author) ++ (next.delivery author).pending) (reader : Reader) :
    (past ++ [label]).filterMap (delivered reader) =
      next.history.filterMap (taken reader) ++ (next.delivery reader).pending := by
  have before := held.samples reader
  rw [List.filterMap_append,before,history,List.filterMap_append,List.append_assoc,List.append_assoc]
  congr 1
  have last : [label].filterMap (delivered reader) = (delivered reader label).toList := by
    cases said : delivered reader label with
    | none => simp [said]
    | some sample => simp [said]
  rw [last]
  by_cases here : reader = author
  · rw [here]
    exact balance
  · obtain ⟨same,silent,nothing⟩ := elsewhere reader here
    simp [same,silent,nothing]

theorem held_of_update (past : List (Label R H V)) (state : HandlerState R H V) (held : Sequential past state)
    (reader : Reader) (delivery : Delivery H V) (idle : ∀ handler sample, delivery ≠ .calling handler sample)
    (other : Reader) (handler : H) (sample : V)
    (calling : Function.update state.delivery reader delivery other = .calling handler sample) :
    state.mutex = some other ∧ other ≠ reader := by
  simp only [Function.update_apply] at calling
  split at calling
  next => exact absurd calling (idle handler sample)
  next apart => exact ⟨held.held other handler sample calling,apart⟩

variable [DecidableEq R]

theorem sequential_step (past : List (Label R H V)) (state : HandlerState R H V) (label : Label R H V)
    (next : HandlerState R H V) (stepped : step state label = some next) (held : Sequential past state) :
    Sequential (past ++ [label]) next := by
  have history := held.history
  cases label with
  | deliver reader sample =>
    simp only [step] at stepped
    split at stepped
    next idle =>
      cases stepped
      refine ⟨history,?_,samples_balance past state _ _ held [] (by simp) reader ?_ ?_⟩
      · intro other handler value calling
        exact (held_of_update past state held reader _ (by simp) other handler value calling).1
      · intro other apart
        simp [apart,Ne.symm apart,delivered]
      · simp [idle,delivered,Delivery.pending]
    next => cases stepped
  | enter reader =>
    simp only [step] at stepped
    split at stepped
    next sample waiting free =>
      rw [free] at history
      split at stepped
      next handler registered =>
        cases stepped
        rw [registered] at history
        refine ⟨?_,?_,samples_balance past state _ _ held [.call reader handler sample] rfl reader ?_ ?_⟩
        · simp [serveAll_snoc,history,serve,registered]
        · intro other used value calling
          simp only [Function.update_apply] at calling
          split at calling
          next same => rw [same]
          next =>
            have busy := held.held other used value calling
            rw [free] at busy
            cases busy
        · intro other apart
          simp [apart,Ne.symm apart,delivered,taken]
        · simp [waiting,delivered,taken,Delivery.pending]
      next absent =>
        cases stepped
        rw [absent] at history
        refine ⟨?_,?_,samples_balance past state _ _ held [.drop reader sample] rfl reader ?_ ?_⟩
        · simp [serveAll_snoc,history,serve,absent,free]
        · intro other used value calling
          exact (held_of_update past state held reader _ (by simp) other used value calling).1
        · intro other apart
          simp [apart,Ne.symm apart,delivered,taken]
        · simp [waiting,delivered,taken,Delivery.pending]
    next => cases stepped
  | finish reader =>
    simp only [step] at stepped
    split at stepped
    next handler sample calling =>
      cases stepped
      have busy := held.held reader handler sample calling
      rw [busy] at history
      refine ⟨?_,?_,samples_balance past state _ _ held [.finish reader] rfl reader ?_ ?_⟩
      · simp [serveAll_snoc,history,serve]
      · intro other used value again
        obtain ⟨also,apart⟩ := held_of_update past state held reader _ (by simp) other used value again
        rw [busy] at also
        exact absurd (Option.some.inj also).symm apart
      · intro other apart
        simp [apart,delivered,taken,List.filterMap_cons]
      · simp [calling,delivered,taken,Delivery.pending,List.filterMap_cons]
    next => cases stepped
  | request thread callback =>
    simp only [step] at stepped
    split at stepped
    next =>
      cases stepped
      exact ⟨history,held.held,samples_balance past state _ _ held [] (by simp) .iox
        (by simp [delivered]) (by simp [delivered])⟩
    next => cases stepped
  | register thread =>
    simp only [step] at stepped
    split at stepped
    next callback asked free =>
      cases stepped
      rw [free] at history
      refine ⟨?_,held.held,samples_balance past state _ _ held [.register callback] rfl .iox
        (by simp [delivered,taken,List.filterMap_cons]) (by simp [delivered,taken,List.filterMap_cons])⟩
      simp [serveAll_snoc,history,serve,free]
    next => cases stepped
  | returned thread =>
    simp only [step] at stepped
    split at stepped
    next =>
      cases stepped
      exact ⟨history,held.held,samples_balance past state _ _ held [] (by simp) .iox
        (by simp [delivered]) (by simp [delivered])⟩
    next => cases stepped

theorem sequential_run (labels : List (Label R H V)) (state : HandlerState R H V)
    (ran : exec step {} labels = some state) : Sequential labels state := by
  refine exec_history step Sequential {} ⟨rfl,?_,fun reader => rfl⟩
    (fun past state label next stepped held => sequential_step past state label next stepped held) labels state ran
  intro reader handler sample calling
  cases calling

/-- Whatever the threads do, the handler is called as if there were one thread: by the mutex no
call overlaps another one or a registration, each uses the handler registered last, and the
samples of a reader are handed over or dropped once each, in their order. -/
theorem refines_sequential (labels : List (Label R H V)) (state : HandlerState R H V)
    (ran : exec step {} labels = some state) :
    serveAll {} state.history = some ⟨state.userDataCallback,state.mutex⟩ ∧
    (∀ reader handler sample, state.delivery reader = .calling handler sample → state.mutex = some reader) ∧
    ∀ reader, labels.filterMap (delivered reader) =
      state.history.filterMap (taken reader) ++ (state.delivery reader).pending := by
  have held := sequential_run labels state ran
  exact ⟨held.history,held.held,held.samples⟩

/-- Both readers deliver, and the second one waits until the first call is over. -/
theorem two_deliveries_sequential : ∃ state : HandlerState Unit Nat Nat,
    exec step {} [.request () (some 0),.register (),.deliver .iox 7,.deliver .dds 8,.enter .dds,.finish .dds,
      .enter .iox] = some state ∧ serveAll {} state.history = some ⟨some 0,some .iox⟩ ∧
    state.history = [.register (some 0),.call .dds 0 8,.finish .dds,.call .iox 0 7] := by
  refine ⟨_,rfl,?_,rfl⟩
  exact (refines_sequential [.request () (some 0),.register (),.deliver .iox 7,.deliver .dds 8,.enter .dds,
    .finish .dds,.enter .iox] _ rfl).1

omit [DecidableEq H] in
/-- What a step adds to the history: the beginning of each call that runs, unless it ran before,
and a registration only where one takes effect. -/
theorem history_step (state next : HandlerState R H V) (label : Label R H V)
    (stepped : step state label = some next) :
    ∃ events, next.history = state.history ++ events ∧
      (∀ reader handler sample, next.delivery reader = .calling handler sample →
        state.delivery reader = .calling handler sample ∨ .call reader handler sample ∈ events) ∧
      ∀ callback, .register callback ∈ events → ∃ thread, label = .register thread := by
  have other {author reader : Reader} {delivery : Delivery H V} {handler : H} {sample : V}
      (idle : ∀ handler sample, delivery ≠ .calling handler sample)
      (calling : Function.update state.delivery author delivery reader = .calling handler sample) :
      state.delivery reader = .calling handler sample := by
    simp only [Function.update_apply] at calling
    split at calling
    next => exact absurd calling (idle handler sample)
    next => exact calling
  cases label with
  | deliver reader sample =>
    simp only [step] at stepped
    split at stepped
    next =>
      cases stepped
      exact ⟨[],by simp,fun _ _ _ calling => .inl (other (by simp) calling),by simp⟩
    next => cases stepped
  | enter reader =>
    simp only [step] at stepped
    split at stepped
    next sample _ _ =>
      split at stepped
      next handler _ =>
        cases stepped
        refine ⟨_,rfl,?_,by simp⟩
        intro author used value calling
        simp only [Function.update_apply] at calling
        split at calling
        next same =>
          cases calling
          exact .inr (by simp [same])
        next => exact .inl calling
      next =>
        cases stepped
        exact ⟨_,rfl,fun _ _ _ calling => .inl (other (by simp) calling),by simp⟩
    next => cases stepped
  | finish reader =>
    simp only [step] at stepped
    split at stepped
    next =>
      cases stepped
      exact ⟨_,rfl,fun _ _ _ calling => .inl (other (by simp) calling),by simp⟩
    next => cases stepped
  | request thread callback | returned thread =>
    simp only [step] at stepped
    split at stepped
    all_goals cases stepped
    all_goals exact ⟨[],by simp,fun _ _ _ calling => .inl calling,by simp⟩
  | register thread =>
    simp only [step] at stepped
    split at stepped
    next =>
      cases stepped
      exact ⟨_,rfl,fun _ _ _ calling => .inl calling,fun _ _ => ⟨thread,rfl⟩⟩
    next => cases stepped

omit [DecidableEq H] in
theorem history_run (labels : List (Label R H V)) (state final : HandlerState R H V)
    (ran : exec step state labels = some final) :
    ∃ events, final.history = state.history ++ events ∧
      (∀ reader handler sample, final.delivery reader = .calling handler sample →
        state.delivery reader = .calling handler sample ∨ .call reader handler sample ∈ events) ∧
      ∀ callback, .register callback ∈ events → ∃ thread, .register thread ∈ labels := by
  refine exec_history step (fun past later => ∃ events, later.history = state.history ++ events ∧
      (∀ reader handler sample, later.delivery reader = .calling handler sample →
        state.delivery reader = .calling handler sample ∨ .call reader handler sample ∈ events) ∧
      ∀ callback, .register callback ∈ events → ∃ thread, .register thread ∈ past) state
    ⟨[],by simp⟩ ?_ labels final ran
  intro past middle label next stepped known
  obtain ⟨events,grown,running,registered⟩ := known
  obtain ⟨more,added,started,assigned⟩ := history_step middle next label stepped
  refine ⟨events ++ more,by rw [added,grown,List.append_assoc],?_,?_⟩
  · intro reader handler sample calling
    rcases started reader handler sample calling with before | new
    · exact (running reader handler sample before).imp id (List.mem_append_left more)
    · exact .inr (List.mem_append_right events new)
  · intro callback member
    rcases List.mem_append.mp member with earlier | later
    · obtain ⟨thread,listed⟩ := registered callback earlier
      exact ⟨thread,List.mem_append_left [label] listed⟩
    · obtain ⟨thread,last⟩ := assigned callback later
      exact ⟨thread,List.mem_append_right past (List.mem_singleton.mpr last.symm)⟩

omit [DecidableEq H] in
theorem assigned_step (state next : HandlerState R H V) (label : Label R H V) (thread : R)
    (stepped : step state label = some next) (elsewhere : label ≠ .register thread)
    (assigned : next.registration thread = some .assigned) :
    state.registration thread = some .assigned := by
  have unless_here {author : R} {registration : Option (Registration H)}
      (other : author = thread → registration ≠ some .assigned)
      (updated : Function.update state.registration author registration thread = some .assigned) :
      state.registration thread = some .assigned := by
    simp only [Function.update_apply] at updated
    split at updated
    next same => exact absurd updated (other same.symm)
    next => exact updated
  cases label with
  | enter reader =>
    simp only [step] at stepped
    split at stepped
    next =>
      split at stepped
      all_goals
        cases stepped
        exact assigned
    next => cases stepped
  | deliver reader sample | finish reader =>
    simp only [step] at stepped
    split at stepped
    all_goals cases stepped
    all_goals exact assigned
  | request author callback =>
    simp only [step] at stepped
    split at stepped
    next =>
      cases stepped
      exact unless_here (by simp) assigned
    next => cases stepped
  | register author =>
    simp only [step] at stepped
    split at stepped
    next =>
      cases stepped
      exact unless_here (fun same => absurd (congrArg Label.register same) elsewhere) assigned
    next => cases stepped
  | returned author =>
    simp only [step] at stepped
    split at stepped
    next =>
      cases stepped
      exact unless_here (by simp) assigned
    next => cases stepped

omit [DecidableEq H] in
/-- A call that has assigned did so at a step of its own. -/
theorem register_of_assigned (labels : List (Label R H V)) (state : HandlerState R H V) (thread : R)
    (ran : exec step {} labels = some state) (assigned : state.registration thread = some .assigned) :
    ∃ past between before after, labels = past ++ .register thread :: between ∧
      .register thread ∉ between ∧ exec step {} past = some before ∧
      step before (.register thread) = some after ∧ exec step after between = some state := by
  induction labels using List.reverseRecOn generalizing state with
  | nil =>
    cases ran
    cases assigned
  | append_singleton labels label ih =>
    obtain ⟨middle,earlier,stepped⟩ := (exec_snoc _ _ _ _ _).mp ran
    by_cases here : label = .register thread
    · subst here
      exact ⟨labels,[],middle,state,rfl,by simp,earlier,stepped,rfl⟩
    · have known := assigned_step middle state label thread stepped here assigned
      obtain ⟨past,between,before,after,rfl,silent,reached,registered,moved⟩ := ih middle earlier known
      refine ⟨past,between ++ [label],before,after,by simp,?_,reached,registered,?_⟩
      · simp [silent,Ne.symm here]
      · exact (exec_snoc _ _ _ _ _).mpr ⟨middle,moved,stepped⟩

/-- When a registration returns no earlier handler runs: the calls that run have begun since it
was assigned, and they and all later ones are of its handler or of one registered since. Until
somebody registers again they are of its handler, so none is made if that is empty. -/
theorem registration_final (labels after : List (Label R H V)) (state returned final : HandlerState R H V)
    (thread : R) (reached : exec step {} labels = some state)
    (left : step state (.returned thread) = some returned) (ran : exec step returned after = some final) :
    ∃ past between before callback, labels = past ++ .register thread :: between ∧
      .register thread ∉ between ∧ exec step {} past = some before ∧
      before.registration thread = some (.waiting callback) ∧
      ∃ during later, returned.history = before.history ++ .register callback :: during ∧
        final.history = returned.history ++ later ∧
        (∀ reader handler sample, returned.delivery reader = .calling handler sample →
          .call reader handler sample ∈ during) ∧
        (∀ reader handler sample, .call reader handler sample ∈ during ++ later →
          callback = some handler ∨ .register (some handler) ∈ during ++ later) ∧
        ((∀ other, .register other ∉ between ++ after) →
          ∀ reader handler sample, .call reader handler sample ∈ during ++ later → callback = some handler) := by
  have assigned : state.registration thread = some .assigned := by
    simp only [step] at left
    split at left
    next assigned => exact assigned
    next => cases left
  obtain ⟨past,between,before,stored,rfl,silent,earlier,registered,moved⟩ :=
    register_of_assigned labels state thread reached assigned
  obtain ⟨callback,waiting,free,same⟩ : ∃ callback,
      before.registration thread = some (.waiting callback) ∧ stored.mutex = none ∧
        stored.userDataCallback = callback ∧ stored.history = before.history ++ [.register callback] := by
    simp only [step] at registered
    split at registered
    next callback waiting free =>
      cases registered
      exact ⟨callback,waiting,free,rfl,rfl⟩
    next => cases registered
  have until_stored := (exec_snoc _ _ _ _ _).mpr ⟨before,earlier,registered⟩
  have until_returned := (exec_snoc step stored returned between (.returned thread)).mpr ⟨state,moved,left⟩
  have until_final := (exec_append step stored final _ after).mpr ⟨returned,until_returned,ran⟩
  have held := sequential_run _ _ until_stored
  have whole := sequential_run _ _ ((exec_append step {} final _ _).mpr ⟨stored,until_stored,until_final⟩)
  obtain ⟨during,grown,running,_⟩ := history_run _ stored returned until_returned
  obtain ⟨later,added,_,_⟩ := history_run after returned final ran
  obtain ⟨events,all,_,assigns⟩ := history_run _ stored final until_final
  have parts : events = during ++ later := by
    rw [added,grown,List.append_assoc] at all
    exact (List.append_cancel_left all).symm
  have served := whole.history
  rw [all,serveAll_append,held.history,Option.bind_some,same.1,parts] at served
  have calls := (serveAll_calls callback stored.mutex (during ++ later) _ served).2
  refine ⟨past,between,before,callback,rfl,silent,earlier,waiting,during,later,?_,added,?_,calls,?_⟩
  · rw [grown,same.2,List.append_assoc]
    rfl
  · intro reader handler sample calling
    refine (running reader handler sample calling).resolve_left ?_
    intro already
    have busy := held.held reader handler sample already
    rw [free] at busy
    cases busy
  · intro quiet reader handler sample member
    refine (calls reader handler sample member).resolve_right ?_
    intro again
    obtain ⟨other,listed⟩ := assigns (some handler) (parts ▸ again)
    apply quiet other
    simpa using listed

/-- A delivery that waits for the mutex runs the new handler when the registration returns. -/
theorem waiting_delivery_runs_new : ∃ state returned : HandlerState Unit Nat Nat,
    exec step {} [.deliver .dds 7,.request () (some 0),.register (),.enter .dds] = some state ∧
    step state (.returned ()) = some returned ∧ returned.delivery .dds = .calling 0 7 ∧
    ∃ earlier callback during, returned.history = earlier ++ .register callback :: during ∧
      .call .dds 0 7 ∈ during := by
  refine ⟨_,_,rfl,rfl,rfl,?_⟩
  obtain ⟨_,_,before,callback,_,_,_,_,during,_,grown,_,running,_⟩ := registration_final
    [.deliver .dds 7,.request () (some 0),.register (),.enter .dds] [] _ _ _ () rfl rfl rfl
  exact ⟨before.history,callback,during,grown,running .dds 0 7 rfl⟩

end Preservation
end Smw.ReceiveHandlers
