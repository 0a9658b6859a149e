import SessionSync.Proofs.Pass.FlowTurns
import SessionSync.Simulation.World

/-!
# A run, flow by flow

What is done in a run is done for one flow after the other, and the flows know nothing of each
other: all that they share is the state of the current pass.

* `Coordinator.acts` — the log of a run: what is done, in order, with the flow that it is done for.
* `World.react_eq_foldl_acts` — the world does what is logged, in that order.
* `react_leave`, `run_leave` — a flow makes no difference to what comes for the others.
-/

namespace SessionSync

/-! ## The log of a run -/

/-- Something that is done. -/
inductive Act
  /-- The agent is told something. -/
  | tells (instruction : Instruction)
  /-- The services are asked for something. -/
  | asks (request : Request)

namespace Reaction

/-- What is done at a moment, in order. -/
def acts (r : Reaction) : List Act :=
  r.instructions.map .tells ++ r.requests.map .asks

/-- The reaction without the flow under a number. -/
def leave (r : Reaction) (f : Nat) : Reaction :=
  { r with coordinator := r.coordinator.leave f }

end Reaction

namespace World

/-- Something is done. -/
def carryOut (w : World) : Act → World
  | .tells instruction => w.instruct instruction
  | .asks request => w.ask request

/-- The coordinator has changed before anything is done, and what is done is done in order. -/
theorem react_eq_foldl_acts (w : World) (r : Reaction) :
    w.react r = r.acts.foldl carryOut { w with coordinator := r.coordinator } := by
  simp only [Reaction.acts, List.foldl_append, List.foldl_map]
  rfl

/-- The end of a removal that could not read the session is noted, and nothing else comes of it. -/
theorem instruct_of_unread (w : World) (a : AccountId) (e : ListingError) :
    w.instruct (.finishRemoval a (.error e)) =
      { w with instructions := w.instructions ++ [.finishRemoval a (.error e)] } := by
  unfold instruct
  cases hworker : w.worker with
  | none => rfl
  | some worker => simp only [Instruction.operation?]

end World

/-- The account list that an event brings a flow. -/
def CoordinatorEvent.listAnswer? (f : Nat) : CoordinatorEvent → Option (Except CallError String)
  | .listed g answer => if g = f then some answer else none
  | _ => none

theorem CoordinatorEvent.eq_of_listAnswer? {f : Nat} {e : CoordinatorEvent}
    {answer : Except CallError String} (h : e.listAnswer? f = some answer) :
    e = .listed f answer := by
  unfold listAnswer? at h
  split at h
  · split at h
    · next hg => rw [hg, Option.some.inj h]
    · cases h
  · cases h

namespace Coordinator

/-- The flow that a moment is for: the one that something comes for, or the one that may begin. -/
def flowOf (c : Coordinator) (m : Moment) : Nat :=
  m.event.target?.getD c.nextFlow

/-- What is for a flow that has begun has come for it. -/
theorem flowOf_eq_iff {c : Coordinator} {f : Nat} (used : f < c.nextFlow) (m : Moment) :
    c.flowOf m = f ↔ m.event.target? = some f := by
  unfold flowOf
  cases m.event.target? with
  | none => exact iff_of_false (Nat.ne_of_gt used) nofun
  | some g => simp

/-- What is done in a run, in order, each with the flow that it is done for. -/
def acts (c : Coordinator) : List Moment → List (Nat × Act)
  | [] => []
  | m :: ms => (c.react m).acts.map (c.flowOf m, ·) ++ (c.react m).coordinator.acts ms

/-- What is done in a run for the flow under a number, in order. -/
def actsOf (c : Coordinator) (f : Nat) (ms : List Moment) : List Act :=
  (c.acts ms).filterMap fun x => if x.1 = f then some x.2 else none

theorem acts_cons (c : Coordinator) (m : Moment) (ms : List Moment) :
    c.acts (m :: ms) =
      (c.react m).acts.map (c.flowOf m, ·) ++ (c.react m).coordinator.acts ms := rfl

theorem actsOf_cons (c : Coordinator) (f : Nat) (m : Moment) (ms : List Moment) :
    c.actsOf f (m :: ms) =
      (if c.flowOf m = f then (c.react m).acts else []) ++ (c.react m).coordinator.actsOf f ms := by
  unfold actsOf
  rw [acts_cons, List.filterMap_append, List.filterMap_map]
  congr 1
  show (c.react m).acts.filterMap (fun x => if c.flowOf m = f then some x else none) = _
  split
  · exact List.filterMap_some
  · simp

/-! ## What comes for other flows -/

section

variable {c : Coordinator} {f g : Nat}

-- Every operation is compared with itself where the flow `f` is missing: what looks at a flow `g`
-- must not look at `f`, and what begins one must not use the number again.

theorem leave_leave (c : Coordinator) (f g : Nat) : (c.leave f).leave g = (c.leave g).leave f := by
  simp only [leave, List.filter_filter, Bool.and_comm]

theorem leave_update (c : Coordinator) (f g : Nat) (fl : Flow) :
    (c.leave f).update g fl = (c.update g fl).leave f := by
  simp only [leave, update, List.filter_map]
  congr 3
  funext e
  by_cases h : e.1 = g <;> simp [h]

theorem leave_enter (h : c.nextFlow ≠ f) (fl : Flow) :
    (c.leave f).enter fl = (c.enter fl).leave f := by
  simp [leave, enter, List.filter_append, h]

theorem leave_learn (c : Coordinator) (f p : Nat) (change : PassState → PassState) :
    (c.leave f).learn p change = (c.learn p change).leave f := by
  unfold learn
  rw [apply_ite (leave · f)]
  rfl

theorem leave_abort (c : Coordinator) (f : Nat) : (c.leave f).abort = c.abort.leave f := by
  unfold abort
  rw [apply_ite (leave · f)]
  rfl

theorem leave_learnAnswer (c : Coordinator) (f p : Nat) (answer : Except CallError String) :
    (c.leave f).learnAnswer p answer = (c.learnAnswer p answer).leave f := by
  unfold learnAnswer
  split
  · exact leave_learn c f p _
  · rfl

theorem leave_closeChecks (c : Coordinator) (f p : Nat) (checks : Checks) :
    (c.leave f).closeChecks p checks = (c.closeChecks p checks).leave f := by
  unfold closeChecks
  split
  · exact leave_learn c f p _
  · rfl

theorem leave_recordCheck (c : Coordinator) (s : Surroundings) (f p : Nat) (a : AccountId)
    (v : Validity) : (c.leave f).recordCheck s p a v = (c.recordCheck s p a v).leave f := by
  unfold recordCheck
  split
  · exact leave_learn c f p _
  · rfl

theorem leave_finish (c : Coordinator) (s : Surroundings) (f g p : Nat) :
    (c.leave f).finish s g p = (c.finish s g p).leave f := by
  unfold finish
  rw [leave_leave, apply_ite (Reaction.leave · f)]
  rfl

theorem leave_proceed (c : Coordinator) (s : Surroundings) (f g p : Nat) (listDue : Bool)
    (checks : Checks) :
    (c.leave f).proceed s g p listDue checks = (c.proceed s g p listDue checks).leave f := by
  unfold proceed
  split
  · exact leave_finish c s f g p
  · rw [leave_update]
    rfl

theorem leave_continueWith (h : g ≠ f) (s : Surroundings) (checks : Checks) :
    (c.leave f).continueWith s g checks = (c.continueWith s g checks).leave f := by
  unfold continueWith
  rw [flow?_leave_of_ne h]
  split
  · rw [leave_closeChecks, leave_proceed]
  · dsimp only
    rw [leave_closeChecks]
    split
    · rw [leave_leave]
      rfl
    · rw [leave_update]
      rfl
  · rfl

theorem leave_resolve (h : g ≠ f) (s : Surroundings) (a : AccountId) (v : Validity) :
    (c.leave f).resolve s g a v = (c.resolve s g a v).leave f := by
  unfold resolve
  rw [flow?_leave_of_ne h]
  split
  · rw [leave_recordCheck, leave_continueWith h]
  · rfl

theorem leave_identify (h : g ≠ f) (a : AccountId) (token : String) :
    (c.leave f).identify g a token = (c.identify g a token).leave f := by
  unfold identify
  rw [flow?_leave_of_ne h]
  dsimp only
  split
  · exact leave_update c f g _
  · exact leave_update c f g _
  · rfl

theorem leave_start (h : c.nextFlow ≠ f) : (c.leave f).start.1 = c.start.1.leave f := by
  unfold start
  by_cases hs : c.state.started = true
  · simp only [leave, hs, if_true]
  · simp only [leave, hs]
    exact leave_enter (c := { c with state := .begin (c.state.passId + 1) }) h _

theorem leave_checkAccounts (h : c.nextFlow ≠ f) (s : Surroundings) :
    (c.leave f).checkAccounts s = (c.checkAccounts s).leave f := by
  unfold checkAccounts
  split
  · exact congrArg (Reaction.mk · [] []) (leave_closeChecks c f _ _)
  · exact congrArg (Reaction.mk · _ []) (leave_enter h _)

theorem leave_launch (h : g ≠ f) (s : Surroundings) :
    (c.leave f).launch s g = (c.launch s g).leave f := by
  unfold launch
  rw [flow?_leave_of_ne h]
  split
  · rw [leave_update, leave_closeChecks]
    rfl
  · rfl

theorem leave_listed (h : g ≠ f) (s : Surroundings) (answer : Except CallError String) :
    (c.leave f).listed s g answer = (c.listed s g answer).leave f := by
  cases hflow : c.flow? g with
  | none => simp only [listed, flow?_leave_of_ne h, hflow]; rfl
  | some fl =>
    have hleave : (c.leave f).flow? g = some fl := (flow?_leave_of_ne h).trans hflow
    cases fl with
    | pass p listDue checks =>
      cases listDue with
      | true => rw [listed_of_pass hleave, listed_of_pass hflow, leave_learnAnswer, leave_proceed]
      | false => simp only [listed, hleave, hflow]; rfl
    | reading p =>
      rw [listed_of_reading hleave, listed_of_reading hflow, leave_learnAnswer, leave_leave]
      rfl
    | removal a =>
      rw [listed_of_removal hleave, listed_of_removal hflow]
      cases accountsOfAnswer answer with
      | error e => exact congrArg (Reaction.mk · [] _) (leave_leave c f g)
      | ok accounts =>
        dsimp only
        rw [leave_abort, leave_leave]
        rfl
    | queued | checking => simp only [listed, hleave, hflow]; rfl

theorem leave_minted (h : g ≠ f) (s : Surroundings) (a : AccountId)
    (answer : Except TokenError String) :
    (c.leave f).minted s g a answer = (c.minted s g a answer).leave f := by
  unfold minted check?
  rw [flow?_leave_of_ne h]
  split
  · split
    · rw [leave_identify h]
      rfl
    · exact leave_resolve h s a _
  · rfl

theorem leave_identified (h : g ≠ f) (s : Surroundings) (a : AccountId)
    (answer : Except CallError TokenOwner) :
    (c.leave f).identified s g a answer = (c.identified s g a answer).leave f := by
  unfold identified check?
  rw [flow?_leave_of_ne h]
  split
  · split
    · exact leave_resolve h s a _
    · exact leave_resolve h s a _
  · rfl

/-- A flow makes no difference to what comes for the others. -/
theorem react_leave {m : Moment} (other : c.flowOf m ≠ f) :
    (c.leave f).react m = (c.react m).leave f := by
  obtain ⟨s, event⟩ := m
  cases event with
  | start => exact congrArg (Reaction.mk · [] []) (leave_start other)
  | abort => exact congrArg (Reaction.mk · [] []) (leave_abort c f)
  | launch g => exact leave_launch other s
  | readSession => exact congrArg (Reaction.mk · _ _) (leave_enter other _)
  | checkAccounts => exact leave_checkAccounts other s
  | removeAccount a => exact congrArg (Reaction.mk · _ _) (leave_enter other _)
  | listed g answer => exact leave_listed other s answer
  | minted g a answer => exact leave_minted other s a answer
  | identified g a answer => exact leave_identified other s a answer

end

/-- The moments of a run that are not for a flow. -/
def apart (f : Nat) (ms : List Moment) : List Moment :=
  ms.filter (·.event.target? ≠ some f)

/-- Without a flow a run goes on as it does when nothing comes for the flow. -/
theorem run_leave {c : Coordinator} {f : Nat} (used : f < c.nextFlow) (ms : List Moment) :
    (c.leave f).acts ms = c.acts (apart f ms)
      ∧ (c.leave f).run ms = (c.run (apart f ms)).leave f := by
  induction ms generalizing c with
  | nil => exact ⟨rfl, rfl⟩
  | cons m ms ih =>
    by_cases target : m.event.target? = some f
    · have hgone : (c.leave f).role? f = none := by rw [(left_leave c f).2, if_pos rfl]
      have hapart : apart f (m :: ms) = apart f ms := List.filter_cons_of_neg (by simp [target])
      rw [acts_cons, run_cons, react_of_gone target hgone, hapart]
      exact ih used
    · have hapart : apart f (m :: ms) = m :: apart f ms :=
        List.filter_cons_of_pos (by simp [target])
      have hother : c.flowOf m ≠ f := fun h => target ((flowOf_eq_iff used m).1 h)
      obtain ⟨hacts, hrun⟩ := ih (Nat.lt_of_lt_of_le used (nextFlow_le_react c m))
      have hflow : (c.leave f).flowOf m = c.flowOf m := rfl
      rw [acts_cons, run_cons, hapart, acts_cons, run_cons, react_leave hother, hflow]
      exact ⟨congrArg _ hacts, hrun⟩

end Coordinator

end SessionSync
