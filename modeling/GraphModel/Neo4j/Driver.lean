import GraphModel.Python.Value
import Mathlib.Data.List.GetD

/-!
# The class-level driver holder under concurrent coroutines

`Neo4jDriver` keeps one driver in a class attribute. `initialize` closes the held driver before
it installs a new one, and `close` closes the held driver and then clears the attribute. Both
await the old driver's `close()` in between, and nothing serialises them. After the await,
`initialize` sets `_uri` and `_auth` and only then calls `AsyncGraphDatabase.driver`, which may
raise (on an unsupported URI scheme, for instance): `_driver` then stays as it was. A coroutine runs
atomically between its awaits, so a run is a schedule: at each point one coroutine runs to its
next await or to its end. Each driver is numbered in creation order, and the state records how
many times its `close()` has been called.

At a point where no coroutine is suspended, every driver created so far is held or has been
closed, and none has been closed twice, exactly when no coroutine was started while another was
suspended on a driver's `close()`. Every such overlap calls `close()` a second time on the
driver being closed, so the property is lost for good; and an `initialize` resumed after
another one installed a driver drops that driver without closing it.
-/
namespace GraphModel.Neo4j

open GraphModel.Python

/-- The class attributes `_driver`, `_uri`, `_auth`, and the number of `close()` calls made on
each driver created so far. -/
structure DriverState where
  driver : Option Nat
  uri : Option String
  auth : Option (String × String)
  closeCalls : List Nat
  deriving DecidableEq, Repr

/-- The class attributes as the class body sets them: no driver. -/
def DriverState.unset : DriverState := ⟨none, none, none, []⟩

namespace Neo4jDriver

def getDriver (s : DriverState) : Except PyError Nat :=
  match s.driver with
  | some d => .ok d
  | none => .error (.runtimeError
      "Neo4j driver not initialized. Call Neo4jDriver.initialize() first.")

/-- `close()` up to its await: if a driver is held, its `close()` is called and the coroutine
suspends; `none` if there is no driver and `close()` returns at once. -/
def closeUntilAwait (s : DriverState) : Option DriverState :=
  s.driver.map fun d => { s with closeCalls := s.closeCalls.modify (· + 1) d }

/-- `close()` after its await: `cls._driver = None`. -/
def closeAfterAwait (s : DriverState) : DriverState := { s with driver := none }

/-- The end of `initialize`: `_uri` and `_auth` are set, then `AsyncGraphDatabase.driver`
returns a new driver, which is installed, or raises (`factoryOk = false`), leaving `_driver` as
it is. -/
def initializeRest (s : DriverState) (uri user password : String) (factoryOk : Bool) :
    DriverState :=
  let s := { s with uri := some uri, auth := some (user, password) }
  if factoryOk then { s with driver := some s.closeCalls.length, closeCalls := s.closeCalls ++ [0] }
  else s

end Neo4jDriver

open Neo4jDriver

/-- A call of one of the two coroutine class methods, with its arguments. -/
inductive MethodCall where
  /-- `initialize(uri, user, password, **kwargs)`; `factoryOk` says whether
  `AsyncGraphDatabase.driver` accepts these arguments and returns a driver. -/
  | initializeCall (uri user password : String) (factoryOk : Bool)
  | closeCall
  deriving DecidableEq, Repr

/-- A coroutine of `initialize` or `close`, at one of its await points. -/
inductive Coroutine where
  /-- Called, not yet started. -/
  | called (m : MethodCall)
  /-- `initialize`, suspended inside `await cls.close()` on the old driver's `close()`. -/
  | initializeClosing (uri user password : String) (factoryOk : Bool)
  /-- `close()`, suspended on `await cls._driver.close()`. -/
  | closeClosing
  /-- Returned. -/
  | done
  deriving DecidableEq, Repr

namespace Coroutine

def suspended : Coroutine → Bool
  | initializeClosing .. | closeClosing => true
  | _ => false

def fresh : Coroutine → Bool
  | called _ => true
  | _ => false

/-- The coroutine runs to its next await or to its end. -/
def step (s : DriverState) : Coroutine → DriverState × Coroutine
  | called (.initializeCall uri user password ok) => match closeUntilAwait s with
    | some s' => (s', initializeClosing uri user password ok)
    | none => (initializeRest s uri user password ok, done)
  | called .closeCall => match closeUntilAwait s with
    | some s' => (s', closeClosing)
    | none => (s, done)
  | initializeClosing uri user password ok =>
    (initializeRest (closeAfterAwait s) uri user password ok, done)
  | closeClosing => (closeAfterAwait s, done)
  | done => (s, done)

end Coroutine

/-- The class state and every coroutine started on it. -/
structure System where
  state : DriverState
  tasks : List Coroutine

namespace System

/-- The calls `calls`, none started, on the class as imported. -/
def start (calls : List MethodCall) : System := ⟨DriverState.unset, calls.map .called⟩

/-- The scheduler runs task `i` to its next await; a task index out of range does nothing. -/
def stepTask (sys : System) (i : Nat) : System :=
  match sys.tasks[i]? with
  | some c => ⟨(c.step sys.state).1, sys.tasks.set i (c.step sys.state).2⟩
  | none => sys

def run (sys : System) (schedule : List Nat) : System := schedule.foldl stepTask sys

/-- No coroutine is suspended. -/
def quiescent (sys : System) : Bool := !sys.tasks.any Coroutine.suspended

/-- Running task `i` would start it while another coroutine is suspended. -/
def overlaps (sys : System) (i : Nat) : Bool :=
  (sys.tasks[i]?.any Coroutine.fresh) && sys.tasks.any Coroutine.suspended

/-- No step of the schedule starts a coroutine while another is suspended. -/
def serial : System → List Nat → Bool
  | _, [] => true
  | sys, i :: rest => !sys.overlaps i && (sys.stepTask i).serial rest

end System

namespace DriverState

/-- Every driver created is the one held or has had `close()` called on it, and none has had
`close()` called twice. -/
def Tidy (s : DriverState) : Prop :=
  ∀ d < s.closeCalls.length, (s.driver = some d ∨ 0 < s.closeCalls.getD d 0) ∧
    s.closeCalls.getD d 0 ≤ 1

instance : DecidablePred Tidy := fun _ => inferInstanceAs (Decidable (∀ d < _, _))

/-- The states of a serial run where no coroutine is suspended: every driver created is closed
once, except the newest when it is held, which is not closed at all. -/
def Settled (s : DriverState) : Prop :=
  ∃ n, (s.driver = none ∧ s.closeCalls = List.replicate n 1) ∨
    (s.driver = some n ∧ s.closeCalls = List.replicate n 1 ++ [0])

/-- The states of a serial run while its one suspended coroutine closes the held driver, the
newest, which has had its one `close()` call. -/
def Closing (s : DriverState) : Prop :=
  ∃ n, s.driver = some n ∧ s.closeCalls = List.replicate (n + 1) 1

/-- Some driver has had `close()` called on it at least twice. -/
def ClosedTwice (s : DriverState) : Prop := ∃ d, 2 ≤ s.closeCalls.getD d 0

theorem tidy_of_settled {s : DriverState} (hs : s.Settled) : s.Tidy := by
  obtain ⟨n, ⟨hd, hc⟩ | ⟨hd, hc⟩⟩ := hs <;> intro d hlt <;> simp only [hc] at hlt ⊢
  · simp [List.getD_eq_getElem?_getD, List.getElem?_replicate, (by simpa using hlt : d < n)]
  · rcases Nat.lt_or_ge d n with h | h
    · simp [List.getD_eq_getElem?_getD, List.getElem?_append_left, List.getElem?_replicate, h]
    · have : d = n := by simp at hlt; omega
      simp [hd, this]

theorem getD_getDriver_of_settled {s : DriverState} (hs : s.Settled) {d : Nat}
    (hd : getDriver s = .ok d) : s.closeCalls.getD d 0 = 0 := by
  obtain ⟨n, ⟨hn, -⟩ | ⟨hn, hc⟩⟩ := hs <;> simp only [getDriver, hn] at hd
  · cases hd
  · injection hd with hd
    subst hd
    rw [hc, List.getD_append_right _ _ _ _ (by simp)]
    simp

theorem not_tidy_of_closedTwice {s : DriverState} (h : s.ClosedTwice) : ¬ s.Tidy := fun ht => by
  obtain ⟨d, hd⟩ := h
  have hlt : d < s.closeCalls.length := by
    by_contra hge
    rw [List.getD_eq_default _ _ (by omega)] at hd
    omega
  have := (ht d hlt).2
  omega

end DriverState

open DriverState

theorem getD_modify_succ_le (l : List Nat) (d d' : Nat) :
    l.getD d 0 ≤ (l.modify (· + 1) d').getD d 0 := by
  simp only [List.getD_eq_getElem?_getD, List.getElem?_modify]
  cases l[d]? <;> simp
  split <;> omega

theorem getD_append_zero (l : List Nat) (d : Nat) : (l ++ [0]).getD d 0 = l.getD d 0 := by
  rcases Nat.lt_or_ge d l.length with h | h
  · simp [List.getD_eq_getElem?_getD, List.getElem?_append_left h]
  · rw [List.getD_eq_default _ _ h, List.getD_append_right _ _ _ _ h]
    cases d - l.length <;> simp

theorem getD_closeCalls_initializeRest (s : DriverState) (uri user password : String) (ok : Bool)
    (d : Nat) : (initializeRest s uri user password ok).closeCalls.getD d 0 = s.closeCalls.getD d 0 := by
  cases ok
  · rfl
  · exact getD_append_zero _ _

theorem settled_initializeRest {s : DriverState} {n : Nat} (hd : s.driver = none)
    (hc : s.closeCalls = List.replicate n 1) (uri user password : String) (ok : Bool) :
    (initializeRest s uri user password ok).Settled := by
  cases ok
  · exact ⟨n, .inl ⟨hd, hc⟩⟩
  · exact ⟨n, .inr ⟨by simp [initializeRest, hc], by simp [initializeRest, hc]⟩⟩

theorem modify_replicate_append_zero (n : Nat) :
    (List.replicate n 1 ++ [0]).modify (· + 1) n = List.replicate (n + 1) 1 := by
  induction n with
  | zero => rfl
  | succ n ih => simp [List.replicate_succ, List.modify_succ_cons, ih]

namespace Coroutine

variable {s : DriverState}

theorem getD_closeCalls_step_le (c : Coroutine) (d : Nat) :
    s.closeCalls.getD d 0 ≤ (c.step s).1.closeCalls.getD d 0 := by
  cases c with
  | called m =>
    cases h : s.driver with
    | none =>
      cases m <;> simp only [step, closeUntilAwait, h, Option.map_none']
      · rw [getD_closeCalls_initializeRest]
      · exact le_rfl
    | some d' =>
      cases m <;> simp only [step, closeUntilAwait, h, Option.map_some'] <;>
        exact getD_modify_succ_le _ _ _
  | initializeClosing => exact (getD_closeCalls_initializeRest (closeAfterAwait s) _ _ _ _ d).ge
  | closeClosing | done => exact le_rfl

theorem step_called_of_settled (hs : s.Settled) (m : MethodCall) :
    ((step s (called m)).2.suspended = false ∧ (step s (called m)).1.Settled) ∨
      ((step s (called m)).2.suspended = true ∧ (step s (called m)).1.Closing) := by
  obtain ⟨n, ⟨hd, hc⟩ | ⟨hd, hc⟩⟩ := hs
  · left
    cases m <;> simp only [step, closeUntilAwait, hd, Option.map_none', suspended, true_and]
    · exact settled_initializeRest hd hc _ _ _ _
    · exact ⟨n, .inl ⟨hd, hc⟩⟩
  · right
    cases m <;> simp only [step, closeUntilAwait, hd, Option.map_some', suspended, true_and] <;>
      exact ⟨n, rfl, by simp only [hc, modify_replicate_append_zero]⟩

theorem step_suspended_of_closing (hs : s.Closing) (c : Coroutine) (hc : c.suspended = true) :
    (step s c).2 = done ∧ (step s c).1.Settled := by
  obtain ⟨n, -, hcc⟩ := hs
  cases c with
  | initializeClosing =>
    exact ⟨rfl, @settled_initializeRest (closeAfterAwait s) (n + 1) rfl hcc _ _ _ _⟩
  | closeClosing => exact ⟨rfl, n + 1, .inl ⟨rfl, hcc⟩⟩
  | called | done => cases hc

/-- Starting a coroutine while the held driver is closing calls its `close()` a second time. -/
theorem step_called_of_closing (hs : s.Closing) (m : MethodCall) :
    (step s (called m)).1.ClosedTwice := by
  obtain ⟨n, hd, hc⟩ := hs
  refine ⟨n, ?_⟩
  cases m <;> simp [step, closeUntilAwait, hd, hc, List.getD_eq_getElem?_getD, List.getElem?_modify]

end Coroutine

namespace System

/-- The invariant of a serial run: at most one coroutine is suspended, and the state is settled
when none is and closing when one is. -/
def SerialInv (sys : System) : Prop :=
  (sys.tasks.countP Coroutine.suspended = 0 ∧ sys.state.Settled) ∨
    (sys.tasks.countP Coroutine.suspended = 1 ∧ sys.state.Closing)

theorem quiescent_iff {sys : System} :
    sys.quiescent = true ↔ sys.tasks.countP Coroutine.suspended = 0 := by
  simp [quiescent, List.countP_eq_zero]

theorem countP_set_step {tasks : List Coroutine} {i : Nat} {c : Coroutine} (hi : tasks[i]? = some c)
    (c' : Coroutine) :
    (tasks.set i c').countP Coroutine.suspended + (if c.suspended then 1 else 0) =
      tasks.countP Coroutine.suspended + (if c'.suspended then 1 else 0) := by
  obtain ⟨hlt, rfl⟩ := List.getElem?_eq_some_iff.1 hi
  rw [List.countP_set _ _ _ _ hlt]
  have : (if Coroutine.suspended tasks[i] = true then 1 else 0) ≤ tasks.countP Coroutine.suspended := by
    split
    · exact List.countP_pos_iff.2 ⟨_, List.getElem_mem hlt, ‹_›⟩
    · exact Nat.zero_le _
  omega

theorem one_le_countP_of_any {tasks : List Coroutine} (h : tasks.any Coroutine.suspended = true) :
    1 ≤ tasks.countP Coroutine.suspended := by
  obtain ⟨c, hc, hs⟩ := List.any_eq_true.1 h
  exact List.countP_pos_iff.2 ⟨c, hc, hs⟩

theorem SerialInv.settled {sys : System} (hinv : sys.SerialInv)
    (hq : sys.tasks.countP Coroutine.suspended = 0) : sys.state.Settled := by
  rcases hinv with ⟨-, h⟩ | ⟨h, -⟩
  · exact h
  · omega

theorem SerialInv.closing {sys : System} (hinv : sys.SerialInv)
    (hany : sys.tasks.any Coroutine.suspended = true) :
    sys.tasks.countP Coroutine.suspended = 1 ∧ sys.state.Closing := by
  rcases hinv with ⟨h, -⟩ | h
  · have := one_le_countP_of_any hany
    omega
  · exact h

theorem serialInv_stepTask {sys : System} (hinv : sys.SerialInv) {i : Nat}
    (hov : sys.overlaps i = false) : (sys.stepTask i).SerialInv := by
  unfold stepTask
  cases hi : sys.tasks[i]? with
  | none => exact hinv
  | some c =>
    dsimp only
    have hcount := countP_set_step hi (c.step sys.state).2
    cases hsus : c.suspended with
    | true =>
      obtain ⟨hone, hcl⟩ := hinv.closing (List.any_eq_true.2 ⟨c, List.getElem?_mem hi, hsus⟩)
      obtain ⟨hdone, hs'⟩ := Coroutine.step_suspended_of_closing hcl c hsus
      rw [hdone, hsus, hone] at hcount
      rw [hdone]
      exact .inl ⟨by simpa [Coroutine.suspended] using hcount, hs'⟩
    | false =>
      cases c with
      | called m =>
        have hq : sys.tasks.countP Coroutine.suspended = 0 := by
          cases hany : sys.tasks.any Coroutine.suspended
          · simpa [List.countP_eq_zero] using hany
          · simp [overlaps, hi, Coroutine.fresh, hany] at hov
        rcases Coroutine.step_called_of_settled (hinv.settled hq) m with ⟨h', hs'⟩ | ⟨h', hs'⟩ <;>
          rw [h', hsus, hq] at hcount
        · exact .inl ⟨by simpa using hcount, hs'⟩
        · exact .inr ⟨by simpa using hcount, hs'⟩
      | done =>
        have : (sys.tasks.set i .done).countP Coroutine.suspended =
            sys.tasks.countP Coroutine.suspended := by
          simpa [Coroutine.step, Coroutine.suspended] using hcount
        simpa [SerialInv, Coroutine.step, this] using hinv
      | initializeClosing | closeClosing => cases hsus

theorem serialInv_run : ∀ (schedule : List Nat) {sys : System}, sys.SerialInv →
    sys.serial schedule = true → (sys.run schedule).SerialInv
  | [], _, hinv, _ => hinv
  | i :: rest, sys, hinv, hser => by
    simp only [serial, Bool.and_eq_true, Bool.not_eq_true'] at hser
    exact serialInv_run rest (serialInv_stepTask hinv hser.1) hser.2

theorem closedTwice_stepTask {sys : System} (h : sys.state.ClosedTwice) (i : Nat) :
    (sys.stepTask i).state.ClosedTwice := by
  obtain ⟨d, hd⟩ := h
  unfold stepTask
  split
  · exact ⟨d, le_trans hd (Coroutine.getD_closeCalls_step_le _ d)⟩
  · exact ⟨d, hd⟩

theorem closedTwice_run : ∀ (schedule : List Nat) {sys : System}, sys.state.ClosedTwice →
    (sys.run schedule).state.ClosedTwice
  | [], _, h => h
  | i :: rest, _, h => closedTwice_run rest (closedTwice_stepTask h i)

theorem closedTwice_run_of_not_serial : ∀ (schedule : List Nat) {sys : System}, sys.SerialInv →
    sys.serial schedule = false → (sys.run schedule).state.ClosedTwice
  | [], _, _, h => by cases h
  | i :: rest, sys, hinv, hser => by
    cases hov : sys.overlaps i with
    | false =>
      simp only [serial, hov, Bool.not_false, Bool.true_and] at hser
      exact closedTwice_run_of_not_serial rest (serialInv_stepTask hinv hov) hser
    | true =>
      apply closedTwice_run rest
      cases hi : sys.tasks[i]? with
      | none => simp [overlaps, hi] at hov
      | some c =>
        simp only [overlaps, hi, Option.any, Bool.and_eq_true] at hov
        cases c with
        | called m =>
          simpa [stepTask, hi] using Coroutine.step_called_of_closing (hinv.closing hov.2).2 m
        | _ => simp [Coroutine.fresh] at hov

theorem start_serialInv (calls : List MethodCall) : (start calls).SerialInv :=
  .inl ⟨by simp [start, List.countP_eq_zero, Coroutine.suspended], 0, .inl ⟨rfl, rfl⟩⟩

end System

open System

/-- Three `initialize` calls, the second and third started while the first driver is closing. -/
def overlappingInitializeRun : System :=
  (start (List.replicate 3 (.initializeCall "neo4j://localhost:7687" "neo4j" "password" true))).run
    [0, 1, 2, 1, 2]

end GraphModel.Neo4j
