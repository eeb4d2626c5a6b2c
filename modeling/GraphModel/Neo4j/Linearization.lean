import GraphModel.Neo4j.Driver

/-!
# Serial schedules and the one-call-at-a-time reading of `Neo4jDriver`

Read without concurrency, `initialize` closes and clears the held driver, if any, sets `_uri`
and `_auth`, and installs a new driver unless the factory raises, and `close` closes and clears
the held driver: `MethodCall.runAtomically`. The state compared is the class attributes
together with the number of `close()` calls made on every driver created so far. A schedule
is explained by this reading when its state at a point where no coroutine is suspended is what
some sequence of whole calls produces from the class as imported. A serial schedule is
explained by the calls it starts, in the order it starts them: while its one suspended
coroutine waits, resuming it gives the state the whole call would have left, and nothing else
runs meanwhile. No other schedule is explained by any sequence of calls, since every state whole
calls reach is settled and an overlap leaves a driver closed twice.

What a client sees after a serial run follows from the sequential reading: `get_driver()`
succeeds exactly when the last call started was an `initialize` whose factory call returned a
driver, and `_uri` and `_auth` are the arguments of the last `initialize` started, whether or not
its factory call raised.
-/
namespace GraphModel.Neo4j

open GraphModel.Python Neo4jDriver DriverState System

/-- A call run to its end with no other coroutine in between. -/
def MethodCall.runAtomically (s : DriverState) : MethodCall → DriverState
  | .initializeCall uri user password ok =>
    initializeRest ((closeUntilAwait s).elim s closeAfterAwait) uri user password ok
  | .closeCall => (closeUntilAwait s).elim s closeAfterAwait

/-- The calls a schedule starts, in the order it starts them. -/
def System.started : System → List Nat → List MethodCall
  | _, [] => []
  | sys, i :: rest =>
    match sys.tasks[i]? with
    | some (.called m) => m :: (sys.stepTask i).started rest
    | _ => (sys.stepTask i).started rest

theorem MethodCall.runAtomically_eq_step (s : DriverState) (m : MethodCall) :
    m.runAtomically s =
      if (Coroutine.step s (.called m)).2.suspended then
        ((Coroutine.step s (.called m)).2.step (Coroutine.step s (.called m)).1).1
      else (Coroutine.step s (.called m)).1 := by
  cases m <;> cases h : closeUntilAwait s <;>
    simp [runAtomically, Coroutine.step, h, Coroutine.suspended]

theorem MethodCall.settled_runAtomically {s : DriverState} (hs : s.Settled) (m : MethodCall) :
    (m.runAtomically s).Settled := by
  rw [runAtomically_eq_step]
  rcases Coroutine.step_called_of_settled hs m with ⟨h, hs'⟩ | ⟨h, hs'⟩
  · rwa [if_neg (by simp [h])]
  · rw [if_pos h]
    exact (Coroutine.step_suspended_of_closing hs' _ h).2

theorem settled_foldl_runAtomically (ms : List MethodCall) :
    ∀ {s : DriverState}, s.Settled → (ms.foldl MethodCall.runAtomically s).Settled := by
  induction ms with
  | nil => exact id
  | cons m ms ih => exact fun hs => ih (MethodCall.settled_runAtomically hs m)

theorem set_eq_self_of_getElem? {α : Type} {l : List α} {i : Nat} {a : α} (h : l[i]? = some a) :
    l.set i a = l :=
  List.ext_getElem? fun j => by
    rw [List.getElem?_set]
    split
    · subst_vars
      simp [(List.getElem?_eq_some_iff.1 h).1, h]
    · rfl

theorem eq_of_countP_suspended_eq_one {tasks : List Coroutine}
    (h : tasks.countP Coroutine.suspended = 1) {c c' : Coroutine} (hc : c ∈ tasks)
    (hs : c.suspended = true) (hc' : c' ∈ tasks) (hs' : c'.suspended = true) : c = c' := by
  rw [List.countP_eq_length_filter, List.length_eq_one] at h
  obtain ⟨x, hx⟩ := h
  have h₁ : c ∈ tasks.filter Coroutine.suspended := List.mem_filter.2 ⟨hc, hs⟩
  have h₂ : c' ∈ tasks.filter Coroutine.suspended := List.mem_filter.2 ⟨hc', hs'⟩
  rw [hx, List.mem_singleton] at h₁ h₂
  rw [h₁, h₂]

namespace System

/-- How a serial run stands against the whole-call reading `a` of the calls it has started:
with no coroutine suspended its state is `a`; with one suspended, resuming it gives `a`. -/
def Linearized (sys : System) (a : DriverState) : Prop :=
  (sys.tasks.countP Coroutine.suspended = 0 ∧ sys.state = a) ∨
    (sys.tasks.countP Coroutine.suspended = 1 ∧
      ∃ c ∈ sys.tasks, c.suspended = true ∧ (c.step sys.state).1 = a)

theorem start_linearized (calls : List MethodCall) : (start calls).Linearized DriverState.unset :=
  .inl ⟨by simp [start, List.countP_eq_zero, Coroutine.suspended], rfl⟩

variable {sys : System} {a : DriverState} {i : Nat}

theorem linearized_stepTask_called (hlin : sys.Linearized a) (hov : sys.overlaps i = false)
    {m : MethodCall} (hi : sys.tasks[i]? = some (.called m)) :
    (sys.stepTask i).Linearized (m.runAtomically a) := by
  have hq : sys.tasks.countP Coroutine.suspended = 0 := by
    cases hany : sys.tasks.any Coroutine.suspended
    · simpa [List.countP_eq_zero] using hany
    · simp [overlaps, hi, Coroutine.fresh, hany] at hov
  have hs : sys.state = a := by
    rcases hlin with ⟨-, h⟩ | ⟨h, -⟩
    · exact h
    · omega
  have hcount := countP_set_step hi (Coroutine.step sys.state (.called m)).2
  have hmem : (Coroutine.step sys.state (.called m)).2 ∈
      sys.tasks.set i (Coroutine.step sys.state (.called m)).2 :=
    List.getElem?_mem (List.getElem?_set_self (List.getElem?_eq_some_iff.1 hi).1)
  rw [show (Coroutine.called m).suspended = false from rfl, hq] at hcount
  simp only [stepTask, hi, Linearized, MethodCall.runAtomically_eq_step, ← hs]
  split
  · rename_i hsus
    rw [if_pos hsus] at hcount
    exact .inr ⟨by simpa using hcount, _, hmem, hsus, rfl⟩
  · rename_i hsus
    rw [if_neg hsus] at hcount
    exact .inl ⟨by simpa using hcount, rfl⟩

theorem linearized_stepTask_of_not_called (hlin : sys.Linearized a)
    (hi : ∀ m, sys.tasks[i]? ≠ some (.called m)) : (sys.stepTask i).Linearized a := by
  unfold stepTask
  cases hti : sys.tasks[i]? with
  | none => exact hlin
  | some c =>
    dsimp only
    have hcount := countP_set_step hti (c.step sys.state).2
    cases c with
    | called m => exact absurd hti (hi m)
    | done => rwa [Coroutine.step, set_eq_self_of_getElem? hti]
    | initializeClosing | closeClosing =>
      rcases hlin with ⟨h, -⟩ | ⟨hone, c', hc', hs', hstep⟩
      · have := (List.countP_pos_iff (p := Coroutine.suspended)).2 ⟨_, List.getElem?_mem hti, rfl⟩
        omega
      · rw [← eq_of_countP_suspended_eq_one hone (List.getElem?_mem hti) rfl hc' hs'] at hstep
        simp only [Coroutine.step, Coroutine.suspended, if_true, hone] at hcount
        exact .inl ⟨by simpa [Coroutine.suspended] using hcount, hstep⟩

theorem linearized_run : ∀ (schedule : List Nat) {sys : System} {a : DriverState},
    sys.Linearized a → sys.serial schedule = true →
      (sys.run schedule).Linearized ((sys.started schedule).foldl MethodCall.runAtomically a)
  | [], _, _, hlin, _ => hlin
  | i :: rest, sys, a, hlin, hser => by
    simp only [serial, Bool.and_eq_true, Bool.not_eq_true'] at hser
    simp only [started]
    split
    · rename_i m hi
      exact linearized_run rest (linearized_stepTask_called hlin hser.1 hi) hser.2
    · rename_i hi
      exact linearized_run rest (linearized_stepTask_of_not_called hlin hi) hser.2

theorem Linearized.state_eq (hlin : sys.Linearized a) (hq : sys.quiescent = true) :
    sys.state = a := by
  rcases hlin with ⟨-, h⟩ | ⟨h, -⟩
  · exact h
  · rw [quiescent_iff] at hq
    omega

end System

def MethodCall.initArgs? : MethodCall → Option (String × String × String)
  | .initializeCall uri user password _ => some (uri, user, password)
  | .closeCall => none

/-- Whether the call ends with a driver installed: an `initialize` whose factory call returns. -/
def MethodCall.installsDriver : MethodCall → Bool
  | .initializeCall _ _ _ ok => ok
  | .closeCall => false

theorem MethodCall.observed_runAtomically (s : DriverState) (m : MethodCall) :
    (m.runAtomically s).driver.isSome = m.installsDriver ∧
      ((m.runAtomically s).uri, (m.runAtomically s).auth) =
        ((m.initArgs?.map (·.1)).or s.uri, (m.initArgs?.map fun a => (a.2.1, a.2.2)).or s.auth) := by
  cases m with
  | initializeCall uri user password ok =>
    cases ok <;> cases hd : s.driver <;>
      simp [runAtomically, closeUntilAwait, closeAfterAwait, initializeRest, initArgs?,
        installsDriver, hd]
  | closeCall =>
    cases hd : s.driver <;>
      simp [runAtomically, closeUntilAwait, closeAfterAwait, initArgs?, installsDriver, hd]

theorem observed_foldl_runAtomically (s : DriverState) (ms : List MethodCall) :
    (ms.foldl MethodCall.runAtomically s).driver.isSome =
        (ms.getLast?.map MethodCall.installsDriver).getD s.driver.isSome ∧
      ((ms.foldl MethodCall.runAtomically s).uri, (ms.foldl MethodCall.runAtomically s).auth) =
        (((ms.filterMap MethodCall.initArgs?).getLast?.map (·.1)).or s.uri,
          ((ms.filterMap MethodCall.initArgs?).getLast?.map fun a => (a.2.1, a.2.2)).or s.auth) := by
  induction ms using List.reverseRecOn with
  | nil => simp
  | append_singleton ms m ih =>
    obtain ⟨hd, ha⟩ := MethodCall.observed_runAtomically (ms.foldl MethodCall.runAtomically s) m
    rw [List.foldl_append, List.foldl_cons, List.foldl_nil, hd, ha]
    simp only [Prod.mk.injEq] at ih
    cases h : m.initArgs? <;>
      simp only [List.getLast?_concat, List.filterMap_append, List.filterMap_cons, List.filterMap_nil,
        h, List.append_nil, Option.map_some', Option.getD_some, Option.map_none', Option.none_or,
        Option.or_some, ih.2.1, ih.2.2, and_self, true_and]

theorem getDriver_isOk (s : DriverState) : (getDriver s).isOk = s.driver.isSome := by
  unfold getDriver
  split <;> simp_all [Except.isOk, Except.toBool]

end GraphModel.Neo4j