import GraphModel.Querying.Traversal

/-!
# Sessions of builder calls

A client starts from `create_traversal_from_nodes(nodes)` and then calls builders, each on any
traversal it already holds: the one the previous call returned, or any earlier one it keeps as a
template. A call that raises `ValueError` returns nothing. The reference description of a held
traversal is its chain, the successful calls that led from the root to it: its steps are those of
the chain's `add_step` calls in order, its depth limit is the last `with_depth_limit` argument,
and it includes paths iff `include_paths()` is on the chain. Every traversal of every session
has exactly the view its chain describes, and no call changes a heap object that existed before
it, so a traversal never changes once it is built.
-/
namespace GraphModel.Querying

open GraphModel.Python Heap

/-- A builder call and its arguments. -/
inductive BuilderCall where
  | addStep (relationshipType targetNodeType : String) (direction : TraversalDirection)
      (minDepth maxDepth : Int)
  | withDepthLimit (maxTotalDepth : Int)
  | includePaths
  deriving DecidableEq

namespace BuilderCall

/-- The call made on the traversal at `self`. -/
def apply (h : Heap) (self : Nat) : BuilderCall → Except PyError (Heap × Nat)
  | addStep rt tt dir lo hi => GraphTraversal.addStep h self rt tt dir lo hi
  | withDepthLimit d => GraphTraversal.withDepthLimit h self d
  | includePaths => GraphTraversal.includePaths h self

/-- Whether the call's arguments pass its checks, which come before the receiver is read. -/
def valid : BuilderCall → Bool
  | addStep rt tt dir lo hi => (TraversalStep.new rt tt dir lo hi).isOk
  | withDepthLimit d => decide (0 ≤ d)
  | includePaths => true

def step? : BuilderCall → Option TraversalStep
  | addStep rt tt dir lo hi => (TraversalStep.new rt tt dir lo hi).toOption
  | _ => none

def depthLimit? : BuilderCall → Option Int
  | withDepthLimit d => some d
  | _ => none

end BuilderCall

/-- What a successful call makes of the view of its receiver. -/
def Heap.View.after (v : View) (c : BuilderCall) : View :=
  ⟨v.startNodes, v.steps ++ c.step?.toList, c.depthLimit?.or v.maxTotalDepth,
    v.includePaths || decide (c = .includePaths)⟩

section Spec

variable {h : Heap} {self : Nat} {v : View}

theorem BuilderCall.apply_of_valid (hv : h.view self = some v) {c : BuilderCall}
    (hc : c.valid = true) :
    ∃ h', c.apply h self = .ok (h', h.length) ∧ h <+: h' ∧ h'.view h.length = some (v.after c) := by
  cases c with
  | addStep rt tt dir lo hi =>
    obtain ⟨st, hst⟩ : ∃ st, TraversalStep.new rt tt dir lo hi = .ok st := by
      revert hc
      simp only [valid, Except.isOk, Except.toBool]
      split <;> simp_all
    obtain ⟨h', heq, hp, hv'⟩ :=
      view_derive hv (show [Val.step st].mapM Val.step? = some [st] from rfl) id id
    refine ⟨h', by simpa [apply, GraphTraversal.addStep, hst] using heq, hp, ?_⟩
    simpa [View.after, step?, depthLimit?, hst, Except.toOption] using hv'
  | withDepthLimit d =>
    obtain ⟨h', heq, hp, hv'⟩ := view_derive hv (show [].mapM Val.step? = some [] from rfl)
      (fun _ => some d) id
    have hd : ¬ d < 0 := by simp [valid] at hc; omega
    refine ⟨h', by simpa [apply, GraphTraversal.withDepthLimit, hd] using heq, hp, ?_⟩
    simpa [View.after, step?, depthLimit?] using hv'
  | includePaths =>
    obtain ⟨h', heq, hp, hv'⟩ :=
      view_derive hv (show [].mapM Val.step? = some [] from rfl) id (fun _ => true)
    exact ⟨h', heq, hp, by simpa [View.after, step?, depthLimit?] using hv'⟩

/-- An invalid call raises before it reads or allocates anything. -/
theorem BuilderCall.apply_of_not_valid {c : BuilderCall} (hc : c.valid = false) :
    ∃ e, c.apply h self = .error e := by
  cases c with
  | addStep rt tt dir lo hi =>
    revert hc
    simp only [valid, apply, GraphTraversal.addStep, Except.isOk, Except.toBool]
    split <;> simp_all [bind, Except.bind]
  | withDepthLimit d =>
    have hd : d < 0 := by simp [valid] at hc; omega
    exact ⟨.valueError "Maximum depth must be non-negative",
      by simp [apply, GraphTraversal.withDepthLimit, hd]⟩
  | includePaths => cases hc

end Spec

/-- A client's session: the heap, and every traversal the client holds in the order it got them. -/
structure Session where
  heap : Heap
  traversals : List Nat

namespace Session

/-- The session that `create_traversal_from_nodes(nodes)` opens. -/
def start (h : Heap) (nodes : Val) : Session :=
  ⟨(createTraversalFromNodes h nodes).1, [(createTraversalFromNodes h nodes).2]⟩

/-- The call `c` on the `i`-th traversal held. A call that raises, or that names no traversal,
changes nothing. -/
def call (s : Session) : Nat × BuilderCall → Session
  | (i, c) => match s.traversals[i]? with
    | some self => match c.apply s.heap self with
      | .ok (h, t) => ⟨h, s.traversals ++ [t]⟩
      | .error _ => s
    | none => s

def run (s : Session) (calls : List (Nat × BuilderCall)) : Session := calls.foldl call s

end Session

/-- One call on the chains of the held traversals: a valid call on the `i`-th extends its chain. -/
def chainsCall (cs : List (List BuilderCall)) : Nat × BuilderCall → List (List BuilderCall)
  | (i, c) => match cs[i]? with
    | some ch => if c.valid then cs ++ [ch ++ [c]] else cs
    | none => cs

/-- The chain behind each traversal a session's calls produce, root first. -/
def chains (calls : List (Nat × BuilderCall)) : List (List BuilderCall) := calls.foldl chainsCall [[]]

/-- The view a traversal reached from `nodes` by the chain `ch` should have. -/
def chainView (nodes : Val) (ch : List BuilderCall) : View :=
  ⟨nodes, ch.filterMap BuilderCall.step?, (ch.filterMap BuilderCall.depthLimit?).getLast?,
    decide (BuilderCall.includePaths ∈ ch)⟩

theorem chainView_append_singleton (nodes : Val) (ch : List BuilderCall) (c : BuilderCall) :
    chainView nodes (ch ++ [c]) = (chainView nodes ch).after c := by
  cases hs : c.step? <;> cases hd : c.depthLimit? <;>
    simp [chainView, View.after, List.filterMap_append, List.filterMap_cons, hs, hd, eq_comm]

/-- The session holds exactly the traversals that the chains `cs` describe. -/
def Session.Realizes (nodes : Val) (s : Session) (cs : List (List BuilderCall)) : Prop :=
  s.traversals.map s.heap.view = cs.map fun ch => some (chainView nodes ch)

theorem Session.Realizes.mono {nodes : Val} {s : Session} {cs : List (List BuilderCall)}
    (hs : s.Realizes nodes cs) {h' : Heap} (hp : s.heap <+: h') :
    s.traversals.map h'.view = cs.map fun ch => some (chainView nodes ch) := by
  rw [← hs]
  refine List.map_congr_left fun t ht => ?_
  obtain ⟨ch, -, hch⟩ := List.mem_map.1 (hs ▸ List.mem_map_of_mem s.heap.view ht)
  exact (view_mono hp hch.symm).trans hch

theorem Session.Realizes.getElem? {nodes : Val} {s : Session} {cs : List (List BuilderCall)}
    (hs : s.Realizes nodes cs) (i : Nat) :
    s.traversals[i]?.map s.heap.view = cs[i]?.map fun ch => some (chainView nodes ch) := by
  simpa only [List.getElem?_map] using congrArg (·[i]?) hs

theorem Session.call_realizes {nodes : Val} {s : Session} {cs : List (List BuilderCall)}
    (hs : s.Realizes nodes cs) (ic : Nat × BuilderCall) :
    (s.call ic).Realizes nodes (chainsCall cs ic) ∧ s.heap <+: (s.call ic).heap := by
  obtain ⟨i, c⟩ := ic
  have hi := hs.getElem? i
  cases ht : s.traversals[i]? <;> cases hch : cs[i]? <;>
    simp only [ht, hch, Option.map_none', Option.map_some', reduceCtorEq, Option.some.injEq] at hi
  case none.none => simp [call, chainsCall, ht, hch, hs]
  case some.some self ch =>
    cases hv : c.valid with
    | true =>
      obtain ⟨h', happ, hp, hv'⟩ := BuilderCall.apply_of_valid hi hv
      refine ⟨?_, by simp [call, ht, happ, hp]⟩
      simp only [call, chainsCall, ht, hch, happ, hv, if_true, Realizes, List.map_append,
        hs.mono hp, List.map_singleton, hv', chainView_append_singleton]
    | false =>
      obtain ⟨e, happ⟩ : ∃ e, c.apply s.heap self = .error e := BuilderCall.apply_of_not_valid hv
      simp [call, chainsCall, ht, hch, happ, hv, hs]

theorem Session.run_realizes {nodes : Val} (calls : List (Nat × BuilderCall)) :
    ∀ {s : Session} {cs : List (List BuilderCall)}, s.Realizes nodes cs →
      (s.run calls).Realizes nodes (calls.foldl chainsCall cs) ∧ s.heap <+: (s.run calls).heap := by
  induction calls with
  | nil => exact fun hs => ⟨hs, List.prefix_refl _⟩
  | cons ic calls ih =>
    intro s cs hs
    obtain ⟨hs', hp⟩ := Session.call_realizes hs ic
    obtain ⟨hr, hp'⟩ := ih hs'
    exact ⟨hr, hp.trans hp'⟩

theorem Session.start_realizes (h : Heap) (nodes : Val) :
    (Session.start h nodes).Realizes nodes [[]] := by
  simp [Session.start, Realizes, createTraversalFromNodes, view_graphTraversal, chainView]

theorem valid_of_mem_foldl_chainsCall (calls : List (Nat × BuilderCall)) :
    ∀ {cs : List (List BuilderCall)}, (∀ ch ∈ cs, ∀ c ∈ ch, c.valid = true) →
      ∀ ch ∈ calls.foldl chainsCall cs, ∀ c ∈ ch, c.valid = true := by
  induction calls with
  | nil => exact fun h => h
  | cons ic calls ih =>
    intro cs hcs
    apply ih
    obtain ⟨i, c⟩ := ic
    simp only [chainsCall]
    split
    · split
      · simp only [List.forall_mem_append, List.forall_mem_singleton]
        exact ⟨hcs, hcs _ (List.getElem?_mem ‹_›), ‹_›⟩
      · exact hcs
    · exact hcs

end GraphModel.Querying
