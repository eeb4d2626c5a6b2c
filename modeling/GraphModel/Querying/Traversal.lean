import GraphModel.Python.Value

/-!
# Traversal steps, paths and the immutable traversal builders

`TraversalStep` and `TraversalPath` are frozen dataclasses whose `__post_init__` rejects bad
depths and malformed paths, so here they are structures that carry those checks as fields, built
only through the validating constructor. A `GraphTraversal` is a mutable object: its `_steps`
attribute refers to a list that lives on the heap like any other. The builders `add_step`,
`with_depth_limit` and `include_paths` allocate a new instance and a new list and only write to
those, and the heap below is fine-grained enough to see it: it holds every list and traversal
object the builders touch, and a builder that appended to its receiver's list would show up as
a change to an existing heap cell.
-/
namespace GraphModel.Querying

open GraphModel.Python

inductive TraversalDirection where
  | outgoing
  | incoming
  | both
  deriving DecidableEq, Repr

/-- A validated `TraversalStep`. The relationship and node types are classes, named here by
their qualified names. -/
structure TraversalStep where
  relationshipType : String
  targetNodeType : String
  direction : TraversalDirection
  minDepth : Int
  maxDepth : Int
  minDepth_nonneg : 0 ≤ minDepth
  minDepth_le_maxDepth : minDepth ≤ maxDepth
  deriving DecidableEq

/-- `TraversalStep(...)` with its dataclass defaults, running `__post_init__`. -/
def TraversalStep.new (relationshipType targetNodeType : String)
    (direction : TraversalDirection := .outgoing) (minDepth : Int := 1) (maxDepth : Int := 1) :
    Except PyError TraversalStep :=
  if h₁ : minDepth < 0 then .error (.valueError "Minimum depth must be non-negative")
  else if h₂ : maxDepth < minDepth then
    .error (.valueError "Maximum depth must be greater than or equal to minimum depth")
  else .ok ⟨relationshipType, targetNodeType, direction, minDepth, maxDepth, by omega, by omega⟩

theorem TraversalStep.new_eq_ok {rt tt : String} {dir : TraversalDirection} {lo hi : Int}
    {s : TraversalStep} :
    TraversalStep.new rt tt dir lo hi = .ok s ↔
      s.relationshipType = rt ∧ s.targetNodeType = tt ∧ s.direction = dir ∧
        s.minDepth = lo ∧ s.maxDepth = hi := by
  unfold TraversalStep.new
  constructor
  · split_ifs <;> rintro ⟨⟩; exact ⟨rfl, rfl, rfl, rfl, rfl⟩
  · rintro ⟨rfl, rfl, rfl, rfl, rfl⟩
    rw [dif_neg (by have := s.minDepth_nonneg; omega),
      dif_neg (by have := s.minDepth_le_maxDepth; omega)]

/-- The defaults `direction=OUTGOING, min_depth=1, max_depth=1` pass the checks. -/
theorem TraversalStep.new_defaults (rt tt : String) :
    (TraversalStep.new rt tt).isOk = true := by
  simp [TraversalStep.new, Except.isOk, Except.toBool]

/-- A validated `TraversalPath` of nodes of type `N` and relationships of type `R`. -/
structure TraversalPath (N R : Type) where
  nodes : List N
  relationships : List R
  nodes_ne_nil : nodes ≠ []
  length_relationships : relationships.length = nodes.length - 1

/-- `TraversalPath(nodes, relationships)`, running `__post_init__`. -/
def TraversalPath.new {N R : Type} (nodes : List N) (relationships : List R) :
    Except PyError (TraversalPath N R) :=
  if h₁ : nodes.length = 0 then .error (.valueError "Path must contain at least one node")
  else if h₂ : relationships.length ≠ nodes.length - 1 then
    .error (.valueError "Path must have exactly one fewer relationship than nodes")
  else .ok ⟨nodes, relationships, by simpa using h₁, not_not.1 h₂⟩

/-- A value held in a variable or a list slot: a reference to a heap object, or a step, which is
frozen and so can be held by value. -/
inductive Val where
  | ref (r : Nat)
  | step (s : TraversalStep)
  deriving DecidableEq

def Val.step? : Val → Option TraversalStep
  | .step s => some s
  | .ref _ => none

/-- The four attributes `GraphTraversal.__init__` sets. -/
structure TraversalAttrs where
  startNodes : Val
  steps : Val
  maxTotalDepth : Option Int
  includePaths : Bool
  deriving DecidableEq

/-- A heap object: a Python list, or a `GraphTraversal` instance. -/
inductive Obj where
  | list (items : List Val)
  | traversal (attrs : TraversalAttrs)
  deriving DecidableEq

/-- The heap: object `r` is the `r`-th allocated, and allocation appends. -/
abbrev Heap := List Obj

namespace Heap

def attrs? (h : Heap) (r : Nat) : Option TraversalAttrs :=
  match h[r]? with
  | some (.traversal a) => some a
  | _ => none

def items? (h : Heap) : Val → Option (List Val)
  | .ref r => match h[r]? with
    | some (.list xs) => some xs
    | _ => none
  | .step _ => none

def alloc (h : Heap) (o : Obj) : Heap × Nat := (h ++ [o], h.length)

def setAttrs (h : Heap) (r : Nat) (f : TraversalAttrs → TraversalAttrs) : Heap :=
  h.modify (fun | .traversal a => .traversal (f a) | o => o) r

/-- What a traversal holds once its references are followed: the start-node value, the steps in
its `_steps` list, `_max_total_depth` and `_include_paths`. -/
structure View where
  startNodes : Val
  steps : List TraversalStep
  maxTotalDepth : Option Int
  includePaths : Bool
  deriving DecidableEq

/-- The view of the traversal at `r`, if `r` is a traversal whose `_steps` is a list of steps. -/
def view (h : Heap) (r : Nat) : Option View := do
  let a ← h.attrs? r
  let items ← h.items? a.steps
  let steps ← items.mapM Val.step?
  pure ⟨a.startNodes, steps, a.maxTotalDepth, a.includePaths⟩

variable {h h' : Heap} {r : Nat}

theorem getElem?_mono (hp : h <+: h') {o : Obj} (hr : h[r]? = some o) : h'[r]? = some o := by
  obtain ⟨t, rfl⟩ := hp
  rwa [List.getElem?_append_left (List.getElem?_eq_some_iff.1 hr).1]

theorem attrs?_eq_some {a : TraversalAttrs} : h.attrs? r = some a ↔ h[r]? = some (.traversal a) := by
  unfold attrs?
  split <;> simp_all

theorem items?_eq_some {v : Val} {xs : List Val} :
    h.items? v = some xs ↔ ∃ r, v = .ref r ∧ h[r]? = some (.list xs) := by
  cases v with
  | step => simp [items?]
  | ref r =>
    cases hr : h[r]? with
    | none => simp [items?, hr]
    | some o => cases o <;> simp [items?, hr]

theorem attrs?_mono (hp : h <+: h') {a : TraversalAttrs} (ha : h.attrs? r = some a) :
    h'.attrs? r = some a :=
  attrs?_eq_some.2 (getElem?_mono hp (attrs?_eq_some.1 ha))

theorem items?_mono (hp : h <+: h') {v : Val} {xs : List Val} (hx : h.items? v = some xs) :
    h'.items? v = some xs := by
  obtain ⟨r, rfl, hr⟩ := items?_eq_some.1 hx
  exact items?_eq_some.2 ⟨r, rfl, getElem?_mono hp hr⟩

theorem view_eq_some (a : TraversalAttrs) (xs : List Val) {steps : List TraversalStep}
    (ha : h.attrs? r = some a) (hx : h.items? a.steps = some xs)
    (hs : xs.mapM Val.step? = some steps) :
    h.view r = some ⟨a.startNodes, steps, a.maxTotalDepth, a.includePaths⟩ := by
  simp only [view, Option.bind_eq_bind, ha, hx, hs, Option.some_bind]
  rfl

theorem view_mono (hp : h <+: h') {v : View} (hv : h.view r = some v) : h'.view r = some v := by
  simp only [view, Option.bind_eq_bind, Option.bind_eq_some] at hv ⊢
  obtain ⟨a, ha, xs, hx, rest⟩ := hv
  exact ⟨a, attrs?_mono hp ha, xs, items?_mono hp hx, rest⟩

theorem setAttrs_append (h rest : Heap) (a : TraversalAttrs) (f : TraversalAttrs → TraversalAttrs) :
    (h ++ .traversal a :: rest).setAttrs h.length f = h ++ .traversal (f a) :: rest := by
  induction h with
  | nil => rfl
  | cons o h ih => simpa [setAttrs, List.modify_succ_cons] using ih

end Heap

open Heap

/-- `GraphTraversal(start_nodes)`: the instance, then the empty list its `__init__` assigns to
`_steps`. -/
def graphTraversal (h : Heap) (startNodes : Val) : Heap × Nat :=
  (h ++ [.traversal ⟨startNodes, .ref (h.length + 1), none, false⟩, .list []], h.length)

theorem view_graphTraversal (h : Heap) (startNodes : Val) :
    (graphTraversal h startNodes).1.view (graphTraversal h startNodes).2 =
      some ⟨startNodes, [], none, false⟩ := by
  refine view_eq_some ⟨startNodes, .ref (h.length + 1), none, false⟩ []
    ?_ (items?_eq_some.2 ⟨h.length + 1, rfl, ?_⟩) rfl
  · rw [attrs?_eq_some, graphTraversal, List.getElem?_append_right (Nat.le_refl _), Nat.sub_self]; rfl
  · rw [graphTraversal, List.getElem?_append_right (by omega), Nat.add_sub_cancel_left]; rfl

/-- `create_traversal_from_nodes(nodes)`. -/
def createTraversalFromNodes (h : Heap) (nodes : Val) : Heap × Nat := graphTraversal h nodes

/-- The body the three builders share: `new_traversal = GraphTraversal(self._start_nodes)`, then
`new_traversal._steps` set to a new list with the receiver's steps followed by `extra`, and the
other two attributes computed from the receiver's. A receiver that is not a traversal whose
`_steps` is a list raises `AttributeError`. -/
def GraphTraversal.derive (h : Heap) (self : Nat) (extra : List Val)
    (maxTotalDepth : Option Int → Option Int) (includePaths : Bool → Bool) :
    Except PyError (Heap × Nat) := do
  let some me := h.attrs? self | throw (.attributeError "_start_nodes")
  let (h, newTraversal) := graphTraversal h me.startNodes
  let some steps := h.items? me.steps | throw (.attributeError "_steps")
  let (h, stepsList) := h.alloc (.list (steps ++ extra))
  let h := h.setAttrs newTraversal fun a => { a with steps := .ref stepsList }
  let h := h.setAttrs newTraversal fun a => { a with maxTotalDepth := maxTotalDepth me.maxTotalDepth }
  let h := h.setAttrs newTraversal fun a => { a with includePaths := includePaths me.includePaths }
  pure (h, newTraversal)

/-- `add_step`: the step is built (and validated) first, then `_steps = self._steps + [step]`. -/
def GraphTraversal.addStep (h : Heap) (self : Nat) (relationshipType targetNodeType : String)
    (direction : TraversalDirection := .outgoing) (minDepth : Int := 1) (maxDepth : Int := 1) :
    Except PyError (Heap × Nat) := do
  let step ← TraversalStep.new relationshipType targetNodeType direction minDepth maxDepth
  GraphTraversal.derive h self [.step step] id id

/-- `with_depth_limit`: `_steps = self._steps.copy()`, `_max_total_depth = max_total_depth`. -/
def GraphTraversal.withDepthLimit (h : Heap) (self : Nat) (maxTotalDepth : Int) :
    Except PyError (Heap × Nat) :=
  if maxTotalDepth < 0 then .error (.valueError "Maximum depth must be non-negative")
  else GraphTraversal.derive h self [] (fun _ => some maxTotalDepth) id

/-- `include_paths`: `_steps = self._steps.copy()`, `_include_paths = True`. -/
def GraphTraversal.includePaths (h : Heap) (self : Nat) : Except PyError (Heap × Nat) :=
  GraphTraversal.derive h self [] id (fun _ => true)

section Derive

variable {h : Heap} {self : Nat} {v : View}

theorem attrs?_items?_of_view (hv : h.view self = some v) :
    ∃ a xs, h.attrs? self = some a ∧ h.items? a.steps = some xs ∧ xs.mapM Val.step? = some v.steps ∧
      v = ⟨a.startNodes, v.steps, a.maxTotalDepth, a.includePaths⟩ := by
  simp only [view, Option.bind_eq_bind, Option.bind_eq_some, Option.pure_def, Option.some.injEq] at hv
  obtain ⟨a, ha, xs, hx, steps, hs, rfl⟩ := hv
  exact ⟨a, xs, ha, hx, hs, rfl⟩

/-- The shared builder body on a well-formed receiver: three new objects at the end of the heap,
the new traversal first, its `__init__` list second (left unreferenced), its steps list third. -/
theorem derive_eq {a : TraversalAttrs} {xs : List Val} (ha : h.attrs? self = some a)
    (hx : h.items? a.steps = some xs) (extra : List Val) (fm : Option Int → Option Int)
    (fi : Bool → Bool) :
    GraphTraversal.derive h self extra fm fi =
      .ok (h ++ [.traversal ⟨a.startNodes, .ref (h.length + 2), fm a.maxTotalDepth,
        fi a.includePaths⟩, .list [], .list (xs ++ extra)], h.length) := by
  have hx' := items?_mono (List.prefix_append h
    [.traversal ⟨a.startNodes, .ref (h.length + 1), none, false⟩, .list []]) hx
  simp only [GraphTraversal.derive, ha, graphTraversal, hx', alloc, List.append_assoc,
    List.singleton_append, List.cons_append, setAttrs_append, List.length_append,
    List.length_cons, List.length_singleton]
  rfl

theorem view_derive (hv : h.view self = some v) {extra : List Val} {ex : List TraversalStep}
    (hex : extra.mapM Val.step? = some ex) (fm : Option Int → Option Int) (fi : Bool → Bool) :
    ∃ h', GraphTraversal.derive h self extra fm fi = .ok (h', h.length) ∧ h <+: h' ∧
      h'.view h.length = some ⟨v.startNodes, v.steps ++ ex, fm v.maxTotalDepth, fi v.includePaths⟩ := by
  obtain ⟨a, xs, ha, hx, hs, hva⟩ := attrs?_items?_of_view hv
  refine ⟨_, derive_eq ha hx extra fm fi, List.prefix_append _ _, ?_⟩
  rw [hva]
  refine view_eq_some ⟨a.startNodes, .ref (h.length + 2), fm a.maxTotalDepth, fi a.includePaths⟩
    (xs ++ extra) ?_ (items?_eq_some.2 ⟨h.length + 2, rfl, ?_⟩) ?_
  · rw [attrs?_eq_some, List.getElem?_append_right (Nat.le_refl _), Nat.sub_self]; rfl
  · rw [List.getElem?_append_right (by omega), Nat.add_sub_cancel_left]; rfl
  · rw [List.mapM_append, hs, hex]; rfl

end Derive

end GraphModel.Querying
