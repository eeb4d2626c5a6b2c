import Mathlib.Data.List.Nodup
import GraphModel.Querying.Session

/-!
# Held traversals share no mutable state

A `GraphTraversal` is immutable only by convention: `_steps` is a plain Python list, and a client
may append to it. The builders still keep traversals apart, because each one builds its new
`_steps` as a new list (`self._steps + [step]`, `self._steps.copy()`) and never hands on the
receiver's. Through a whole session, every traversal the client holds is a distinct object
created during the session, its `_steps` list is one too, and no two of these objects coincide.
So a write to the `_steps` list of one held traversal changes the view of no other held
traversal, and no object that existed before the session.
-/
namespace GraphModel.Querying

open GraphModel.Python Heap

def Val.ref? : Val → Option Nat
  | .ref r => some r
  | .step _ => none

namespace Heap

/-- The object the `_steps` attribute of the traversal at `t` refers to. -/
def stepsRef? (h : Heap) (t : Nat) : Option Nat := (h.attrs? t).bind fun a => a.steps.ref?

variable {h h' : Heap} {t r : Nat}

theorem stepsRef?_mono (hp : h <+: h') (hr : h.stepsRef? t = some r) : h'.stepsRef? t = some r := by
  obtain ⟨a, ha, hr⟩ := Option.bind_eq_some.1 hr
  exact Option.bind_eq_some.2 ⟨a, attrs?_mono hp ha, hr⟩

theorem stepsRef?_append_traversal (a : TraversalAttrs) (rest : Heap) :
    (h ++ .traversal a :: rest).stepsRef? h.length = a.steps.ref? := by
  rw [stepsRef?, attrs?, List.getElem?_append_right (Nat.le_refl _), Nat.sub_self,
    List.getElem?_cons_zero]
  rfl

/-- A view reads two cells, the traversal's and its `_steps` list's: a write to any other cell
leaves it as it was. -/
theorem view_set_of_ne (hr : h.stepsRef? t = some r) {w : Nat} (hwt : w ≠ t) (hwr : w ≠ r)
    (o : Obj) : Heap.view (h.set w o) t = h.view t := by
  obtain ⟨a, ha, hr⟩ := Option.bind_eq_some.1 hr
  have hsteps : a.steps = .ref r := by
    cases hs : a.steps <;> simp_all [Val.ref?]
  have ha' : Heap.attrs? (h.set w o) t = some a := by
    rwa [attrs?, List.getElem?_set_ne hwt, ← attrs?]
  have hx : Heap.items? (h.set w o) a.steps = h.items? a.steps := by
    rw [hsteps, items?, items?, List.getElem?_set_ne hwr]
  simp only [view, ha, ha', Option.bind_eq_bind, Option.some_bind, hx]

end Heap

namespace Session

/-- Every held traversal, each followed by the list its `_steps` refers to. -/
def objects (s : Session) : List Nat :=
  s.traversals.flatMap fun t => t :: (s.heap.stepsRef? t).toList

/-- How the objects of a session opened on the heap `h₀` lie in its heap. -/
structure Separated (h₀ : Heap) (s : Session) : Prop where
  /-- Every held traversal's `_steps` refers to a heap object. -/
  stepsRef : ∀ t ∈ s.traversals, (s.heap.stepsRef? t).isSome
  /-- No object is held twice, as a traversal or as a `_steps` list. -/
  nodup : s.objects.Nodup
  /-- Every such object was allocated during the session. -/
  fresh : ∀ r ∈ s.objects, h₀.length ≤ r ∧ r < s.heap.length
  /-- The heap has grown from the one the session was opened on. -/
  heap_length : h₀.length ≤ s.heap.length

variable {s : Session} {h₀ : Heap}

theorem start_separated (h : Heap) (nodes : Val) : (start h nodes).Separated h := by
  constructor <;>
    simp [objects, start, createTraversalFromNodes, graphTraversal, stepsRef?_append_traversal, Val.ref?]

end Session

theorem BuilderCall.apply_eq_ok_append {h h' : Heap} {self t : Nat} {v : View}
    (hv : h.view self = some v) {c : BuilderCall} (happ : c.apply h self = .ok (h', t)) :
    t = h.length ∧ ∃ a o, h' = h ++ [.traversal a, .list [], o] ∧ a.steps = .ref (h.length + 2) := by
  obtain ⟨a, xs, ha, hx, -, -⟩ := attrs?_items?_of_view hv
  have hderive : ∀ extra fm fi, GraphTraversal.derive h self extra fm fi = .ok (h', t) →
      t = h.length ∧ ∃ a o, h' = h ++ [.traversal a, .list [], o] ∧ a.steps = .ref (h.length + 2) := by
    intro extra fm fi hd
    rw [derive_eq ha hx, Except.ok.injEq, Prod.mk.injEq] at hd
    obtain ⟨rfl, rfl⟩ := hd
    exact ⟨rfl, _, _, rfl, rfl⟩
  cases c with
  | addStep rt tt dir lo hi =>
    obtain ⟨_, _, hd⟩ := bind_eq_ok.1 happ
    exact hderive _ _ _ hd
  | withDepthLimit d =>
    rw [BuilderCall.apply, GraphTraversal.withDepthLimit] at happ
    split at happ
    · cases happ
    · exact hderive _ _ _ happ
  | includePaths =>
    rw [BuilderCall.apply, GraphTraversal.includePaths] at happ
    exact hderive _ _ _ happ

namespace Session

variable {s : Session} {h₀ : Heap}

theorem Realizes.view_isSome {nodes : Val} {cs : List (List BuilderCall)} (hs : s.Realizes nodes cs)
    {t : Nat} (ht : t ∈ s.traversals) : (s.heap.view t).isSome := by
  have hmem := List.mem_map_of_mem s.heap.view ht
  rw [hs] at hmem
  obtain ⟨ch, -, hch⟩ := List.mem_map.1 hmem
  rw [← hch]
  rfl

theorem Separated.stepsRef?_append (hsep : s.Separated h₀) (rest : Heap) {t : Nat}
    (ht : t ∈ s.traversals) : Heap.stepsRef? (s.heap ++ rest) t = s.heap.stepsRef? t := by
  obtain ⟨r, hr⟩ := Option.isSome_iff_exists.1 (hsep.stepsRef t ht)
  rw [hr, stepsRef?_mono (List.prefix_append _ _) hr]

theorem objects_append (hsep : s.Separated h₀) {a : TraversalAttrs} {o : Obj}
    (ha : a.steps = .ref (s.heap.length + 2)) :
    objects ⟨s.heap ++ [.traversal a, .list [], o], s.traversals ++ [s.heap.length]⟩ =
      s.objects ++ [s.heap.length, s.heap.length + 2] := by
  simp only [objects, List.flatMap_append,
    List.flatMap_congr fun t ht =>
      congrArg (t :: ·.toList) (hsep.stepsRef?_append [.traversal a, .list [], o] ht),
    List.flatMap_singleton, stepsRef?_append_traversal, ha, Val.ref?, Option.toList_some]

theorem call_separated {nodes : Val} {cs : List (List BuilderCall)} (hs : s.Realizes nodes cs)
    (hsep : s.Separated h₀) (ic : Nat × BuilderCall) : (s.call ic).Separated h₀ := by
  obtain ⟨i, c⟩ := ic
  cases ht : s.traversals[i]? with
  | none => simpa [call, ht] using hsep
  | some self =>
    cases happ : c.apply s.heap self with
    | error => simpa [call, ht, happ] using hsep
    | ok r =>
      obtain ⟨h', t⟩ := r
      simp only [call, ht, happ]
      obtain ⟨v, hv⟩ := Option.isSome_iff_exists.1 (hs.view_isSome (List.getElem?_mem ht))
      obtain ⟨rfl, a, o, rfl, ha⟩ := BuilderCall.apply_eq_ok_append hv happ
      have hlen := hsep.heap_length
      refine ⟨?_, ?_, ?_, ?_⟩
      · simp only [List.mem_append, List.mem_singleton]
        rintro t (ht | rfl)
        · rw [hsep.stepsRef?_append _ ht]
          exact hsep.stepsRef t ht
        · rw [stepsRef?_append_traversal, ha]
          rfl
      · rw [objects_append hsep ha, List.nodup_append]
        refine ⟨hsep.nodup, by simp, fun r hr hr' => ?_⟩
        have := (hsep.fresh r hr).2
        simp only [List.mem_cons, List.mem_singleton, List.not_mem_nil, or_false] at hr'
        omega
      · rw [objects_append hsep ha]
        simp only [List.mem_append, List.mem_cons, List.mem_singleton, List.not_mem_nil, or_false,
          List.length_append, List.length_cons, List.length_nil]
        rintro r (hr | rfl | rfl)
        · have := hsep.fresh r hr
          omega
        all_goals omega
      · simp only [List.length_append, List.length_cons, List.length_nil]
        omega

theorem run_separated (calls : List (Nat × BuilderCall)) :
    ∀ {s : Session} {nodes : Val} {cs : List (List BuilderCall)}, s.Realizes nodes cs →
      s.Separated h₀ → (s.run calls).Separated h₀ := by
  induction calls with
  | nil => exact fun _ hsep => hsep
  | cons ic calls ih =>
    exact fun hs hsep => ih (call_realizes hs ic).1 (call_separated hs hsep ic)

/-- Through a whole session, every traversal the client holds is a distinct object allocated
during the session, its `_steps` refers to a list allocated during the session, and no two of
these traversals and lists are the same object. -/
theorem run_start_separated (h : Heap) (nodes : Val) (calls : List (Nat × BuilderCall)) :
    ((start h nodes).run calls).Separated h :=
  run_separated calls (start_realizes h nodes) (start_separated h nodes)

theorem Separated.disjoint (hsep : s.Separated h₀) {i j t t' : Nat} (hij : i ≠ j)
    (ht : s.traversals[i]? = some t) (ht' : s.traversals[j]? = some t') :
    List.Disjoint (t :: (s.heap.stepsRef? t).toList) (t' :: (s.heap.stepsRef? t').toList) := by
  have hpair := List.pairwise_iff_getElem.1 (List.nodup_flatMap.1 hsep.nodup).2
  obtain ⟨hi, rfl⟩ := List.getElem?_eq_some_iff.1 ht
  obtain ⟨hj, rfl⟩ := List.getElem?_eq_some_iff.1 ht'
  rcases Nat.lt_or_gt_of_ne hij with hlt | hlt
  · exact hpair i j hi hj hlt
  · exact fun _ ha hb => hpair j i hj hi hlt hb ha

/-- A write to the `_steps` list of one held traversal, such as a client's `append`, leaves the
view of every other held traversal as it was, and every object that existed before the session. -/
theorem run_start_view_set_steps (h : Heap) (nodes : Val) (calls : List (Nat × BuilderCall))
    {i j t t' r : Nat} (hij : i ≠ j) (ht : ((start h nodes).run calls).traversals[i]? = some t)
    (ht' : ((start h nodes).run calls).traversals[j]? = some t')
    (hr : ((start h nodes).run calls).heap.stepsRef? t = some r) (o : Obj) :
    Heap.view (((start h nodes).run calls).heap.set r o) t' =
        ((start h nodes).run calls).heap.view t' ∧
      (((start h nodes).run calls).heap.set r o).take h.length = h := by
  have hsep := run_separated calls (start_realizes h nodes) (start_separated h nodes)
  obtain ⟨r', hr'⟩ := Option.isSome_iff_exists.1 (hsep.stepsRef t' (List.getElem?_mem ht'))
  have hdis := hsep.disjoint hij ht ht'
  rw [hr, hr'] at hdis
  have hfresh := (hsep.fresh r (List.mem_flatMap.2 ⟨t, List.getElem?_mem ht, by simp [hr]⟩)).1
  have hmem : r ∈ t :: (some r).toList := by simp
  refine ⟨view_set_of_ne hr' (fun e => hdis hmem (by simp [e])) (fun e => hdis hmem (by simp [e])) o, ?_⟩
  obtain ⟨rest, hrest⟩ := (List.prefix_append h _).trans
    (run_realizes calls (start_realizes h nodes)).2
  rw [← hrest, List.set_append_right _ _ hfresh, List.take_left]

theorem run_start_view_set_steps_includePaths :
    (0 : Nat) ≠ 1 ∧ ((start [.list []] (.ref 0)).run [(0, .includePaths)]).traversals[0]? = some 1 ∧
      ((start [.list []] (.ref 0)).run [(0, .includePaths)]).traversals[1]? = some 3 ∧
      ((start [.list []] (.ref 0)).run [(0, .includePaths)]).heap.stepsRef? 1 = some 2 ∧
      (Heap.view (((start [.list []] (.ref 0)).run [(0, .includePaths)]).heap.set 2 (.list [])) 3 =
          ((start [.list []] (.ref 0)).run [(0, .includePaths)]).heap.view 3 ∧
        (((start [.list []] (.ref 0)).run [(0, .includePaths)]).heap.set 2 (.list [])).take 1 =
          [.list []]) :=
  ⟨by decide, by decide, by decide, by decide,
    @run_start_view_set_steps _ _ _ 0 1 1 3 2 (by decide) (by decide) (by decide) (by decide) _⟩

end Session

end GraphModel.Querying
