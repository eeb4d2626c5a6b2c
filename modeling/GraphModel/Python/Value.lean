import Mathlib.Data.List.Basic
import Mathlib.Data.List.Nodup

/-!
# Python values, exceptions, insertion-ordered dicts and `str` methods

The codec reads a field value only to test it against `None`, to store it, or to hand it to
`json`. Values other than `None`, booleans, integers and strings (floats, lists, nested models)
are kept as opaque objects compared by value. A dict is its list of entries in insertion order;
`d[k] = v` rewrites an existing entry in place and appends a new one, as CPython does.
A `str` is a Lean `String`, read as its list of characters by `startswith`, `endswith` and
slicing.
-/
namespace GraphModel.Python

/-- A Python value as the serializers see it. -/
inductive PyValue where
  | none
  | bool (b : Bool)
  | int (n : Int)
  | str (s : String)
  /-- Any other object (a float, a list, a nested model), known only up to equality. -/
  | obj (tag : Nat)
  deriving DecidableEq, Repr

/-- The exceptions the modelled code can raise, with the argument Python gives them. -/
inductive PyError where
  | keyError (key : PyValue)
  | typeError (msg : String)
  | valueError (msg : String)
  | attributeError (name : String)
  | runtimeError (msg : String)
  | jsonDecodeError (doc : String)
  /-- The pydantic "Field required" failure for a field with no value and no default. -/
  | missingRequiredField (field : String)
  deriving DecidableEq, Repr

theorem bind_eq_ok {ε α β : Type} {x : Except ε α} {f : α → Except ε β} {b : β} :
    x >>= f = .ok b ↔ ∃ a, x = .ok a ∧ f a = .ok b := by
  cases x <;> simp [bind, Except.bind]

/-- A dict as its entries in insertion order; keys are pairwise distinct. -/
abbrev PyDict (κ ν : Type) := List (κ × ν)

namespace PyDict

variable {κ ν : Type} [DecidableEq κ]

/-- `d[k] = v`. -/
def setItem : PyDict κ ν → κ → ν → PyDict κ ν
  | [], k, v => [(k, v)]
  | (k', v') :: d, k, v => if k' = k then (k, v) :: d else (k', v') :: setItem d k v

/-- `k in d`. -/
def contains (d : PyDict κ ν) (k : κ) : Bool := (d.lookup k).isSome

/-- The dict built by `d[k] = v` for each entry of `kvs` in turn. -/
def insertAll (d : PyDict κ ν) (kvs : List (κ × ν)) : PyDict κ ν :=
  kvs.foldl (fun d kv => setItem d kv.1 kv.2) d

@[simp] theorem setItem_nil (k : κ) (v : ν) : setItem [] k v = [(k, v)] := rfl

@[simp] theorem lookup_cons_pair (d : PyDict κ ν) (k k' : κ) (v' : ν) :
    ((k', v') :: d).lookup k = if k = k' then some v' else d.lookup k := by
  cases h : k == k' <;> simp only [List.lookup_cons, h] <;> simp_all

theorem setItem_of_lookup_eq_none {d : PyDict κ ν} {k : κ} (v : ν) (h : d.lookup k = none) :
    setItem d k v = d ++ [(k, v)] := by
  induction d with
  | nil => rfl
  | cons e d ih =>
    obtain ⟨k', v'⟩ := e
    have hk : k' ≠ k := by rintro rfl; simp at h
    simp only [lookup_cons_pair, Ne.symm hk, if_false] at h
    simp [setItem, hk, ih h]

@[simp] theorem lookup_setItem_self (d : PyDict κ ν) (k : κ) (v : ν) :
    (setItem d k v).lookup k = some v := by
  induction d with
  | nil => simp
  | cons e d ih =>
    obtain ⟨k₀, v₀⟩ := e
    by_cases h : k₀ = k <;> simp [setItem, h, ih, Ne.symm]

theorem lookup_setItem_of_ne (d : PyDict κ ν) {k k' : κ} (v : ν) (h : k' ≠ k) :
    (setItem d k v).lookup k' = d.lookup k' := by
  induction d with
  | nil => simp [h]
  | cons e d ih =>
    obtain ⟨k₀, v₀⟩ := e
    by_cases h₀ : k₀ = k
    · subst h₀; simp [setItem, h]
    · simp [setItem, h₀, ih]

theorem keys_setItem_of_contains {d : PyDict κ ν} {k : κ} (v : ν) (h : contains d k) :
    (setItem d k v).map Prod.fst = d.map Prod.fst := by
  induction d with
  | nil => simp [contains] at h
  | cons e d ih =>
    obtain ⟨k₀, v₀⟩ := e
    by_cases h₀ : k₀ = k
    · subst h₀; simp [setItem]
    · have : contains d k := by simpa [contains, Ne.symm h₀] using h
      simp [setItem, h₀, ih this]

theorem contains_iff_mem_keys (d : PyDict κ ν) (k : κ) : contains d k ↔ k ∈ d.map Prod.fst := by
  induction d with
  | nil => simp [contains]
  | cons e d ih =>
    obtain ⟨k₀, v₀⟩ := e
    rw [contains] at ih ⊢
    by_cases h : k = k₀ <;> simp only [lookup_cons_pair, h, if_true, if_false, ih] <;> simp [h]

theorem insertAll_of_nodup {d : PyDict κ ν} {kvs : List (κ × ν)}
    (hfresh : ∀ kv ∈ kvs, d.lookup kv.1 = none) (hnd : (kvs.map Prod.fst).Nodup) :
    insertAll d kvs = d ++ kvs := by
  induction kvs generalizing d with
  | nil => simp [insertAll]
  | cons kv kvs ih =>
    simp only [List.map_cons, List.nodup_cons, List.mem_map] at hnd
    have hd : ∀ e ∈ kvs, (d ++ [kv]).lookup e.1 = none := by
      intro e he
      have hne : e.1 ≠ kv.1 := fun h => hnd.1 ⟨e, he, h⟩
      simp [List.lookup_append, hfresh e (List.mem_cons_of_mem _ he), hne]
    have := ih hd hnd.2
    simp only [insertAll, List.foldl_cons] at this ⊢
    rw [setItem_of_lookup_eq_none _ (hfresh kv (List.mem_cons_self _ _)), this]
    simp

/-- `d[k] = v` when there is an entry to write, nothing otherwise. -/
def insertOpt (d : PyDict κ ν) : Option (κ × ν) → PyDict κ ν
  | some kv => setItem d kv.1 kv.2
  | none => d

@[simp] theorem insertOpt_none (d : PyDict κ ν) : insertOpt d none = d := rfl

@[simp] theorem insertOpt_some (d : PyDict κ ν) (kv : κ × ν) :
    insertOpt d (some kv) = setItem d kv.1 kv.2 := rfl

theorem foldl_insertOpt {α : Type} (g : α → Option (κ × ν)) (xs : List α) (d : PyDict κ ν) :
    xs.foldl (fun d x => insertOpt d (g x)) d = insertAll d (xs.filterMap g) := by
  induction xs generalizing d with
  | nil => rfl
  | cons x xs ih =>
    cases h : g x <;> simp only [List.foldl_cons, List.filterMap_cons, h, insertOpt_none,
      insertOpt_some, ih]; rfl

theorem lookup_insertAll {d : PyDict κ ν} {kvs : List (κ × ν)} (hnd : (kvs.map Prod.fst).Nodup)
    (k : κ) : (insertAll d kvs).lookup k = (kvs.lookup k).or (d.lookup k) := by
  induction kvs generalizing d with
  | nil => simp [insertAll]
  | cons kv kvs ih =>
    obtain ⟨k₀, v₀⟩ := kv
    simp only [List.map_cons, List.nodup_cons, List.mem_map] at hnd
    have ih' := ih hnd.2 (d := setItem d k₀ v₀)
    simp only [insertAll, List.foldl_cons] at ih' ⊢
    rw [ih']
    by_cases hk : k = k₀
    · subst hk
      have : kvs.lookup k = none := by
        simp only [List.lookup_eq_none_iff, bne_iff_ne]
        exact fun p hp h => hnd.1 ⟨p, hp, h.symm⟩
      simp [this]
    · simp [hk, lookup_setItem_of_ne _ _ hk]

theorem lookup_setItem (d : PyDict κ ν) (k k' : κ) (v : ν) :
    (setItem d k v).lookup k' = ([(k, v)].lookup k').or (d.lookup k') := by
  by_cases h : k' = k
  · subst h
    simp
  · simp [h, lookup_setItem_of_ne _ _ h]

/-- The last write wins: after `d[k] = v` for each entry of `kvs`, a key holds the last value
written under it, or its old value if none was. -/
theorem lookup_insertAll_reverse (d : PyDict κ ν) (kvs : List (κ × ν)) (k : κ) :
    (insertAll d kvs).lookup k = (kvs.reverse.lookup k).or (d.lookup k) := by
  induction kvs generalizing d with
  | nil => simp [insertAll]
  | cons kv kvs ih =>
    rw [insertAll, List.foldl_cons, ← insertAll, ih, lookup_setItem, List.reverse_cons,
      List.lookup_append, Option.or_assoc]

theorem nodup_keys_setItem {d : PyDict κ ν} (hd : (d.map Prod.fst).Nodup) (k : κ) (v : ν) :
    ((setItem d k v).map Prod.fst).Nodup := by
  cases hk : contains d k
  · have hmem : k ∉ d.map Prod.fst := fun h => by
      simpa [hk] using (contains_iff_mem_keys d k).2 h
    rw [setItem_of_lookup_eq_none v (Option.not_isSome_iff_eq_none.1 (by rw [Bool.not_eq_true]; exact hk)),
      List.map_append, List.map_singleton, ← List.concat_eq_append]
    exact hd.concat hmem
  · rwa [keys_setItem_of_contains v hk]

theorem nodup_keys_insertAll {d : PyDict κ ν} (hd : (d.map Prod.fst).Nodup) (kvs : List (κ × ν)) :
    ((insertAll d kvs).map Prod.fst).Nodup := by
  induction kvs generalizing d with
  | nil => exact hd
  | cons kv kvs ih => exact ih (nodup_keys_setItem hd kv.1 kv.2)

theorem contains_setItem (d : PyDict κ ν) (k k' : κ) (v : ν) :
    contains (setItem d k v) k' = (decide (k' = k) || contains d k') := by
  by_cases h : k' = k
  · subst h
    simp [contains]
  · simp [contains, lookup_setItem_of_ne _ _ h, h]

theorem contains_insertAll {d : PyDict κ ν} {kvs : List (κ × ν)} {k : κ}
    (h : k ∈ kvs.map Prod.fst ∨ contains d k) : contains (insertAll d kvs) k := by
  induction kvs generalizing d with
  | nil => simpa using h
  | cons kv kvs ih =>
    apply ih
    simp only [List.map_cons, List.mem_cons] at h
    rcases h with (rfl | h) | h
    · exact .inr (by simp [contains_setItem])
    · exact .inl h
    · exact .inr (by simp [contains_setItem, h])

theorem forall_mem_setItem {P : κ × ν → Prop} {d : PyDict κ ν} (hd : ∀ kv ∈ d, P kv) {k : κ}
    {v : ν} (hk : P (k, v)) : ∀ kv ∈ setItem d k v, P kv := by
  induction d with
  | nil => simpa using hk
  | cons e d ih =>
    obtain ⟨k', v'⟩ := e
    simp only [List.forall_mem_cons] at hd
    simp only [setItem]
    split <;> simp only [List.forall_mem_cons]
    · exact ⟨hk, hd.2⟩
    · exact ⟨hd.1, ih hd.2⟩

theorem forall_mem_insertAll {P : κ × ν → Prop} {d : PyDict κ ν} (hd : ∀ kv ∈ d, P kv)
    {kvs : List (κ × ν)} (hkvs : ∀ kv ∈ kvs, P kv) : ∀ kv ∈ insertAll d kvs, P kv := by
  induction kvs generalizing d with
  | nil => exact hd
  | cons kv kvs ih =>
    simp only [List.forall_mem_cons] at hkvs
    exact ih (forall_mem_setItem hd hkvs.1) hkvs.2

theorem forall_insertAll {P : κ → Prop} {d : PyDict κ ν} (hd : ∀ kv ∈ d, P kv.1)
    {kvs : List (κ × ν)} (hkvs : ∀ kv ∈ kvs, P kv.1) : ∀ kv ∈ insertAll d kvs, P kv.1 :=
  forall_mem_insertAll (P := fun kv => P kv.1) hd hkvs

theorem setItem_append_cons {A B : PyDict κ ν} {k : κ} (v w : ν) (hA : A.lookup k = none) :
    setItem (A ++ (k, v) :: B) k w = A ++ (k, w) :: B := by
  induction A with
  | nil => simp [setItem]
  | cons e A ih =>
    obtain ⟨k₀, v₀⟩ := e
    have hk : k ≠ k₀ := by rintro rfl; simp at hA
    simp only [lookup_cons_pair, hk, if_false] at hA
    simp [setItem, Ne.symm hk, ih hA]

section Keyed

variable {α : Type} (g : α → Option (κ × ν))

omit [DecidableEq κ] in
theorem map_fst_filterMap_sublist (key : α → Option κ) {xs : List α}
    (hkey : ∀ x ∈ xs, ∀ kv, g x = some kv → key x = some kv.1) :
    ((xs.filterMap g).map Prod.fst).Sublist (xs.filterMap key) := by
  induction xs with
  | nil => simp
  | cons x xs ih =>
    have ih := ih fun y hy => hkey y (List.mem_cons_of_mem _ hy)
    cases h : g x with
    | none =>
      cases hk : key x with
      | none => simpa [List.filterMap_cons, h, hk] using ih
      | some k => simpa [List.filterMap_cons, h, hk] using ih.cons k
    | some kv =>
      simpa [List.filterMap_cons, h, hkey x (List.mem_cons_self _ _) kv h] using ih.cons₂ kv.1

variable (key : α → κ)

theorem lookup_filterMap_eq_none {xs : List α} (hkey : ∀ x ∈ xs, ∀ kv, g x = some kv → kv.1 = key x)
    {k : κ} (hk : k ∉ xs.map key) : (xs.filterMap g).lookup k = none := by
  simp only [List.lookup_eq_none_iff, bne_iff_ne]
  intro kv hkv hkeq
  obtain ⟨x, hx, hgx⟩ := List.mem_filterMap.1 hkv
  exact hk (List.mem_map.2 ⟨x, hx, (hkey x hx kv hgx).symm.trans hkeq.symm⟩)

theorem lookup_filterMap {xs : List α} (hkey : ∀ x ∈ xs, ∀ kv, g x = some kv → kv.1 = key x)
    (hnd : (xs.map key).Nodup) {x : α} (hx : x ∈ xs) :
    (xs.filterMap g).lookup (key x) = (g x).map Prod.snd := by
  induction xs with
  | nil => simp at hx
  | cons y ys ih =>
    simp only [List.map_cons, List.nodup_cons] at hnd
    have hys : ∀ z ∈ ys, ∀ kv, g z = some kv → kv.1 = key z :=
      fun z hz => hkey z (List.mem_cons_of_mem _ hz)
    have ih := ih hys hnd.2
    rcases List.mem_cons.1 hx with rfl | hy
    · cases h : g x with
      | none => simpa [List.filterMap_cons, h] using lookup_filterMap_eq_none g key hys hnd.1
      | some kv =>
        obtain ⟨k, v⟩ := kv
        simp [List.filterMap_cons, h, ← hkey x hx (k, v) h]
    · have hne : key x ≠ key y := fun h => hnd.1 (h ▸ List.mem_map_of_mem key hy)
      cases h : g y with
      | none => simpa [List.filterMap_cons, h] using ih hy
      | some kv =>
        obtain ⟨k, v⟩ := kv
        have hk : k = key y := hkey y (List.mem_cons_self _ _) (k, v) h
        subst hk
        simpa [List.filterMap_cons, h, hne] using ih hy

end Keyed

end PyDict

theorem filterMap_sublist_map {α β : Type} {g : α → Option β} (key : α → β) {xs : List α}
    (hg : ∀ x ∈ xs, ∀ b, g x = some b → b = key x) : (xs.filterMap g).Sublist (xs.map key) := by
  induction xs with
  | nil => simp
  | cons x xs ih =>
    have ih := ih fun y hy => hg y (List.mem_cons_of_mem _ hy)
    cases h : g x with
    | none => simpa [List.filterMap_cons, h] using ih.cons (key x)
    | some b => simpa [List.filterMap_cons, h, hg x (List.mem_cons_self _ _) b h] using ih.cons₂ (key x)

def startswith (s p : String) : Bool := p.toList.isPrefixOf s.toList

def endswith (s p : String) : Bool := p.toList.isSuffixOf s.toList

/-- CPython's normalisation of a slice bound for a sequence of length `n`: a negative bound
counts from the end, and both are clamped to `[0, n]`. -/
def sliceBound (n : Nat) (i : Int) : Nat := if i < 0 then (i + n).toNat else min i.toNat n

/-- `s[start:stop]`. -/
def slice (s : String) (start stop : Int) : String :=
  let lo := sliceBound s.length start
  let hi := sliceBound s.length stop
  ⟨(s.toList.drop lo).take (hi - lo)⟩

theorem startswith_iff (s p : String) : startswith s p ↔ p.toList <+: s.toList := by
  simp [startswith, List.isPrefixOf_iff_prefix]

theorem endswith_iff (s p : String) : endswith s p ↔ p.toList <:+ s.toList := by
  simp [endswith, List.isSuffixOf_iff_suffix]

theorem slice_eq (s : String) (start stop : Int) :
    (slice s start stop).toList = (s.toList.drop (sliceBound s.length start)).take
      (sliceBound s.length stop - sliceBound s.length start) := rfl

end GraphModel.Python
