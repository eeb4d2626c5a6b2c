import Mathlib.Data.List.Basic

/-!
# The simple/complex classifier of declared field types

A declared type is what `get_origin`/`get_args` see: a class, or a subscripted generic with an
origin and its arguments. `is_simple_type` accepts the eight scalar classes and then recurses
into the single argument of a `list`, `tuple` or `set` application. So a collection nested to any
depth around a scalar counts as simple, while a `Union` (hence `Optional[...]`) is never looked
through: `Optional[int]` is complex.
-/
namespace GraphModel.Core.GraphDataModel

/-- A declared type expression. -/
inductive PyType where
  /-- A class, by qualified name: `str`, `datetime.date`, `NoneType`, a model class. -/
  | cls (name : String)
  /-- A subscripted generic: `get_origin` returns `origin`, `get_args` returns `args`. -/
  | app (origin : String) (args : List PyType)

/-- `Optional[t]`, that is `Union[t, None]`. -/
def PyType.optional (t : PyType) : PyType := .app "typing.Union" [t, .cls "NoneType"]

/-- The classes of the first membership test, `(str, int, float, bool, bytes)`. -/
def basicTypes : List String := ["str", "int", "float", "bool", "bytes"]

/-- The classes of the second membership test, `(datetime, date, time)`. -/
def datetimeTypes : List String := ["datetime.datetime", "datetime.date", "datetime.time"]

/-- The origins `is_simple_type` recurses through, `(list, tuple, set)`. -/
def collectionOrigins : List String := ["list", "tuple", "set"]

def isSimpleType : PyType → Bool
  | .cls c => basicTypes.contains c || datetimeTypes.contains c
  | .app o [a] => collectionOrigins.contains o && isSimpleType a
  | .app _ _ => false

def isComplexType (t : PyType) : Bool := !isSimpleType t

def isCollectionOfSimple : PyType → Bool
  | .app o [a] => collectionOrigins.contains o && isSimpleType a
  | _ => false

def isCollectionOfComplex : PyType → Bool
  | .app o [a] => collectionOrigins.contains o && isComplexType a
  | _ => false

/-- `t` wrapped in one-argument applications of the origins `cs`, outermost first. -/
def wrapCollections (cs : List String) (t : PyType) : PyType :=
  cs.foldr (fun o t => .app o [t]) t

@[simp] theorem isSimpleType_optional (t : PyType) : isSimpleType t.optional = false := rfl

theorem isSimpleType_wrapCollections {cs : List String} (hcs : ∀ o ∈ cs, o ∈ collectionOrigins)
    (t : PyType) : isSimpleType (wrapCollections cs t) = isSimpleType t := by
  induction cs with
  | nil => rfl
  | cons o cs ih =>
    simp only [List.forall_mem_cons] at hcs
    simp [wrapCollections, isSimpleType, hcs.1, ← ih hcs.2]

theorem exists_wrapCollections_of_isSimpleType :
    ∀ t, isSimpleType t = true → ∃ cs c, (∀ o ∈ cs, o ∈ collectionOrigins) ∧
      (c ∈ basicTypes ∨ c ∈ datetimeTypes) ∧ t = wrapCollections cs (.cls c)
  | .cls c, h => ⟨[], c, by simp, by simpa [isSimpleType] using h, rfl⟩
  | .app o [a], h => by
    simp only [isSimpleType, Bool.and_eq_true, List.elem_iff, List.contains] at h
    obtain ⟨cs, c, hcs, hc, rfl⟩ := exists_wrapCollections_of_isSimpleType a h.2
    exact ⟨o :: cs, c, List.forall_mem_cons.2 ⟨h.1, hcs⟩, hc, rfl⟩
  | .app _ [], h | .app _ (_ :: _ :: _), h => by simp [isSimpleType] at h

/-- What `is_simple_type` accepts: a scalar class under any number of one-argument
`list`/`tuple`/`set` applications, and no `Optional` type at all. -/
theorem isSimpleType_iff_wrapCollections :
    (∀ t, isSimpleType t = true ↔ ∃ cs c, (∀ o ∈ cs, o ∈ collectionOrigins) ∧
      (c ∈ basicTypes ∨ c ∈ datetimeTypes) ∧ t = wrapCollections cs (.cls c)) ∧
    ∀ u : PyType, isSimpleType u.optional = false := by
  refine ⟨fun t => ⟨exists_wrapCollections_of_isSimpleType t, ?_⟩, isSimpleType_optional⟩
  rintro ⟨cs, c, hcs, hc, rfl⟩
  rw [isSimpleType_wrapCollections hcs]
  simpa [isSimpleType] using hc

/-- A class of the two membership tests. -/
def isScalarClass : PyType → Bool
  | .cls c => basicTypes.contains c || datetimeTypes.contains c
  | .app _ _ => false

/-- A scalar class or a one-argument `list`/`tuple`/`set` of one. -/
def isFlatSimple : PyType → Bool
  | .app o [a] => collectionOrigins.contains o && isScalarClass a
  | t => isScalarClass t

/-- Flat simple after removing at most one `Optional[...]` wrapper. -/
def isSimpleUpToOptional (t : PyType) : Bool :=
  isFlatSimple t || match t with
    | .app "typing.Union" [u, .cls "NoneType"] => isFlatSimple u
    | _ => false

/-- `Optional[int]` is complex for `is_simple_type` though simple up to `Optional`, and
`list[list[int]]` is simple for `is_simple_type` though not flat. -/
theorem isSimpleType_differs_from_isSimpleUpToOptional :
    isSimpleType (PyType.optional (.cls "int")) = false ∧
      isSimpleUpToOptional (PyType.optional (.cls "int")) = true ∧
    isSimpleType (.app "list" [.app "list" [.cls "int"]]) = true ∧
      isSimpleUpToOptional (.app "list" [.app "list" [.cls "int"]]) = false := by decide

end GraphModel.Core.GraphDataModel
