import GraphModel.Core.Naming
import Mathlib.Data.List.Nodup

/-!
# Field descriptors, entity classes and their instances

An entity class is its ordered list of declared fields, each with the `PropertyFieldInfo` that
`get_field_info` returns for it (or none) and its pydantic default. An instance holds one value
per field, so `model_dump()` is the list of fields paired with their values in declaration
order. The module also fixes the collaborators the codec calls but `src/` does not contain: the
`json` module, `get_relationship_type_for_field`, and the keyword constructor `T(**data)`.
-/
namespace GraphModel.Attributes

open GraphModel.Python GraphModel.Core

/-- `PropertyFieldType`, with the members the serializers compare against. -/
inductive PropertyFieldType where
  | simple
  | embedded
  | relatedNode
  deriving DecidableEq, Repr

/-- The part of `PropertyFieldInfo` the codec reads. -/
structure PropertyFieldInfo where
  fieldType : PropertyFieldType
  label : Option String
  storageType : String
  relationshipType : Option String
  privateRelationship : Bool
  deriving DecidableEq, Repr

/-- One entry of `model_fields`: its name, what `get_field_info` returns for it, and its
default (`none` for a required field). -/
structure FieldDecl where
  name : String
  info : Option PropertyFieldInfo
  default : Option PyValue
  deriving DecidableEq, Repr

def FieldDecl.isRelated (f : FieldDecl) : Bool :=
  match f.info with
  | some i => i.fieldType = .relatedNode
  | none => false

/-- Whether a field is embedded with `"json"` storage, the one case stored as JSON text. -/
def FieldDecl.isEmbeddedJson (f : FieldDecl) : Bool :=
  match f.info with
  | some i => i.fieldType = .embedded ∧ i.storageType = "json"
  | none => false

theorem FieldDecl.isRelated_eq_false_of_isEmbeddedJson {f : FieldDecl} (h : f.isEmbeddedJson) :
    f.isRelated = false := by
  rcases f with ⟨_, _ | ⟨_ | _ | _, _⟩, _⟩ <;> simp_all [isEmbeddedJson, isRelated]

/-- An entity class: `__name__`, the class attributes `__graph_labels__` (nodes) and
`__graph_label__` (relationships), and the declared fields, whose names are distinct. -/
structure EntityType where
  name : String
  graphLabels : Option (List String)
  graphLabel : Option String
  fields : List FieldDecl
  nodup : (fields.map FieldDecl.name).Nodup

/-- An instance of `T`: one value per declared field. -/
@[ext] structure Instance (T : EntityType) where
  values : List PyValue
  length_eq : values.length = T.fields.length

variable {T : EntityType}

/-- `model_dump()`, each field paired with its value (the loops read `model_fields[name]` for
each dumped name, which is the field's own declaration). -/
def Instance.modelDump (e : Instance T) : List (FieldDecl × PyValue) := T.fields.zip e.values

/-- `getattr(e, name)` for a declared field, `none` when there is no such field. -/
def Instance.attr (e : Instance T) (name : String) : Option PyValue :=
  (e.modelDump.find? (·.1.name = name)).map Prod.snd

theorem Instance.map_fst_modelDump (e : Instance T) : e.modelDump.map Prod.fst = T.fields :=
  List.map_fst_zip _ _ (by rw [e.length_eq])

theorem Instance.mem_fields {e : Instance T} {fv : FieldDecl × PyValue} (h : fv ∈ e.modelDump) :
    fv.1 ∈ T.fields :=
  e.map_fst_modelDump ▸ List.mem_map_of_mem Prod.fst h

theorem Instance.nodup_keys (e : Instance T) :
    (e.modelDump.map fun fv => PyValue.str fv.1.name).Nodup := by
  have h := List.Nodup.map (fun a b (h : PyValue.str a = .str b) => PyValue.str.inj h) T.nodup
  rwa [← e.map_fst_modelDump, List.map_map, List.map_map] at h

/-- `T.model_fields[key]`. -/
def EntityType.modelField (T : EntityType) (key : PyValue) : Except PyError FieldDecl :=
  match key with
  | .str n => match T.fields.find? (·.name = n) with
    | some f => .ok f
    | none => .error (.keyError key)
  | _ => .error (.keyError key)

theorem find?_name_of_nodup {fs : List FieldDecl} (hnd : (fs.map FieldDecl.name).Nodup)
    {f : FieldDecl} (hf : f ∈ fs) : fs.find? (·.name = f.name) = some f := by
  induction fs with
  | nil => simp at hf
  | cons g gs ih =>
    simp only [List.map_cons, List.nodup_cons, List.mem_map] at hnd
    rcases List.mem_cons.1 hf with rfl | hg
    · simp
    · have hne : g.name ≠ f.name := fun h => hnd.1 ⟨f, hg, h.symm⟩
      simp [List.find?_cons, hne, ih hnd.2 hg]

theorem EntityType.modelField_name {f : FieldDecl} (hf : f ∈ T.fields) :
    T.modelField (.str f.name) = .ok f := by
  simp [modelField, find?_name_of_nodup T.nodup hf]

theorem EntityType.modelField_eq_ok {k : PyValue} {f : FieldDecl} (h : T.modelField k = .ok f) :
    f ∈ T.fields ∧ k = .str f.name := by
  unfold EntityType.modelField at h
  split at h
  · split at h
    · rename_i g hg
      cases h
      have hn := List.find?_some hg
      simp only [decide_eq_true_eq] at hn
      exact ⟨List.mem_of_find?_eq_some hg, by rw [hn]⟩
    · cases h
  · cases h

/-- The two functions of the `json` module the codec calls. -/
structure JsonModule where
  /-- `json.dumps(value, default=str)`. -/
  dumps : PyValue → String
  /-- `json.loads(text)`. -/
  loads : String → Except PyError PyValue

/-- `json.loads(value)` applied to a value read from a dict: only a `str` is parsed. -/
def JsonModule.loadsValue (json : JsonModule) : PyValue → Except PyError PyValue
  | .str s => json.loads s
  | _ => .error (.typeError "the JSON object must be str, bytes or bytearray")

def JsonModule.RoundTrips (json : JsonModule) (v : PyValue) : Prop :=
  json.loads (json.dumps v) = .ok v

/-- As documented, since `graph_model/attributes/fields.py` is not among the sources:
`get_relationship_type_for_field` resolves a related-node field's relationship type to the
explicit one if given, else to the synthetic name of the field. -/
def getRelationshipTypeForField (fieldName : String) (relationshipType : Option String) : String :=
  relationshipType.getD (GraphDataModel.propertyNameToRelationshipTypeName fieldName)

/-- `field_info.label or field_name`: an unset or empty label falls back to the field name. -/
def labelOr (label : Option String) (fieldName : String) : String :=
  match label with
  | some l => if l = "" then fieldName else l
  | none => fieldName

/-- The value a field takes in the keyword constructor. -/
def readField (data : PyDict PyValue PyValue) (f : FieldDecl) : Except PyError PyValue :=
  match data.lookup (.str f.name), f.default with
  | some v, _ => .ok v
  | none, some d => .ok d
  | none, none => .error (.missingRequiredField f.name)

def readFields (data : PyDict PyValue PyValue) : List FieldDecl → Except PyError (List PyValue)
  | [] => .ok []
  | f :: fs => do
    let v ← readField data f
    let vs ← readFields data fs
    pure (v :: vs)

theorem length_of_readFields_eq_ok {data : PyDict PyValue PyValue} :
    ∀ {fs : List FieldDecl} {vs : List PyValue}, readFields data fs = .ok vs → vs.length = fs.length
  | [], vs, h => by cases h; rfl
  | f :: fs, vs, h => by
    simp only [readFields] at h
    cases hf : readField data f <;> cases hfs : readFields data fs <;>
      simp_all [bind, Except.bind, pure, Except.pure]
    subst h
    simp [length_of_readFields_eq_ok hfs]

/-- As documented, since the base classes are not among the sources: the keyword constructor
`T(**data)` of an entity class (pydantic's `BaseModel.__init__` over the fields the base classes
and `property_field` declare).
Every key must be a `str`; each field takes the value stored under its name, else its default,
and a required field with neither fails; keys that name no field are ignored. -/
def EntityType.construct (T : EntityType) (data : PyDict PyValue PyValue) :
    Except PyError (Instance T) :=
  if data.all (fun kv => kv.1 matches .str _) then
    match h : readFields data T.fields with
    | .ok vs => .ok ⟨vs, length_of_readFields_eq_ok h⟩
    | .error e => .error e
  else .error (.typeError "keywords must be strings")

/-- The value `readField` produces when it succeeds. -/
def keywordValue (data : PyDict PyValue PyValue) (f : FieldDecl) : PyValue :=
  ((data.lookup (.str f.name)).orElse fun _ => f.default).getD .none

theorem readFields_eq_ok {data : PyDict PyValue PyValue} : ∀ {fs : List FieldDecl},
    (∀ f ∈ fs, (data.lookup (.str f.name)).isSome ∨ f.default.isSome) →
      readFields data fs = .ok (fs.map (keywordValue data))
  | [], _ => rfl
  | f :: fs, h => by
    have hf : readField data f = .ok (keywordValue data f) := by
      have := h f (List.mem_cons_self _ _)
      revert this
      unfold readField keywordValue
      cases data.lookup (.str f.name) <;> cases f.default <;> simp
    simp [readFields, hf, readFields_eq_ok (fun g hg => h g (List.mem_cons_of_mem _ hg)), bind,
      Except.bind, pure, Except.pure]

theorem construct_values {data : PyDict PyValue PyValue}
    (hkeys : ∀ kv ∈ data, ∃ s, kv.1 = .str s)
    (h : ∀ f ∈ T.fields, (data.lookup (.str f.name)).isSome ∨ f.default.isSome) :
    ∃ e, T.construct data = .ok e ∧ e.values = T.fields.map (keywordValue data) := by
  have hall : data.all (fun kv => kv.1 matches .str _) = true := by
    simp only [List.all_eq_true]
    intro kv hkv
    obtain ⟨s, hs⟩ := hkeys kv hkv
    simp [hs]
  unfold EntityType.construct
  rw [if_pos hall]
  split
  · rename_i vs hvs
    rw [readFields_eq_ok h] at hvs
    cases hvs
    exact ⟨_, rfl, rfl⟩
  · rename_i e he
    rw [readFields_eq_ok h] at he
    cases he

end GraphModel.Attributes
