import GraphModel.Attributes.Fields
import Mathlib.Data.List.Nodup

/-!
# Serialization of nodes and relationships

`serialize_node` walks `model_dump()` once and writes each non-`None` field into one of two
dicts: simple and embedded fields into the property map under `label or field_name`, related
nodes into the complex-property map under the field name. Each pass writes at most one entry,
so the loop builds the dict of the entries written (`serializeNodeField_eq`), and when the keys
are distinct that dict is the plain list of entries in declaration order.

`serialize_relationship` has the same loop, except that a simple field with field info is keyed
by `field_info.label` itself, not by `label or field_name`: a simple field whose descriptor
carries no label is stored under the key `None`.
-/
namespace GraphModel.Neo4j

open GraphModel.Python GraphModel.Attributes

/-- The metadata `serialize_node` keeps for a related-node field, under the keys `'value'`,
`'relationship_type'`, `'private'` and `'field_info'`. -/
structure ComplexProperty where
  value : PyValue
  relationshipType : String
  isPrivate : Bool
  fieldInfo : PropertyFieldInfo
  deriving DecidableEq, Repr

structure SerializedNode where
  id : Option PyValue
  labels : List String
  properties : PyDict PyValue PyValue
  complexProperties : PyDict String ComplexProperty

structure SerializedRelationship where
  id : Option PyValue
  type : String
  startNodeId : Option PyValue
  endNodeId : Option PyValue
  properties : PyDict PyValue PyValue

variable {T : EntityType}

/-- One pass of the property loop of `serialize_node`, on the pair
`(simple_props, complex_props)`. -/
def serializeNodeField (json : JsonModule)
    (acc : PyDict PyValue PyValue × PyDict String ComplexProperty) (fv : FieldDecl × PyValue) :
    PyDict PyValue PyValue × PyDict String ComplexProperty :=
  let simpleProps := acc.1
  let complexProps := acc.2
  let fieldName := fv.1.name
  let fieldValue := fv.2
  if fieldValue = .none then acc else
  match fv.1.info with
  | none => (PyDict.setItem simpleProps (.str fieldName) fieldValue, complexProps)
  | some fieldInfo =>
    match fieldInfo.fieldType with
    | .simple =>
      (PyDict.setItem simpleProps (.str (labelOr fieldInfo.label fieldName)) fieldValue,
        complexProps)
    | .embedded =>
      let propName := labelOr fieldInfo.label fieldName
      if fieldInfo.storageType = "json" then
        (PyDict.setItem simpleProps (.str propName) (.str (json.dumps fieldValue)), complexProps)
      else (PyDict.setItem simpleProps (.str propName) fieldValue, complexProps)
    | .relatedNode =>
      (simpleProps, PyDict.setItem complexProps fieldName
        ⟨fieldValue, getRelationshipTypeForField fieldName fieldInfo.relationshipType,
          fieldInfo.privateRelationship, fieldInfo⟩)

def serializeNode (json : JsonModule) (node : Instance T) : SerializedNode :=
  let props := node.modelDump.foldl (serializeNodeField json) ([], [])
  { id := node.attr "id"
    labels := T.graphLabels.getD [T.name]
    properties := props.1
    complexProperties := props.2 }

/-- One pass of the property loop of `serialize_relationship`. -/
def serializeRelationshipField (json : JsonModule) (properties : PyDict PyValue PyValue)
    (fv : FieldDecl × PyValue) : PyDict PyValue PyValue :=
  let fieldName := fv.1.name
  let fieldValue := fv.2
  if fieldValue = .none then properties else
  match fv.1.info with
  | none => PyDict.setItem properties (.str fieldName) fieldValue
  | some fieldInfo =>
    match fieldInfo.fieldType with
    | .simple => PyDict.setItem properties ((fieldInfo.label.map .str).getD .none) fieldValue
    | .embedded =>
      let propName := labelOr fieldInfo.label fieldName
      if fieldInfo.storageType = "json" then
        PyDict.setItem properties (.str propName) (.str (json.dumps fieldValue))
      else PyDict.setItem properties (.str propName) fieldValue
    | .relatedNode => properties

def serializeRelationship (json : JsonModule) (relationship : Instance T) :
    SerializedRelationship :=
  { id := relationship.attr "id"
    type := T.graphLabel.getD T.name
    startNodeId := relationship.attr "start_node_id"
    endNodeId := relationship.attr "end_node_id"
    properties := relationship.modelDump.foldl (serializeRelationshipField json) [] }

/-! ### What each pass writes -/

def nodeStorageKey (f : FieldDecl) : String :=
  match f.info with
  | some i => labelOr i.label f.name
  | none => f.name

/-- The key a field is stored under on a relationship: a simple field with field info is keyed
by its label as it is, `None` included. -/
def relationshipStorageKey (f : FieldDecl) : PyValue :=
  match f.info with
  | some i => if i.fieldType = .simple then (i.label.map .str).getD .none
    else .str (labelOr i.label f.name)
  | none => .str f.name

/-- The stored form of a value: its JSON text for an embedded field with `"json"` storage, the
value itself otherwise. -/
def storedValue (json : JsonModule) (f : FieldDecl) (v : PyValue) : PyValue :=
  if f.isEmbeddedJson then .str (json.dumps v) else v

def nodePropertyKey (f : FieldDecl) : Option String :=
  if f.isRelated then none else some (nodeStorageKey f)

def nodePropertyEntry (json : JsonModule) (fv : FieldDecl × PyValue) :
    Option (PyValue × PyValue) :=
  if fv.2 = .none ∨ fv.1.isRelated then none
  else some (.str (nodeStorageKey fv.1), storedValue json fv.1 fv.2)

def relationshipPropertyEntry (json : JsonModule) (fv : FieldDecl × PyValue) :
    Option (PyValue × PyValue) :=
  if fv.2 = .none ∨ fv.1.isRelated then none
  else some (relationshipStorageKey fv.1, storedValue json fv.1 fv.2)

def complexPropertyEntry (fv : FieldDecl × PyValue) : Option (String × ComplexProperty) :=
  match fv.1.info with
  | some i => if fv.2 ≠ .none ∧ i.fieldType = .relatedNode then
      some (fv.1.name, ⟨fv.2, getRelationshipTypeForField fv.1.name i.relationshipType,
        i.privateRelationship, i⟩)
    else none
  | none => none

theorem serializeNodeField_eq (json : JsonModule)
    (acc : PyDict PyValue PyValue × PyDict String ComplexProperty) (fv : FieldDecl × PyValue) :
    serializeNodeField json acc fv = (PyDict.insertOpt acc.1 (nodePropertyEntry json fv),
      PyDict.insertOpt acc.2 (complexPropertyEntry fv)) := by
  obtain ⟨⟨name, info, default⟩, v⟩ := fv
  by_cases hv : v = .none
  · subst hv
    cases info <;> simp [serializeNodeField, nodePropertyEntry, complexPropertyEntry]
  · rcases info with _ | ⟨_ | _ | _, label, storage, rt, priv⟩ <;>
      simp [serializeNodeField, nodePropertyEntry, complexPropertyEntry, hv, FieldDecl.isRelated,
        nodeStorageKey, storedValue, FieldDecl.isEmbeddedJson]
    split <;> simp_all

theorem serializeRelationshipField_eq (json : JsonModule) (properties : PyDict PyValue PyValue)
    (fv : FieldDecl × PyValue) :
    serializeRelationshipField json properties fv =
      PyDict.insertOpt properties (relationshipPropertyEntry json fv) := by
  obtain ⟨⟨name, info, default⟩, v⟩ := fv
  by_cases hv : v = .none
  · subst hv
    simp [serializeRelationshipField, relationshipPropertyEntry]
  · rcases info with _ | ⟨_ | _ | _, label, storage, rt, priv⟩ <;>
      simp [serializeRelationshipField, relationshipPropertyEntry, hv, FieldDecl.isRelated,
        relationshipStorageKey, storedValue, FieldDecl.isEmbeddedJson]
    split <;> simp_all

theorem foldl_serializeNodeField (json : JsonModule) (xs : List (FieldDecl × PyValue))
    (p : PyDict PyValue PyValue) (c : PyDict String ComplexProperty) :
    xs.foldl (serializeNodeField json) (p, c) =
      (PyDict.insertAll p (xs.filterMap (nodePropertyEntry json)),
        PyDict.insertAll c (xs.filterMap complexPropertyEntry)) := by
  induction xs generalizing p c with
  | nil => rfl
  | cons x xs ih =>
    rw [List.foldl_cons, serializeNodeField_eq, ih]
    cases h₁ : nodePropertyEntry json x <;> cases h₂ : complexPropertyEntry x <;>
      simp [List.filterMap_cons, h₁, h₂, PyDict.insertAll]

theorem serializeNode_properties (json : JsonModule) (e : Instance T) :
    (serializeNode json e).properties =
      PyDict.insertAll [] (e.modelDump.filterMap (nodePropertyEntry json)) := by
  simp [serializeNode, foldl_serializeNodeField]

theorem serializeNode_complexProperties (json : JsonModule) (e : Instance T) :
    (serializeNode json e).complexProperties =
      PyDict.insertAll [] (e.modelDump.filterMap complexPropertyEntry) := by
  simp [serializeNode, foldl_serializeNodeField]

theorem serializeRelationship_properties (json : JsonModule) (e : Instance T) :
    (serializeRelationship json e).properties =
      PyDict.insertAll [] (e.modelDump.filterMap (relationshipPropertyEntry json)) := by
  rw [← PyDict.foldl_insertOpt]
  exact congrArg (e.modelDump.foldl · []) (funext₂ (serializeRelationshipField_eq json))

theorem nodePropertyEntry_key {json : JsonModule} {fv : FieldDecl × PyValue}
    {kv : PyValue × PyValue} (h : nodePropertyEntry json fv = some kv) :
    kv.1 = .str (nodeStorageKey fv.1) := by
  unfold nodePropertyEntry at h
  split at h <;> cases h; rfl

theorem relationshipPropertyEntry_key {json : JsonModule} {fv : FieldDecl × PyValue}
    {kv : PyValue × PyValue} (h : relationshipPropertyEntry json fv = some kv) :
    kv.1 = relationshipStorageKey fv.1 := by
  unfold relationshipPropertyEntry at h
  split at h <;> cases h; rfl

theorem complexPropertyEntry_key {fv : FieldDecl × PyValue} {kv : String × ComplexProperty}
    (h : complexPropertyEntry fv = some kv) : kv.1 = fv.1.name := by
  unfold complexPropertyEntry at h
  split at h
  · split at h <;> cases h; rfl
  · cases h

theorem serializeNode_properties_of_nodup (json : JsonModule) (e : Instance T)
    (hkeys : (T.fields.filterMap nodePropertyKey).Nodup) :
    (serializeNode json e).properties = e.modelDump.filterMap (nodePropertyEntry json) := by
  rw [serializeNode_properties, PyDict.insertAll_of_nodup (by simp), List.nil_append]
  refine (PyDict.map_fst_filterMap_sublist _ (fun fv => (nodePropertyKey fv.1).map .str)
    fun fv _ kv h => ?_).nodup ?_
  · unfold nodePropertyEntry at h
    split at h
    · cases h
    · cases h; simp_all [nodePropertyKey]
  · have h := List.Nodup.map (fun a b (h : PyValue.str a = .str b) => PyValue.str.inj h) hkeys
    rw [List.map_filterMap, ← e.map_fst_modelDump, List.filterMap_map] at h
    exact h

theorem serializeNode_complexProperties_eq (json : JsonModule) (e : Instance T) :
    (serializeNode json e).complexProperties = e.modelDump.filterMap complexPropertyEntry := by
  rw [serializeNode_complexProperties, PyDict.insertAll_of_nodup (by simp), List.nil_append]
  refine (PyDict.map_fst_filterMap_sublist _ (fun fv => some fv.1.name)
    fun fv _ kv h => by rw [complexPropertyEntry_key h]).nodup ?_
  show (List.filterMap (some ∘ fun fv : FieldDecl × PyValue => fv.1.name) e.modelDump).Nodup
  have h := T.nodup
  rw [← e.map_fst_modelDump, List.map_map] at h
  rwa [List.filterMap_eq_map]

/-- Where the storage keys `label or field_name` of the fields other than related nodes are
distinct, `serialize_node` writes each non-`None` field exactly once: a simple or embedded field
into the properties under its storage key with its stored value, a related node into the complex
properties under its name, and nothing else. -/
theorem serializeNode_places_fields (json : JsonModule) (e : Instance T)
    (hkeys : (T.fields.filterMap nodePropertyKey).Nodup) :
    (serializeNode json e).properties = e.modelDump.filterMap (nodePropertyEntry json) ∧
      (serializeNode json e).complexProperties = e.modelDump.filterMap complexPropertyEntry :=
  ⟨serializeNode_properties_of_nodup json e hkeys, serializeNode_complexProperties_eq json e⟩

/-- Wherever storage keys collide, `serialize_node` and `serialize_relationship` keep a single
entry per key, holding the stored value of the last field declared under that key: an earlier
field with the same label or name is silently overwritten. -/
theorem serializeNode_serializeRelationship_last_write_wins (json : JsonModule) (e : Instance T)
    (k : PyValue) :
    (serializeNode json e).properties.lookup k =
        (e.modelDump.filterMap (nodePropertyEntry json)).reverse.lookup k ∧
      ((serializeNode json e).properties.map Prod.fst).Nodup ∧
      (serializeRelationship json e).properties.lookup k =
        (e.modelDump.filterMap (relationshipPropertyEntry json)).reverse.lookup k ∧
      ((serializeRelationship json e).properties.map Prod.fst).Nodup := by
  rw [serializeNode_properties, serializeRelationship_properties, PyDict.lookup_insertAll_reverse,
    PyDict.lookup_insertAll_reverse]
  exact ⟨Option.or_none, PyDict.nodup_keys_insertAll (d := []) List.nodup_nil _, Option.or_none,
    PyDict.nodup_keys_insertAll (d := []) List.nodup_nil _⟩

/-- The `Person` node of the examples, reduced to one field of each kind. -/
def person : EntityType :=
  ⟨"Person", some ["Person"], none,
    [⟨"id", none, none⟩, ⟨"first_name", some ⟨.simple, some "first_name", "json", none, false⟩, none⟩,
      ⟨"age", some ⟨.simple, none, "json", none, false⟩, some (.int 0)⟩,
      ⟨"contact_info", some ⟨.embedded, none, "json", none, false⟩, some (.obj 0)⟩,
      ⟨"home_address", some ⟨.relatedNode, none, "json", some "HAS_HOME_ADDRESS", true⟩,
        some .none⟩], by decide⟩

/-- A `json` module that encodes the one structured value used below. -/
def detailsJson : JsonModule :=
  ⟨fun v => if v = .obj 7 then "[1]" else "null",
    fun s => if s = "[1]" then .ok (.obj 7) else .ok .none⟩

theorem serializeNode_places_fields_person :
    let e : Instance person := ⟨[.str "p1", .str "Ada", .none, .obj 7, .obj 2], rfl⟩
    (serializeNode detailsJson e).properties = e.modelDump.filterMap (nodePropertyEntry detailsJson) ∧
      (serializeNode detailsJson e).complexProperties = e.modelDump.filterMap complexPropertyEntry :=
  serializeNode_places_fields detailsJson _ (by decide)

/-! ### Embedded fields stored as their values

A placement that stores every embedded field as JSON text, under its label when one is set,
differs from `serialize_node` on an embedded field whose storage type is not `"json"`.
-/

/-- The label when one is set, an empty one included, else the field name. -/
def setLabelOrName (f : FieldDecl) : String :=
  match f.info with
  | some i => i.label.getD f.name
  | none => f.name

/-- A property entry that stores every embedded field as the JSON text of its value. -/
def jsonTextPropertyEntry (json : JsonModule) (fv : FieldDecl × PyValue) :
    Option (PyValue × PyValue) :=
  if fv.2 = .none ∨ fv.1.isRelated then none
  else some (.str (setLabelOrName fv.1), match fv.1.info with
    | some i => if i.fieldType = .embedded then .str (json.dumps fv.2) else fv.2
    | none => fv.2)

/-- A related-node entry without its field info: value, relationship type and private flag. -/
def complexEntrySummary (fv : FieldDecl × PyValue) : Option (String × (PyValue × String × Bool)) :=
  match fv.1.info with
  | some i => if fv.2 ≠ .none ∧ i.fieldType = .relatedNode then
      some (fv.1.name, (fv.2, getRelationshipTypeForField fv.1.name i.relationshipType,
        i.privateRelationship))
    else none
  | none => none

/-- An embedded field whose storage type is not `"json"` is stored as its value, not as JSON
text: on a node with one such field `jsonTextPropertyEntry` differs at its key. -/
theorem serializeNode_embedded_non_json_verbatim :
    ¬ ∀ (json : JsonModule) (T : EntityType) (e : Instance T),
      (T.fields.map setLabelOrName).Nodup →
      (∀ k, (serializeNode json e).properties.lookup k =
        (e.modelDump.filterMap (jsonTextPropertyEntry json)).lookup k) ∧
      (∀ n, ((serializeNode json e).complexProperties.lookup n).map
          (fun c => (c.value, c.relationshipType, c.isPrivate)) =
        (e.modelDump.filterMap complexEntrySummary).lookup n) := fun h => by
  have := (h ⟨fun _ => "1", fun _ => .ok .none⟩
    ⟨"Person", none, none, [⟨"contact_info", some ⟨.embedded, none, "native", none, false⟩, none⟩],
      by decide⟩ ⟨[.obj 0], rfl⟩ (by decide)).1 (.str "contact_info")
  exact absurd this (by decide)

/-- `serialize_relationship` stores a simple field whose descriptor has no label under `None`,
where `serialize_node` stores it under its name. -/
theorem serializeRelationship_unlabelled_simple_under_none (json : JsonModule) :
    let T : EntityType :=
      ⟨"WorksFor", none, none, [⟨"position", some ⟨.simple, none, "json", none, false⟩, none⟩],
        by decide⟩
    let r : Instance T := ⟨[.str "Engineer"], rfl⟩
    (serializeRelationship json r).properties = [(.none, .str "Engineer")] ∧
      (serializeNode json r).properties = [(.str "position", .str "Engineer")] :=
  ⟨rfl, rfl⟩

/-- Where every simple field that has field info carries a non-empty label, a relationship and
a node with the same fields and values get the same property map. -/
theorem serializeRelationship_properties_eq_serializeNode (json : JsonModule) (e : Instance T)
    (hlabel : ∀ f ∈ T.fields, ∀ i, f.info = some i → i.fieldType = .simple →
      ∃ l, i.label = some l ∧ l ≠ "") :
    (serializeRelationship json e).properties = (serializeNode json e).properties := by
  rw [serializeRelationship_properties, serializeNode_properties]
  congr 1
  refine List.filterMap_congr fun fv hfv => ?_
  have hf : fv.1 ∈ T.fields := e.map_fst_modelDump ▸ List.mem_map_of_mem Prod.fst hfv
  obtain ⟨⟨name, info, default⟩, v⟩ := fv
  rcases info with _ | ⟨_ | _ | _, label, storage, rt, priv⟩
  · simp [relationshipPropertyEntry, nodePropertyEntry, relationshipStorageKey, nodeStorageKey]
  · obtain ⟨l, hl, hne⟩ := hlabel _ hf _ rfl rfl
    simp at hl
    simp [relationshipPropertyEntry, nodePropertyEntry, relationshipStorageKey, nodeStorageKey,
      hl, labelOr, hne]
  · simp [relationshipPropertyEntry, nodePropertyEntry, relationshipStorageKey, nodeStorageKey]
  · simp [relationshipPropertyEntry, nodePropertyEntry, FieldDecl.isRelated]

/-- A relationship type whose one simple field carries its name as label. -/
def knows : EntityType :=
  ⟨"Knows", none, some "KNOWS",
    [⟨"since", some ⟨.simple, some "since", "json", none, false⟩, none⟩,
      ⟨"weight", none, some (.int 1)⟩], by decide⟩

theorem serializeRelationship_properties_eq_serializeNode_knows :
    (∀ f ∈ knows.fields, ∀ i, f.info = some i → i.fieldType = .simple →
        ∃ l, i.label = some l ∧ l ≠ "") ∧
      (serializeRelationship detailsJson (⟨[.int 2020, .int 3], rfl⟩ : Instance knows)).properties =
        (serializeNode detailsJson (⟨[.int 2020, .int 3], rfl⟩ : Instance knows)).properties := by
  have h : ∀ f ∈ knows.fields, ∀ i, f.info = some i → i.fieldType = .simple →
      ∃ l, i.label = some l ∧ l ≠ "" := by
    intro f hf i hi _
    simp only [knows, List.mem_cons, List.not_mem_nil, or_false] at hf
    rcases hf with rfl | rfl <;> simp only [Option.some.injEq, reduceCtorEq] at hi
    exact ⟨"since", by rw [← hi], by decide⟩
  exact ⟨h, serializeRelationship_properties_eq_serializeNode _ _ h⟩

end GraphModel.Neo4j
