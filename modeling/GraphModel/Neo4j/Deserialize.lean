import GraphModel.Neo4j.Serialize
import Mathlib.Data.List.Forall2

/-!
# Deserialization and the round trips

`deserialize_node` copies the record, then walks the supplied complex properties: a name that is
in the record and declares an embedded field is JSON-decoded, any other name present takes the
supplied value. Only the names in `complex_properties` are visited, so an embedded field that is
not among them keeps its JSON text. `deserialize_relationship` decodes every embedded field of
the record instead, but looks each record key up in `model_fields` and so fails on a key that is
not a field name. Both end in the keyword constructor, where a field missing from the record
takes its default: a field that was `None` comes back as its default.
-/
namespace GraphModel.Neo4j

open GraphModel.Python GraphModel.Attributes

variable {T : EntityType}

/-- One pass of the complex-property loop of `deserialize_node`. -/
def deserializeNodeComplexField (json : JsonModule) (nodeType : EntityType)
    (nodeData : PyDict PyValue PyValue) (entry : String × PyValue) :
    Except PyError (PyDict PyValue PyValue) :=
  let fieldName := entry.1
  let complexData := entry.2
  if PyDict.contains nodeData (.str fieldName) then do
    let fieldInfo := (← nodeType.modelField (.str fieldName)).info
    match fieldInfo with
    | some info =>
      if info.fieldType = .embedded then
        if info.storageType = "json" then
          let loaded ← json.loadsValue ((nodeData.lookup (.str fieldName)).getD .none)
          pure (PyDict.setItem nodeData (.str fieldName) loaded)
        else pure nodeData
      else pure (PyDict.setItem nodeData (.str fieldName) complexData)
    | none => pure (PyDict.setItem nodeData (.str fieldName) complexData)
  else pure nodeData

/-- `deserialize_node(record, node_type, complex_properties)`; the loop runs only when
`complex_properties` is a non-empty dict. -/
def deserializeNode (json : JsonModule) (record : PyDict PyValue PyValue) (nodeType : EntityType)
    (complexProperties : Option (PyDict String PyValue)) : Except PyError (Instance nodeType) := do
  let nodeData ← match complexProperties with
    | some cp@(_ :: _) => cp.foldlM (deserializeNodeComplexField json nodeType) record
    | _ => pure record
  nodeType.construct nodeData

/-- One pass of the loop of `deserialize_relationship` over `rel_data.items()`. A key is only
rewritten at its own visit, so the pass sees the record's original entry. -/
def deserializeRelationshipField (json : JsonModule) (relationshipType : EntityType)
    (relData : PyDict PyValue PyValue) (entry : PyValue × PyValue) :
    Except PyError (PyDict PyValue PyValue) := do
  let fieldInfo := (← relationshipType.modelField entry.1).info
  match fieldInfo with
  | some info =>
    if info.fieldType = .embedded then
      if info.storageType = "json" then
        let loaded ← json.loadsValue entry.2
        pure (PyDict.setItem relData entry.1 loaded)
      else pure relData
    else pure relData
  | none => pure relData

def deserializeRelationship (json : JsonModule) (record : PyDict PyValue PyValue)
    (relationshipType : EntityType) : Except PyError (Instance relationshipType) := do
  let relData ← record.foldlM (deserializeRelationshipField json relationshipType) record
  relationshipType.construct relData

/-- `get_complex_property_cypher`: the `OPTIONAL MATCH` that loads a complex property. -/
def getComplexPropertyCypher (parentAlias fieldName relationshipType : String)
    (targetAlias : Option String) : String :=
  let targetAlias := targetAlias.getD (fieldName ++ "_node")
  "\n        OPTIONAL MATCH (" ++ parentAlias ++ ")-[" ++ fieldName ++ "_rel:" ++ relationshipType ++
    "]->(" ++ targetAlias ++ ")\n        "

/-- `get_complex_property_return`: the `field: alias` item of the return map. -/
def getComplexPropertyReturn (fieldName : String) (targetAlias : Option String) : String :=
  let targetAlias := targetAlias.getD (fieldName ++ "_node")
  fieldName ++ ": " ++ targetAlias

/-! ### The loops read entry by entry -/

/-- What `deserialize_relationship` makes of one record entry, read on its own: the key must name
a field, and the value is JSON-decoded when that field is embedded with `"json"` storage. -/
def decodeRelationshipEntry (json : JsonModule) (relationshipType : EntityType)
    (entry : PyValue × PyValue) : Except PyError (PyValue × PyValue) := do
  let f ← relationshipType.modelField entry.1
  if f.isEmbeddedJson then
    let loaded ← json.loadsValue entry.2
    pure (entry.1, loaded)
  else pure entry

theorem decodeRelationshipEntry_key {json : JsonModule} {entry kv : PyValue × PyValue}
    (h : decodeRelationshipEntry json T entry = .ok kv) : kv.1 = entry.1 := by
  obtain ⟨f, -, h⟩ := bind_eq_ok.1 h
  split at h
  · obtain ⟨_, -, h⟩ := bind_eq_ok.1 h
    rw [← Except.ok.inj h]
  · rw [← Except.ok.inj h]

theorem deserializeRelationshipField_append_cons (json : JsonModule) {A B : PyDict PyValue PyValue}
    {entry : PyValue × PyValue} (hA : A.lookup entry.1 = none) :
    deserializeRelationshipField json T (A ++ entry :: B) entry =
      (decodeRelationshipEntry json T entry).map (A ++ · :: B) := by
  obtain ⟨k, w⟩ := entry
  unfold deserializeRelationshipField decodeRelationshipEntry
  cases T.modelField k with
  | error => rfl
  | ok f =>
    rcases f with ⟨name, _ | ⟨_ | _ | _, label, storage, rt, priv⟩, default⟩ <;>
      simp only [bind, Except.bind, FieldDecl.isEmbeddedJson, reduceCtorEq, false_and,
        and_true, decide_False, decide_True, if_false, if_true, pure, Except.pure, Except.map,
        Bool.false_eq_true]
    split
    · rename_i hs
      simp only [hs, decide_True, if_true]
      cases json.loadsValue w <;> simp [Except.map, PyDict.setItem_append_cons _ _ hA]
    · rename_i hs
      simp [hs]

/-- Over a record with distinct keys, the relationship loop, which rewrites `rel_data` while it
iterates over it, computes each entry from the record's own value: it is the entry-by-entry map,
failing at the first entry that fails. -/
theorem foldlM_deserializeRelationshipField_eq_mapM (json : JsonModule) :
    ∀ (B A : PyDict PyValue PyValue), ((A ++ B).map Prod.fst).Nodup →
      B.foldlM (deserializeRelationshipField json T) (A ++ B) =
        (B.mapM (decodeRelationshipEntry json T)).map (A ++ ·)
  | [], A, _ => rfl
  | entry :: B, A, hnd => by
    have hA : A.lookup entry.1 = none := by
      rw [List.map_append, List.map_cons, List.nodup_append] at hnd
      exact Option.not_isSome_iff_eq_none.1 ((PyDict.contains_iff_mem_keys A entry.1).not.2
        fun hm => hnd.2.2 hm (List.mem_cons_self _ _))
    rw [List.foldlM_cons, deserializeRelationshipField_append_cons json hA, List.mapM_cons]
    cases hd : decodeRelationshipEntry json T entry with
    | error => rfl
    | ok kv =>
      have hkv := decodeRelationshipEntry_key hd
      have ih := foldlM_deserializeRelationshipField_eq_mapM json B (A ++ [kv])
        (by simpa [hkv] using hnd)
      simp only [Except.map, bind, Except.bind, List.append_assoc, List.singleton_append] at ih ⊢
      rw [ih]
      cases B.mapM (decodeRelationshipEntry json T) <;> rfl

/-- `deserialize_relationship` on a record, which as a dict has distinct keys: every entry is
checked and decoded on its own, in record order, and the keyword constructor runs on the result. -/
theorem deserializeRelationship_eq_mapM (json : JsonModule) (record : PyDict PyValue PyValue)
    (hnd : (record.map Prod.fst).Nodup) :
    deserializeRelationship json record T =
      record.mapM (decodeRelationshipEntry json T) >>= T.construct := by
  have h := foldlM_deserializeRelationshipField_eq_mapM json (T := T) record [] hnd
  simp only [List.nil_append] at h
  rw [deserializeRelationship, h]
  cases record.mapM (decodeRelationshipEntry json T) <;> rfl

theorem deserializeRelationship_eq_mapM_person :
    (([(.str "first_name", .str "Ada"), (.str "contact_info", .str "[1]")] :
        PyDict PyValue PyValue).map Prod.fst).Nodup ∧
      deserializeRelationship detailsJson
          [(.str "first_name", .str "Ada"), (.str "contact_info", .str "[1]")] person =
        ([(.str "first_name", .str "Ada"), (.str "contact_info", .str "[1]")] :
          PyDict PyValue PyValue).mapM (decodeRelationshipEntry detailsJson person) >>=
          person.construct :=
  ⟨by decide, deserializeRelationship_eq_mapM _ _ (by decide)⟩

theorem deserializeNodeComplexField_eq_ok {json : JsonModule} {d d' : PyDict PyValue PyValue}
    {entry : String × PyValue} (h : deserializeNodeComplexField json T d entry = .ok d') :
    d' = d ∨ PyDict.contains d (.str entry.1) ∧ ∃ v, d' = PyDict.setItem d (.str entry.1) v := by
  unfold deserializeNodeComplexField at h
  dsimp only at h
  split at h
  · rename_i hc
    obtain ⟨f, -, h⟩ := bind_eq_ok.1 h
    split at h
    · split at h
      · split at h
        · obtain ⟨v, -, h⟩ := bind_eq_ok.1 h
          exact .inr ⟨hc, v, (Except.ok.inj h).symm⟩
        · exact .inl (Except.ok.inj h).symm
      · exact .inr ⟨hc, _, (Except.ok.inj h).symm⟩
    · exact .inr ⟨hc, _, (Except.ok.inj h).symm⟩
  · exact .inl (Except.ok.inj h).symm

theorem foldlM_deserializeNodeComplexField_frame (json : JsonModule) :
    ∀ (cs : List (String × PyValue)) {d d' : PyDict PyValue PyValue},
      cs.foldlM (deserializeNodeComplexField json T) d = .ok d' →
      d'.map Prod.fst = d.map Prod.fst ∧
        ∀ k, (∀ n ∈ cs.map Prod.fst, k ≠ .str n) → d'.lookup k = d.lookup k
  | [], d, d', h => by
    obtain rfl : d = d' := Except.ok.inj h
    exact ⟨rfl, fun _ _ => rfl⟩
  | entry :: cs, d, d', h => by
    rw [List.foldlM_cons] at h
    obtain ⟨d₁, h₁, h₂⟩ := bind_eq_ok.1 h
    obtain ⟨ih₁, ih₂⟩ := foldlM_deserializeNodeComplexField_frame json cs h₂
    have hstep : d₁.map Prod.fst = d.map Prod.fst ∧ ∀ k, k ≠ .str entry.1 → d₁.lookup k = d.lookup k := by
      rcases deserializeNodeComplexField_eq_ok h₁ with rfl | ⟨hc, v, rfl⟩
      · exact ⟨rfl, fun _ _ => rfl⟩
      · exact ⟨PyDict.keys_setItem_of_contains v hc, fun k hk => PyDict.lookup_setItem_of_ne _ v hk⟩
    refine ⟨ih₁.trans hstep.1, fun k hk => ?_⟩
    simp only [List.map_cons, List.mem_cons, forall_eq_or_imp] at hk
    rw [ih₂ k hk.2, hstep.2 k hk.1]

theorem str_keys_foldlM_deserializeNodeComplexField (json : JsonModule)
    {cs : List (String × PyValue)} {d d' : PyDict PyValue PyValue}
    (h : cs.foldlM (deserializeNodeComplexField json T) d = .ok d')
    (hd : ∀ kv ∈ d, ∃ s, kv.1 = .str s) : ∀ kv ∈ d', ∃ s, kv.1 = .str s := fun kv hkv => by
  have hk := List.mem_map_of_mem Prod.fst hkv
  rw [(foldlM_deserializeNodeComplexField_frame json cs h).1] at hk
  obtain ⟨kv', hkv', he⟩ := List.mem_map.1 hk
  exact he ▸ hd kv' hkv'

theorem deserializeNode_some (json : JsonModule) (record : PyDict PyValue PyValue)
    (cs : PyDict String PyValue) : deserializeNode json record T (some cs) =
      cs.foldlM (deserializeNodeComplexField json T) record >>= T.construct := by
  cases cs <;> rfl

/-- The value a field holds after a round trip: a `None` field takes its default. -/
def restoredValue (fv : FieldDecl × PyValue) : PyValue :=
  if fv.2 = .none then fv.1.default.getD .none else fv.2

/-- The entry a non-`None` field leaves in a decoded record: its value under its name. -/
def plainEntry (fv : FieldDecl × PyValue) : Option (PyValue × PyValue) :=
  if fv.2 = .none then none else some (.str fv.1.name, fv.2)

theorem plainEntry_key {fv : FieldDecl × PyValue} {kv : PyValue × PyValue}
    (h : plainEntry fv = some kv) : kv.1 = .str fv.1.name := by
  unfold plainEntry at h
  split at h <;> cases h; rfl

theorem lookup_plainEntries (e : Instance T) {fv : FieldDecl × PyValue} (h : fv ∈ e.modelDump) :
    (e.modelDump.filterMap plainEntry).lookup (.str fv.1.name) =
      if fv.2 = .none then none else some fv.2 := by
  rw [PyDict.lookup_filterMap plainEntry (fun fv => PyValue.str fv.1.name)
    (fun _ _ _ => plainEntry_key) e.nodup_keys h]
  unfold plainEntry
  split <;> simp_all

theorem construct_of_lookup (e : Instance T) {data : PyDict PyValue PyValue}
    (hkeys : ∀ kv ∈ data, ∃ s, kv.1 = .str s)
    (hdefault : ∀ fv ∈ e.modelDump, fv.2 = .none → fv.1.default.isSome)
    (w : FieldDecl × PyValue → PyValue)
    (hlookup : ∀ fv ∈ e.modelDump,
      data.lookup (.str fv.1.name) = if fv.2 = .none then none else some (w fv)) :
    ∃ e', T.construct data = .ok e' ∧
      e'.values = e.modelDump.map fun fv => if fv.2 = .none then fv.1.default.getD .none else w fv := by
  have hfields : T.fields = e.modelDump.map Prod.fst := e.map_fst_modelDump.symm
  obtain ⟨e', he', hv⟩ := construct_values hkeys (by
    rw [hfields]
    intro f hf
    obtain ⟨fv, hfv, rfl⟩ := List.mem_map.1 hf
    rw [hlookup fv hfv]
    by_cases hv : fv.2 = .none
    · exact .inr (hdefault fv hfv hv)
    · simp [hv])
  refine ⟨e', he', hv.trans ?_⟩
  rw [hfields, List.map_map]
  refine List.map_congr_left fun fv hfv => ?_
  simp only [Function.comp, keywordValue, hlookup fv hfv]
  split <;> simp

theorem construct_plainEntries (e : Instance T)
    (hdefault : ∀ fv ∈ e.modelDump, fv.2 = .none → fv.1.default.isSome) :
    (T.construct (e.modelDump.filterMap plainEntry)).map Instance.values =
      .ok (e.modelDump.map restoredValue) := by
  obtain ⟨e', he', hv⟩ := construct_of_lookup e (fun kv hkv => by
      obtain ⟨fv, -, h⟩ := List.mem_filterMap.1 hkv
      exact ⟨_, plainEntry_key h⟩)
    hdefault Prod.snd fun fv hfv => lookup_plainEntries e hfv
  rw [he']
  exact congrArg Except.ok hv

theorem deserializeRelationshipField_name (json : JsonModule) {f : FieldDecl} (hf : f ∈ T.fields)
    (d : PyDict PyValue PyValue) (w : PyValue) :
    deserializeRelationshipField json T d (.str f.name, w) =
      if f.isEmbeddedJson then json.loadsValue w >>= fun v => pure (PyDict.setItem d (.str f.name) v)
      else .ok d := by
  simp only [deserializeRelationshipField, EntityType.modelField_name hf]
  rcases f with ⟨name, _ | ⟨_ | _ | _, label, storage, rt, priv⟩, default⟩ <;>
    simp [FieldDecl.isEmbeddedJson, bind, Except.bind, pure, Except.pure]

theorem lookup_plainEntries_prefix {e : Instance T} {D₁ D₂ : List (FieldDecl × PyValue)}
    {fv : FieldDecl × PyValue} (hD : D₁ ++ fv :: D₂ = e.modelDump) :
    (D₁.filterMap plainEntry).lookup (.str fv.1.name) = none := by
  have hnd := e.nodup_keys
  rw [← hD, List.map_append, List.nodup_append] at hnd
  exact PyDict.lookup_filterMap_eq_none plainEntry (fun fv => PyValue.str fv.1.name)
    (fun _ _ _ => plainEntry_key) fun h => hnd.2.2 h (List.mem_cons_self _ _)

theorem foldlM_deserializeRelationshipField (json : JsonModule) (e : Instance T)
    (hkind : ∀ f ∈ T.fields, f.isRelated = false)
    (hkey : ∀ f ∈ T.fields, relationshipStorageKey f = .str f.name)
    (hjson : ∀ fv ∈ e.modelDump, fv.2 ≠ .none → fv.1.isEmbeddedJson → json.RoundTrips fv.2) :
    ∀ D₂ D₁ : List (FieldDecl × PyValue), D₁ ++ D₂ = e.modelDump →
      (D₂.filterMap (relationshipPropertyEntry json)).foldlM (deserializeRelationshipField json T)
        (D₁.filterMap plainEntry ++ D₂.filterMap (relationshipPropertyEntry json)) =
      .ok ((D₁ ++ D₂).filterMap plainEntry)
  | [], D₁, _ => by simp [pure, Except.pure]
  | ⟨f, v⟩ :: D₂, D₁, hD => by
    have hx : (f, v) ∈ e.modelDump := hD ▸ List.mem_append_right _ (List.mem_cons_self _ _)
    have hf := Instance.mem_fields hx
    have ih := foldlM_deserializeRelationshipField json e hkind hkey hjson D₂ (D₁ ++ [(f, v)])
      (by simpa using hD)
    by_cases hv : v = .none
    · have h₁ : relationshipPropertyEntry json (f, v) = none := by
        simp [relationshipPropertyEntry, hv]
      have h₂ : plainEntry (f, v) = none := by simp [plainEntry, hv]
      simpa [List.filterMap_cons, List.filterMap_append, h₁, h₂] using ih
    · have h₁ : relationshipPropertyEntry json (f, v) = some (.str f.name, storedValue json f v) := by
        simp [relationshipPropertyEntry, hv, hkind f hf, hkey f hf]
      have h₂ : plainEntry (f, v) = some (.str f.name, v) := by simp [plainEntry, hv]
      have hfresh := lookup_plainEntries_prefix hD
      have hstep : ∀ rest, deserializeRelationshipField json T
          (D₁.filterMap plainEntry ++ (.str f.name, storedValue json f v) :: rest)
          (.str f.name, storedValue json f v) = .ok (D₁.filterMap plainEntry ++ (.str f.name, v) :: rest) := by
        intro rest
        rw [deserializeRelationshipField_name json hf]
        by_cases hj : f.isEmbeddedJson
        · have := hjson _ hx hv hj
          simp only [JsonModule.RoundTrips] at this
          simp [hj, storedValue, JsonModule.loadsValue, this, bind, Except.bind, pure, Except.pure,
            PyDict.setItem_append_cons _ _ hfresh]
        · simp [hj, storedValue]
      simp only [List.filterMap_cons, h₁, List.foldlM_cons, hstep]
      simpa [List.filterMap_append, h₂, bind, Except.bind] using ih

theorem keys_of_foldlM_deserializeRelationshipField (json : JsonModule) :
    ∀ (entries : List (PyValue × PyValue)) {d d' : PyDict PyValue PyValue},
      entries.foldlM (deserializeRelationshipField json T) d = .ok d' →
      ∀ kv ∈ entries, ∃ f ∈ T.fields, kv.1 = .str f.name
  | [], _, _, _ => by simp
  | kv :: rest, d, d', h => by
    rw [List.foldlM_cons, bind_eq_ok] at h
    obtain ⟨d₁, h₁, h₂⟩ := h
    obtain ⟨f, hf, -⟩ := bind_eq_ok.1 h₁
    intro kv' hkv'
    rcases List.mem_cons.1 hkv' with rfl | hkv'
    · exact ⟨f, EntityType.modelField_eq_ok hf⟩
    · exact keys_of_foldlM_deserializeRelationshipField json rest h₂ kv' hkv'

/-- A relationship whose fields are not related nodes and are each stored under their own name
survives `serialize_relationship` and `deserialize_relationship` field by field, JSON-stored
values decoded back, except that a field that was `None` comes back as its default. -/
theorem deserializeRelationship_serializeRelationship (json : JsonModule) (r : Instance T)
    (hkind : ∀ f ∈ T.fields, f.isRelated = false)
    (hkey : ∀ f ∈ T.fields, relationshipStorageKey f = .str f.name)
    (hjson : ∀ fv ∈ r.modelDump, fv.2 ≠ .none → fv.1.isEmbeddedJson → json.RoundTrips fv.2)
    (hdefault : ∀ fv ∈ r.modelDump, fv.2 = .none → fv.1.default.isSome) :
    (deserializeRelationship json (serializeRelationship json r).properties T).map
      Instance.values = .ok (r.modelDump.map restoredValue) := by
  have hprops : (serializeRelationship json r).properties =
      r.modelDump.filterMap (relationshipPropertyEntry json) := by
    rw [serializeRelationship_properties, PyDict.insertAll_of_nodup (by simp), List.nil_append]
    refine (PyDict.map_fst_filterMap_sublist _ (fun fv => some (PyValue.str fv.1.name))
      fun fv hfv kv h => ?_).nodup ?_
    · rw [relationshipPropertyEntry_key h, hkey _ (Instance.mem_fields hfv)]
    · show (List.filterMap (some ∘ fun fv : FieldDecl × PyValue => PyValue.str fv.1.name)
        r.modelDump).Nodup
      rw [List.filterMap_eq_map]
      exact r.nodup_keys
  have hloop := foldlM_deserializeRelationshipField json r hkind hkey hjson r.modelDump [] rfl
  simp only [List.filterMap_nil, List.nil_append] at hloop
  simp only [deserializeRelationship, hprops, hloop, bind, Except.bind]
  exact construct_plainEntries r hdefault

/-- The `WORKS_FOR` relationship of the examples, with an embedded JSON field added. -/
def worksFor : EntityType :=
  ⟨"WorksFor", none, some "WORKS_FOR",
    [⟨"position", none, none⟩, ⟨"salary", none, some .none⟩, ⟨"is_remote", none, some (.bool false)⟩,
      ⟨"details", some ⟨.embedded, none, "json", none, false⟩, some .none⟩], by decide⟩

theorem deserializeRelationship_serializeRelationship_worksFor :
    (deserializeRelationship detailsJson
      (serializeRelationship detailsJson (⟨[.str "Engineer", .none, .bool true, .obj 7], rfl⟩ :
        Instance worksFor)).properties worksFor).map Instance.values =
      .ok [.str "Engineer", .none, .bool true, .obj 7] :=
  deserializeRelationship_serializeRelationship detailsJson _ (by decide) (by decide)
    (by
      intro fv hfv hv _
      simp only [Instance.modelDump, worksFor, List.zip_cons_cons, List.zip_nil_right,
        List.mem_cons, List.not_mem_nil, or_false] at hfv
      rcases hfv with rfl | rfl | rfl | rfl <;>
        simp_all [FieldDecl.isEmbeddedJson, JsonModule.RoundTrips, detailsJson])
    (by decide)

/-- A relationship with a non-`None` simple field that has field info but no label does not
survive the round trip: `serialize_relationship` stores the value under the key `None`, which
names no field. -/
theorem deserializeRelationship_serializeRelationship_unlabelled_simple (json : JsonModule)
    (r : Instance T) {fv : FieldDecl × PyValue} (hfv : fv ∈ r.modelDump) (hv : fv.2 ≠ .none)
    {i : PropertyFieldInfo} (hi : fv.1.info = some i) (hs : i.fieldType = .simple)
    (hl : i.label = none) (x : Instance T) :
    deserializeRelationship json (serializeRelationship json r).properties T ≠ .ok x := fun h => by
  have hentry : relationshipPropertyEntry json fv = some (.none, storedValue json fv.1 fv.2) := by
    have hr : fv.1.isRelated = false := by simp [FieldDecl.isRelated, hi, hs]
    simp [relationshipPropertyEntry, relationshipStorageKey, hv, hr, hi, hs, hl]
  have hmem : PyDict.contains (serializeRelationship json r).properties .none := by
    rw [serializeRelationship_properties]
    exact PyDict.contains_insertAll
      (.inl (List.mem_map.2 ⟨_, List.mem_filterMap.2 ⟨fv, hfv, hentry⟩, rfl⟩))
  obtain ⟨kv, hkv, hk⟩ := List.mem_map.1 ((PyDict.contains_iff_mem_keys _ _).1 hmem)
  obtain ⟨d, hd, -⟩ := bind_eq_ok.1 h
  obtain ⟨f, -, hf⟩ := keys_of_foldlM_deserializeRelationshipField json _ hd kv hkv
  rw [hk] at hf
  cases hf

/-- `WORKS_FOR` with its `position` declared by `property_field()` without a label. -/
def worksForUnlabelled : EntityType :=
  ⟨"WorksFor", none, some "WORKS_FOR",
    [⟨"position", some ⟨.simple, none, "json", none, false⟩, none⟩], by decide⟩

theorem deserializeRelationship_serializeRelationship_unlabelled_position :
    (⟨"position", some ⟨.simple, none, "json", none, false⟩, none⟩, .str "Engineer") ∈
        (⟨[.str "Engineer"], rfl⟩ : Instance worksForUnlabelled).modelDump ∧
      ∀ x, deserializeRelationship detailsJson (serializeRelationship detailsJson
        (⟨[.str "Engineer"], rfl⟩ : Instance worksForUnlabelled)).properties worksForUnlabelled ≠
          .ok x := by
  have hfv : (⟨"position", some ⟨.simple, none, "json", none, false⟩, none⟩, .str "Engineer") ∈
      (⟨[.str "Engineer"], rfl⟩ : Instance worksForUnlabelled).modelDump := by decide
  exact ⟨hfv, deserializeRelationship_serializeRelationship_unlabelled_simple detailsJson _ hfv
    (by decide) rfl rfl rfl⟩


/-- A field set to `None` over a non-`None` default does not survive the round trip. -/
theorem deserializeRelationship_none_field_takes_default :
    ¬ ∀ (json : JsonModule) (T : EntityType) (r : Instance T),
      (∀ f ∈ T.fields, f.isRelated = false) → (T.fields.map setLabelOrName).Nodup →
      deserializeRelationship json (serializeRelationship json r).properties T = .ok r :=
  fun h => by
  have := h detailsJson ⟨"WorksFor", none, none, [⟨"is_remote", none, some (.bool false)⟩],
    by decide⟩ ⟨[.none], rfl⟩ (by decide) (by decide)
  have hv := congrArg (Except.map Instance.values) this
  exact absurd (Except.ok.inj hv) (by decide)

/-- `{f: e.f for every non-None RELATED_NODE field f}`, the related values a caller supplies. -/
def relatedEntry (fv : FieldDecl × PyValue) : Option (String × PyValue) :=
  if fv.2 ≠ .none ∧ fv.1.isRelated then some (fv.1.name, fv.2) else none

def relatedValues (e : Instance T) : PyDict String PyValue := e.modelDump.filterMap relatedEntry

/-- The row a query returns for a node: its serialized properties, and under the name of each
related field the `field: alias` item of `get_complex_property_return`, with any value. -/
def nodeRow (json : JsonModule) (e : Instance T) (extra : String → PyValue) :
    PyDict PyValue PyValue :=
  (serializeNode json e).properties ++ (relatedValues e).map fun kv => (.str kv.1, extra kv.1)

theorem deserializeNodeComplexField_related (json : JsonModule) {f : FieldDecl}
    (hf : f ∈ T.fields) (hrel : f.isRelated) {d : PyDict PyValue PyValue}
    (hd : PyDict.contains d (.str f.name)) (cd : PyValue) :
    deserializeNodeComplexField json T d (f.name, cd) = .ok (PyDict.setItem d (.str f.name) cd) := by
  simp only [deserializeNodeComplexField, hd, if_true, EntityType.modelField_name hf]
  rcases f with ⟨name, _ | ⟨_ | _ | _, label, storage, rt, priv⟩, default⟩ <;>
    simp_all [FieldDecl.isRelated, bind, Except.bind, pure, Except.pure]

theorem foldlM_deserializeNodeComplexField (json : JsonModule) :
    ∀ (cs : List (String × PyValue)), (∀ kv ∈ cs, ∃ f ∈ T.fields, f.name = kv.1 ∧ f.isRelated) →
      ∀ d : PyDict PyValue PyValue, (∀ kv ∈ cs, PyDict.contains d (.str kv.1)) →
      cs.foldlM (deserializeNodeComplexField json T) d =
        .ok (PyDict.insertAll d (cs.map fun kv => (.str kv.1, kv.2)))
  | [], _, d, _ => rfl
  | kv :: cs, hrel, d, hd => by
    obtain ⟨f, hf, hname, hr⟩ := hrel kv (List.mem_cons_self _ _)
    have hk := hd kv (List.mem_cons_self _ _)
    rw [← hname] at hk
    have hkeys := PyDict.keys_setItem_of_contains kv.2 hk
    have ih := foldlM_deserializeNodeComplexField json cs
      (fun kv' h => hrel kv' (List.mem_cons_of_mem _ h)) (PyDict.setItem d (.str f.name) kv.2)
      fun kv' h => by
        rw [PyDict.contains_iff_mem_keys, hkeys, ← PyDict.contains_iff_mem_keys]
        exact hd kv' (List.mem_cons_of_mem _ h)
    obtain ⟨n, cd⟩ := kv
    simp only at hname
    subst hname
    simp only [List.foldlM_cons, deserializeNodeComplexField_related json hf hr hk, bind,
      Except.bind, ih]
    rfl

theorem relatedEntry_key {fv : FieldDecl × PyValue} {kv : String × PyValue}
    (h : relatedEntry fv = some kv) : kv.1 = fv.1.name := by
  unfold relatedEntry at h
  split at h <;> cases h; rfl

theorem lookup_related_map (e : Instance T) (value : String × PyValue → PyValue)
    {fv : FieldDecl × PyValue} (hfv : fv ∈ e.modelDump) :
    ((relatedValues e).map fun kv => (PyValue.str kv.1, value kv)).lookup (.str fv.1.name) =
      (relatedEntry fv).map value := by
  rw [relatedValues, List.map_filterMap]
  rw [PyDict.lookup_filterMap _ (fun fv => PyValue.str fv.1.name) (fun x _ kv h => ?_) e.nodup_keys
    hfv]
  · cases relatedEntry fv <;> rfl
  · obtain ⟨kv', hkv', rfl⟩ := Option.map_eq_some'.1 h
    rw [relatedEntry_key hkv']

theorem nodup_nodePropertyKey
    (hkey : ∀ f ∈ T.fields, f.isRelated = false → nodeStorageKey f = f.name) :
    (T.fields.filterMap nodePropertyKey).Nodup :=
  (filterMap_sublist_map FieldDecl.name fun f hf b h => by
    unfold nodePropertyKey at h
    split at h
    · cases h
    · rename_i hn
      cases h; exact hkey f hf (by simpa using hn)).nodup T.nodup

theorem lookup_nodeRow (json : JsonModule) (e : Instance T) (extra : String → PyValue)
    (hkey : ∀ f ∈ T.fields, f.isRelated = false → nodeStorageKey f = f.name)
    {fv : FieldDecl × PyValue} (hfv : fv ∈ e.modelDump) :
    (nodeRow json e extra).lookup (.str fv.1.name) =
      if fv.2 = .none then none
      else some (if fv.1.isRelated then extra fv.1.name else storedValue json fv.1 fv.2) := by
  have hentry : ∀ x ∈ e.modelDump, ∀ kv, nodePropertyEntry json x = some kv →
      kv.1 = .str x.1.name := fun x hx kv h => by
    rw [nodePropertyEntry_key h, hkey _ (Instance.mem_fields hx)]
    unfold nodePropertyEntry at h
    split at h
    · cases h
    · rename_i hn
      simp only [not_or, Bool.not_eq_true] at hn
      exact hn.2
  rw [nodeRow, List.lookup_append, lookup_related_map e (fun kv => extra kv.1) hfv,
    serializeNode_properties_of_nodup json e (nodup_nodePropertyKey hkey),
    PyDict.lookup_filterMap (nodePropertyEntry json) (fun fv => PyValue.str fv.1.name) hentry
      e.nodup_keys hfv]
  obtain ⟨f, v⟩ := fv
  by_cases hv : v = .none <;> by_cases hr : f.isRelated <;>
    simp [relatedEntry, nodePropertyEntry, hv, hr]

theorem lookup_nodeData (json : JsonModule) (e : Instance T) (extra : String → PyValue)
    (hkey : ∀ f ∈ T.fields, f.isRelated = false → nodeStorageKey f = f.name)
    {fv : FieldDecl × PyValue} (hfv : fv ∈ e.modelDump) :
    (PyDict.insertAll (nodeRow json e extra)
      ((relatedValues e).map fun kv => (.str kv.1, kv.2))).lookup (.str fv.1.name) =
      if fv.2 = .none then none
      else some (if fv.1.isRelated then fv.2 else storedValue json fv.1 fv.2) := by
  have hnd : (((relatedValues e).map fun kv => (PyValue.str kv.1, kv.2)).map Prod.fst).Nodup := by
    rw [List.map_map, relatedValues, List.map_filterMap]
    refine (filterMap_sublist_map (fun fv => PyValue.str fv.1.name) fun x _ b h => ?_).nodup
      e.nodup_keys
    obtain ⟨kv, hkv, rfl⟩ := Option.map_eq_some'.1 h
    simp [relatedEntry_key hkv]
  rw [PyDict.lookup_insertAll hnd, lookup_related_map e Prod.snd hfv,
    lookup_nodeRow json e extra hkey hfv]
  obtain ⟨f, v⟩ := fv
  by_cases hv : v = .none <;> by_cases hr : f.isRelated <;> simp [relatedEntry, hv, hr]

theorem str_keys_nodeRow (json : JsonModule) (e : Instance T) (extra : String → PyValue) :
    ∀ kv ∈ nodeRow json e extra, ∃ s, kv.1 = .str s := fun kv hkv => by
  rcases List.mem_append.1 hkv with h | h
  · rw [serializeNode_properties] at h
    refine PyDict.forall_insertAll (P := fun k => ∃ s, k = PyValue.str s) (by simp)
      (fun kv' hkv' => ?_) kv h
    obtain ⟨fv, -, h'⟩ := List.mem_filterMap.1 hkv'
    exact ⟨_, nodePropertyEntry_key h'⟩
  · obtain ⟨kv', -, rfl⟩ := List.mem_map.1 h
    exact ⟨_, rfl⟩

theorem str_keys_nodeData (json : JsonModule) (e : Instance T) (extra : String → PyValue) :
    ∀ kv ∈ PyDict.insertAll (nodeRow json e extra)
      ((relatedValues e).map fun kv => (.str kv.1, kv.2)), ∃ s, kv.1 = .str s :=
  PyDict.forall_insertAll (P := fun k => ∃ s, k = PyValue.str s) (str_keys_nodeRow json e extra)
    fun kv hkv => by
      obtain ⟨kv', -, rfl⟩ := List.mem_map.1 hkv
      exact ⟨_, rfl⟩

theorem mem_relatedValues_iff {e : Instance T} {kv : String × PyValue} :
    kv ∈ relatedValues e ↔
      ∃ fv ∈ e.modelDump, (fv.2 ≠ .none ∧ fv.1.isRelated) ∧ (fv.1.name, fv.2) = kv := by
  simp only [relatedValues, relatedEntry, List.mem_filterMap, Option.ite_none_right_eq_some,
    Option.some.injEq]

theorem mem_relatedValues {e : Instance T} {kv : String × PyValue} (h : kv ∈ relatedValues e) :
    ∃ f ∈ T.fields, f.name = kv.1 ∧ f.isRelated := by
  obtain ⟨fv, hfv, ⟨-, hr⟩, rfl⟩ := mem_relatedValues_iff.1 h
  exact ⟨fv.1, Instance.mem_fields hfv, rfl, hr⟩

/-- A node whose fields other than related nodes are stored under their own names comes back
from its row and its related values field by field, a field that was `None` as its default.
Nothing is said here of embedded fields with `"json"` storage. -/
theorem deserializeNode_nodeRow (json : JsonModule) (e : Instance T) (extra : String → PyValue)
    (hkey : ∀ f ∈ T.fields, f.isRelated = false → nodeStorageKey f = f.name)
    (hdefault : ∀ fv ∈ e.modelDump, fv.2 = .none → fv.1.default.isSome) :
    ∃ e', deserializeNode json (nodeRow json e extra) T (some (relatedValues e)) = .ok e' ∧
      List.Forall₂ (fun fv v => fv.1.isEmbeddedJson ∨ v = restoredValue fv) e.modelDump
        e'.values := by
  have hcont : ∀ kv ∈ relatedValues e, PyDict.contains (nodeRow json e extra) (.str kv.1) :=
    fun kv hkv => by
      rw [PyDict.contains_iff_mem_keys, nodeRow, List.map_append, List.map_map]
      exact List.mem_append_right _ (List.mem_map_of_mem _ hkv)
  rw [deserializeNode_some, foldlM_deserializeNodeComplexField json _ (fun _ => mem_relatedValues)
    _ hcont]
  obtain ⟨e', he', hv⟩ := construct_of_lookup e (str_keys_nodeData json e extra) hdefault _
    fun fv hfv => lookup_nodeData json e extra hkey hfv
  refine ⟨e', he', ?_⟩
  rw [hv, List.forall₂_map_right_iff, List.forall₂_same]
  intro fv _
  by_cases hv : fv.2 = .none
  · simp [hv, restoredValue]
  · by_cases hr : fv.1.isRelated
    · simp [hv, hr, restoredValue]
    · by_cases hj : fv.1.isEmbeddedJson <;> simp [hv, hr, hj, storedValue, restoredValue]

theorem deserializeNode_nodeRow_person :
    ∃ e', deserializeNode detailsJson
      (nodeRow detailsJson (⟨[.str "p1", .str "Ada", .none, .obj 7, .obj 2], rfl⟩ : Instance person)
        fun _ => .none) person
      (some (relatedValues (⟨[.str "p1", .str "Ada", .none, .obj 7, .obj 2], rfl⟩ : Instance person))) =
      .ok e' ∧
    List.Forall₂ (fun fv v => fv.1.isEmbeddedJson ∨ v = restoredValue fv)
      (⟨[.str "p1", .str "Ada", .none, .obj 7, .obj 2], rfl⟩ : Instance person).modelDump e'.values :=
  deserializeNode_nodeRow detailsJson _ _ (by decide) (by decide)

/-- A field set to `None` over a non-`None` default comes back as the default. -/
theorem deserializeNode_none_field_takes_default :
    ¬ ∀ (json : JsonModule) (T : EntityType) (e : Instance T) (extra : String → PyValue),
      (T.fields.map setLabelOrName).Nodup →
      deserializeNode json (nodeRow json e extra) T (some (relatedValues e)) = .ok e := fun h => by
  have := h detailsJson ⟨"Person", none, none,
    [⟨"city", some ⟨.simple, none, "json", none, false⟩, some (.str "Seattle")⟩], by decide⟩
    ⟨[.none], rfl⟩ (fun _ => .none) (by decide)
  have hv := congrArg (Except.map Instance.values) this
  exact absurd (Except.ok.inj hv) (by decide)

/-- An embedded field with `"json"` storage keeps its JSON text through `deserialize_node` when it
is not among the complex properties, while `deserialize_relationship` decodes it. -/
theorem deserializeNode_embedded_json_not_decoded :
    (deserializeNode detailsJson
      (nodeRow detailsJson (⟨[.obj 7], rfl⟩ : Instance ⟨"Person", none, none,
        [⟨"skills", some ⟨.embedded, none, "json", none, false⟩, none⟩], by decide⟩) fun _ => .none)
      ⟨"Person", none, none, [⟨"skills", some ⟨.embedded, none, "json", none, false⟩, none⟩],
        by decide⟩ (some [])).map Instance.values = .ok [.str "[1]"] ∧
    (deserializeRelationship detailsJson
      (serializeRelationship detailsJson (⟨[.obj 7], rfl⟩ : Instance ⟨"Person", none, none,
        [⟨"skills", some ⟨.embedded, none, "json", none, false⟩, none⟩], by decide⟩)).properties
      ⟨"Person", none, none, [⟨"skills", some ⟨.embedded, none, "json", none, false⟩, none⟩],
        by decide⟩).map Instance.values = .ok [.obj 7] := ⟨rfl, rfl⟩

end GraphModel.Neo4j
