import GraphModel.Neo4j.Deserialize

/-!
# The full node round trip

In `deserialize_node`, the loop over `complex_properties` is the only place that calls
`json.loads`. So an embedded field stored as `"json"` is decoded only when its name is among the
complex properties. A caller who passes, in any order, the related nodes and an entry with any
value for every JSON-stored field gets every field of the node back:
- a related node comes back as supplied;
- a JSON-stored field is decoded from its text;
- every other field comes back as stored;
- a field that was `None` comes back as its default.

The loop is read one entry at a time (`deserializeNodeComplexField_nodeRow`): while a field's
name is still to come the node data holds the row's entry for it, and once the name is visited
it holds the field's own value. The caller's obligations are the hypotheses of
`deserializeNode_nodeRow_complexProperties`, nothing more: fields stored under their own names,
a `json` module that decodes what it encoded, a default for every field that was `None`, and
complex properties with distinct names made of the related values and one entry per JSON-stored
field.
-/
namespace GraphModel.Neo4j

open GraphModel.Python GraphModel.Attributes

variable {T : EntityType}

theorem deserializeNodeComplexField_of_lookup_eq_none (json : JsonModule)
    {d : PyDict PyValue PyValue} (entry : String × PyValue) (hd : d.lookup (.str entry.1) = none) :
    deserializeNodeComplexField json T d entry = .ok d := by
  have hc : PyDict.contains d (.str entry.1) = false := by simp [PyDict.contains, hd]
  simp only [deserializeNodeComplexField, hc]
  rfl

theorem deserializeNodeComplexField_json (json : JsonModule) {f : FieldDecl} (hf : f ∈ T.fields)
    (hj : f.isEmbeddedJson) {d : PyDict PyValue PyValue} {s : String}
    (hd : d.lookup (.str f.name) = some (.str s)) (c : PyValue) :
    deserializeNodeComplexField json T d (f.name, c) =
      (json.loads s).map (PyDict.setItem d (.str f.name)) := by
  have hc : PyDict.contains d (.str f.name) = true := by simp [PyDict.contains, hd]
  simp only [deserializeNodeComplexField, hc, if_true, EntityType.modelField_name hf, hd,
    Option.getD_some]
  rcases f with ⟨name, _ | ⟨_ | _ | _, label, storage, rt, priv⟩, default⟩ <;>
    simp only [FieldDecl.isEmbeddedJson, reduceCtorEq, false_and, true_and, decide_False,
      decide_eq_true_eq, Bool.false_eq_true] at hj
  subst hj
  simp only [bind, Except.bind, if_true, JsonModule.loadsValue]
  cases json.loads s <;> rfl

/-- The row already holds the final value of every field whose name the complex properties
leave out. -/
theorem lookup_nodeRow_of_not_mem (json : JsonModule) (e : Instance T) (extra : String → PyValue)
    (hkey : ∀ f ∈ T.fields, f.isRelated = false → nodeStorageKey f = f.name)
    {cs : PyDict String PyValue} (hrel : ∀ kv ∈ relatedValues e, kv ∈ cs)
    (hjs : ∀ f ∈ T.fields, f.isEmbeddedJson → f.name ∈ cs.map Prod.fst)
    {fv : FieldDecl × PyValue} (hfv : fv ∈ e.modelDump) (hn : fv.1.name ∉ cs.map Prod.fst) :
    (nodeRow json e extra).lookup (.str fv.1.name) = if fv.2 = .none then none else some fv.2 := by
  rw [lookup_nodeRow json e extra hkey hfv]
  by_cases hv : fv.2 = .none
  · simp [hv]
  have hr : fv.1.isRelated = false := by
    by_contra hr
    exact hn (List.mem_map_of_mem Prod.fst
      (hrel _ (mem_relatedValues_iff.2 ⟨fv, hfv, ⟨hv, by simpa using hr⟩, rfl⟩)))
  have hj : fv.1.isEmbeddedJson = false := by
    by_contra hj
    exact hn (hjs _ (Instance.mem_fields hfv) (by simpa using hj))
  simp [hv, hr, hj, storedValue]

section NodeRow

variable (json : JsonModule) (e : Instance T) (extra : String → PyValue)
  (hkey : ∀ f ∈ T.fields, f.isRelated = false → nodeStorageKey f = f.name)
  (hjson : ∀ fv ∈ e.modelDump, fv.2 ≠ .none → fv.1.isEmbeddedJson → json.RoundTrips fv.2)
include hkey hjson

/-- One pass of the complex loop at the name of a dumped field that is a related node supplied
with its own value, or a JSON-stored field with any value, on node data that still holds the
row's entry there: the field's own value is written under its name, nothing when it is `None`,
and every other key keeps its value. -/
theorem deserializeNodeComplexField_nodeRow {fv : FieldDecl × PyValue} (hfv : fv ∈ e.modelDump)
    {c : PyValue} (hc : fv.1.isRelated ∧ c = fv.2 ∨ fv.1.isEmbeddedJson)
    {d : PyDict PyValue PyValue}
    (hd : d.lookup (.str fv.1.name) = (nodeRow json e extra).lookup (.str fv.1.name)) :
    ∃ d', deserializeNodeComplexField json T d (fv.1.name, c) = .ok d' ∧
      d'.lookup (.str fv.1.name) = (if fv.2 = .none then none else some fv.2) ∧
      ∀ k ≠ .str fv.1.name, d'.lookup k = d.lookup k := by
  have hf := Instance.mem_fields hfv
  rw [lookup_nodeRow json e extra hkey hfv] at hd
  by_cases hv : fv.2 = .none
  · rw [if_pos hv] at hd
    exact ⟨d, deserializeNodeComplexField_of_lookup_eq_none json _ hd, by rw [hd, if_pos hv],
      fun _ _ => rfl⟩
  rw [if_neg hv] at hd ⊢
  refine ⟨PyDict.setItem d (.str fv.1.name) fv.2, ?_, PyDict.lookup_setItem_self _ _ _,
    fun k hk => PyDict.lookup_setItem_of_ne _ _ hk⟩
  rcases hc with ⟨hr, rfl⟩ | hj
  · exact deserializeNodeComplexField_related json hf hr (by simp [PyDict.contains, hd]) _
  · have hrt : json.loads (json.dumps fv.2) = .ok fv.2 := hjson fv hfv hv hj
    rw [FieldDecl.isRelated_eq_false_of_isEmbeddedJson hj, storedValue, if_pos hj] at hd
    rw [deserializeNodeComplexField_json json hf hj hd, hrt]
    rfl

theorem foldlM_deserializeNodeComplexField_nodeRow :
    ∀ (cs : PyDict String PyValue), (cs.map Prod.fst).Nodup →
      (∀ kv ∈ cs, ∃ fv ∈ e.modelDump, fv.1.name = kv.1 ∧
        (fv.1.isRelated ∧ kv.2 = fv.2 ∨ fv.1.isEmbeddedJson)) →
      ∀ d : PyDict PyValue PyValue, (∀ fv ∈ e.modelDump, d.lookup (.str fv.1.name) =
        if fv.1.name ∈ cs.map Prod.fst then (nodeRow json e extra).lookup (.str fv.1.name)
        else if fv.2 = .none then none else some fv.2) →
      ∃ d', cs.foldlM (deserializeNodeComplexField json T) d = .ok d' ∧
        ∀ fv ∈ e.modelDump, d'.lookup (.str fv.1.name) = if fv.2 = .none then none else some fv.2
  | [], _, _, d, hd => ⟨d, rfl, fun fv hfv => by simpa using hd fv hfv⟩
  | ⟨n, c⟩ :: cs, hnd, hcs, d, hd => by
    obtain ⟨fv₀, hfv₀, rfl, hc⟩ := hcs _ (List.mem_cons_self _ _)
    simp only [List.map_cons, List.nodup_cons] at hnd
    obtain ⟨d₁, h₁, hself, hother⟩ := deserializeNodeComplexField_nodeRow json e extra hkey hjson
      hfv₀ hc (by simpa using hd fv₀ hfv₀)
    obtain ⟨d', h', hd'⟩ := foldlM_deserializeNodeComplexField_nodeRow cs hnd.2
      (fun kv hkv => hcs kv (List.mem_cons_of_mem _ hkv)) d₁ fun fv hfv => by
        by_cases hn : fv.1.name = fv₀.1.name
        · obtain rfl : fv = fv₀ := List.inj_on_of_nodup_map e.nodup_keys hfv hfv₀ (by simp [hn])
          rw [hself, if_neg hnd.1]
        · rw [hother _ (by simpa using hn), hd fv hfv]
          simp only [List.map_cons, List.mem_cons, hn, false_or]
    exact ⟨d', by rw [List.foldlM_cons, h₁]; exact h', hd'⟩

/-- A node whose fields other than related nodes are stored under their own names comes back
whole from its row when the complex properties, in any order, hold its related values and an
entry with any value for each JSON-stored field: every field is restored, a field that was
`None` as its default. -/
theorem deserializeNode_nodeRow_complexProperties (cs : PyDict String PyValue)
    (hdefault : ∀ fv ∈ e.modelDump, fv.2 = .none → fv.1.default.isSome)
    (hnd : (cs.map Prod.fst).Nodup) (hrel : ∀ kv ∈ relatedValues e, kv ∈ cs)
    (hjs : ∀ f ∈ T.fields, f.isEmbeddedJson → f.name ∈ cs.map Prod.fst)
    (hcs : ∀ kv ∈ cs, kv ∈ relatedValues e ∨ ∃ f ∈ T.fields, f.name = kv.1 ∧ f.isEmbeddedJson) :
    (deserializeNode json (nodeRow json e extra) T (some cs)).map Instance.values =
      .ok (e.modelDump.map restoredValue) := by
  have hentries : ∀ kv ∈ cs, ∃ fv ∈ e.modelDump, fv.1.name = kv.1 ∧
      (fv.1.isRelated ∧ kv.2 = fv.2 ∨ fv.1.isEmbeddedJson) := fun kv hkv => by
    rcases hcs kv hkv with h | ⟨f, hf, hname, hj⟩
    · obtain ⟨fv, hfv, ⟨-, hr⟩, rfl⟩ := mem_relatedValues_iff.1 h
      exact ⟨fv, hfv, rfl, .inl ⟨hr, rfl⟩⟩
    · obtain ⟨fv, hfv, rfl⟩ := List.mem_map.1 (e.map_fst_modelDump ▸ hf)
      exact ⟨fv, hfv, hname, .inr hj⟩
  obtain ⟨d', hloop, hd'⟩ := foldlM_deserializeNodeComplexField_nodeRow json e extra hkey hjson cs
    hnd hentries _ fun fv hfv => by
      by_cases hn : fv.1.name ∈ cs.map Prod.fst
      · rw [if_pos hn]
      · rw [if_neg hn, lookup_nodeRow_of_not_mem json e extra hkey hrel hjs hfv hn]
  obtain ⟨e', he', hv⟩ := construct_of_lookup e
    (str_keys_foldlM_deserializeNodeComplexField json hloop (str_keys_nodeRow json e extra))
    hdefault Prod.snd hd'
  rw [deserializeNode_some, hloop]
  simp only [bind, Except.bind, he']
  exact congrArg Except.ok hv

end NodeRow

theorem deserializeNode_nodeRow_complexProperties_person :
    (deserializeNode detailsJson
      (nodeRow detailsJson (⟨[.str "p1", .str "Ada", .none, .obj 7, .obj 2], rfl⟩ : Instance person)
        fun _ => .none) person
      (some [("contact_info", .int 5), ("home_address", .obj 2)])).map Instance.values =
      .ok [.str "p1", .str "Ada", .int 0, .obj 7, .obj 2] :=
  deserializeNode_nodeRow_complexProperties detailsJson _ _ (by decide)
    (by
      intro fv hfv hv _
      simp only [Instance.modelDump, person, List.zip_cons_cons, List.zip_nil_right,
        List.mem_cons, List.not_mem_nil, or_false] at hfv
      rcases hfv with rfl | rfl | rfl | rfl | rfl <;>
        simp_all [FieldDecl.isEmbeddedJson, JsonModule.RoundTrips, detailsJson])
    _ (by decide) (by decide) (by decide) (by decide) (by decide)

end GraphModel.Neo4j
