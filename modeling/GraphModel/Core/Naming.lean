import GraphModel.Python.Value
import Mathlib.Data.String.Basic

/-!
# Relationship type names of complex properties

A related-node field with no explicit relationship type is stored under the synthetic type
`"__PROPERTY__" + name + "__"`, and `relationship_type_name_to_property_name` strips the two
affixes again when a name starts with the first and ends with the second. The strip is a left
inverse of the naming on every string. It is not the identity elsewhere: on the two names in
which the affixes overlap, `"__PROPERTY__"` and `"__PROPERTY___"`, the slice `[12:-2]` is
empty, so an unrelated type name is mapped to the empty name.
-/
namespace GraphModel.Core.GraphDataModel

open GraphModel.Python

def propertyRelationshipTypeNamePrefix : String := "__PROPERTY__"

def propertyRelationshipTypeNameSuffix : String := "__"

@[simp] theorem length_propertyRelationshipTypeNamePrefix :
    propertyRelationshipTypeNamePrefix.length = 12 := by decide

@[simp] theorem length_propertyRelationshipTypeNameSuffix :
    propertyRelationshipTypeNameSuffix.length = 2 := by decide

def propertyNameToRelationshipTypeName (propertyName : String) : String :=
  propertyRelationshipTypeNamePrefix ++ propertyName ++ propertyRelationshipTypeNameSuffix

def relationshipTypeNameToPropertyName (relationshipTypeName : String) : String :=
  if startswith relationshipTypeName propertyRelationshipTypeNamePrefix &&
      endswith relationshipTypeName propertyRelationshipTypeNameSuffix then
    slice relationshipTypeName propertyRelationshipTypeNamePrefix.length
      (-(propertyRelationshipTypeNameSuffix.length : Int))
  else relationshipTypeName

theorem toList_propertyNameToRelationshipTypeName (p : String) :
    (propertyNameToRelationshipTypeName p).toList =
      "__PROPERTY__".toList ++ p.toList ++ "__".toList := by
  simp [propertyNameToRelationshipTypeName, propertyRelationshipTypeNamePrefix,
    propertyRelationshipTypeNameSuffix]

theorem toList_relationshipTypeNameToPropertyName_of_affixes {s : String}
    (hs : startswith s "__PROPERTY__") (he : endswith s "__") :
    (relationshipTypeNameToPropertyName s).toList = (s.toList.drop 12).take (s.length - 2 - 12) := by
  have hlen : 12 ≤ s.length := by
    simpa [← String.length_data] using ((startswith_iff _ _).1 hs).length_le
  have hlo : sliceBound s.length ((12 : Nat) : Int) = 12 := by simp [sliceBound]; omega
  have hhi : sliceBound s.length (-((2 : Nat) : Int)) = s.length - 2 := by
    rw [sliceBound, if_pos (by decide)]; omega
  have hif : (startswith s propertyRelationshipTypeNamePrefix &&
      endswith s propertyRelationshipTypeNameSuffix) = true := by
    simp [propertyRelationshipTypeNamePrefix, propertyRelationshipTypeNameSuffix, hs, he]
  rw [relationshipTypeNameToPropertyName, if_pos hif, slice_eq,
    length_propertyRelationshipTypeNamePrefix, length_propertyRelationshipTypeNameSuffix]
  rw [hlo, hhi]

theorem eq_append_slice_of_affixes {α : Type} {pre suf s : List α} (hp : pre <+: s)
    (hs : suf <:+ s) (hl : pre.length + suf.length ≤ s.length) :
    s = pre ++ (s.drop pre.length).take (s.length - suf.length - pre.length) ++ suf := by
  obtain ⟨r, rfl⟩ := hp
  obtain ⟨t, ht⟩ := hs
  have hk : (r.drop (r.length - suf.length)) = suf := by
    have htl := congrArg List.length ht
    simp only [List.length_append] at htl hl
    have h₁ : (pre.drop (pre.length + (r.length - suf.length))) = [] :=
      List.drop_eq_nil_of_le (by omega)
    have h₂ : (t.drop (pre.length + (r.length - suf.length))) = [] :=
      List.drop_eq_nil_of_le (by omega)
    have := congrArg (List.drop (pre.length + (r.length - suf.length))) ht
    rw [List.drop_append_eq_append_drop, List.drop_append_eq_append_drop, h₁, h₂] at this
    simpa [show pre.length + (r.length - suf.length) - t.length = 0 by omega] using this.symm
  simp only [List.length_append, List.drop_left, List.append_assoc,
    show pre.length + r.length - suf.length - pre.length = r.length - suf.length by omega]
  conv_lhs => rw [← List.take_append_drop (r.length - suf.length) r, hk]

theorem relationshipTypeNameToPropertyName_propertyNameToRelationshipTypeName (p : String) :
    relationshipTypeNameToPropertyName (propertyNameToRelationshipTypeName p) = p := by
  have h := toList_propertyNameToRelationshipTypeName p
  have hs : startswith (propertyNameToRelationshipTypeName p) "__PROPERTY__" := by
    rw [startswith_iff, h, List.append_assoc]; exact List.prefix_append _ _
  have he : endswith (propertyNameToRelationshipTypeName p) "__" := by
    rw [endswith_iff, h]; exact List.suffix_append _ _
  apply String.ext
  rw [← String.toList, toList_relationshipTypeNameToPropertyName_of_affixes hs he,
    ← String.length_data, ← String.toList, h]
  simp [List.drop_left' (show "__PROPERTY__".toList.length = 12 by decide)]

theorem propertyNameToRelationshipTypeName_leftInverse_injective :
    Function.LeftInverse relationshipTypeNameToPropertyName propertyNameToRelationshipTypeName ∧
      Function.Injective propertyNameToRelationshipTypeName :=
  ⟨relationshipTypeNameToPropertyName_propertyNameToRelationshipTypeName,
    Function.LeftInverse.injective
      relationshipTypeNameToPropertyName_propertyNameToRelationshipTypeName⟩

theorem eq_overlapping_of_affixes_of_length_lt {s : String} (hs : startswith s "__PROPERTY__")
    (he : endswith s "__") (hl : s.length < 14) : s = "__PROPERTY__" ∨ s = "__PROPERTY___" := by
  obtain ⟨r, hr⟩ := (startswith_iff _ _).1 hs
  have hlen : r.length ≤ 1 := by
    have := congrArg List.length hr
    have hs : s.toList.length = s.length := String.length_data s
    have : "__PROPERTY__".toList.length = 12 := by decide
    simp only [List.length_append] at *
    omega
  match r, hlen with
  | [], _ => exact .inl (String.ext (by simpa using hr.symm))
  | [c], _ =>
    have hsuf := List.suffix_iff_eq_drop.1 ((endswith_iff _ _).1 he)
    rw [← hr] at hsuf
    have hc : ['_', '_'] = ['_', c] := hsuf
    simp only [List.cons.injEq, and_true, true_and] at hc
    exact .inr (String.ext (by rw [← String.toList, ← hr, ← hc]; rfl))

/-- Apart from the two overlapping names, the strip never touches an unrelated type name: it
returns the name unchanged or a property name that maps back to it. -/
theorem relationshipTypeNameToPropertyName_self_or_inverse {s : String}
    (h₁ : s ≠ "__PROPERTY__") (h₂ : s ≠ "__PROPERTY___") :
    relationshipTypeNameToPropertyName s = s ∨
      propertyNameToRelationshipTypeName (relationshipTypeNameToPropertyName s) = s := by
  by_cases h : startswith s "__PROPERTY__" ∧ endswith s "__"
  · have hl : 14 ≤ s.length := by
      by_contra hlt
      rcases eq_overlapping_of_affixes_of_length_lt h.1 h.2 (by omega) with rfl | rfl <;> simp_all
    right
    apply String.ext
    rw [← String.toList, toList_propertyNameToRelationshipTypeName, ← String.toList,
      toList_relationshipTypeNameToPropertyName_of_affixes h.1 h.2]
    have := eq_append_slice_of_affixes ((startswith_iff _ _).1 h.1) ((endswith_iff _ _).1 h.2)
      (by simpa [← String.length_data] using hl)
    simpa [← String.length_data] using this.symm
  · left
    rw [relationshipTypeNameToPropertyName, if_neg]
    simpa [propertyRelationshipTypeNamePrefix, propertyRelationshipTypeNameSuffix] using h

theorem relationshipTypeNameToPropertyName_self_or_inverse_knows :
    "__PROPERTY__knows__" ≠ "__PROPERTY__" ∧ "__PROPERTY__knows__" ≠ "__PROPERTY___" ∧
      (relationshipTypeNameToPropertyName "__PROPERTY__knows__" = "__PROPERTY__knows__" ∨
        propertyNameToRelationshipTypeName
          (relationshipTypeNameToPropertyName "__PROPERTY__knows__") = "__PROPERTY__knows__") :=
  ⟨by decide, by decide, relationshipTypeNameToPropertyName_self_or_inverse (by decide) (by decide)⟩

theorem relationshipTypeName_unrelated_stripped :
    relationshipTypeNameToPropertyName "__PROPERTY__" = "" ∧ "" ≠ "__PROPERTY__" ∧
      propertyNameToRelationshipTypeName "" ≠ "__PROPERTY__" := by decide

end GraphModel.Core.GraphDataModel
