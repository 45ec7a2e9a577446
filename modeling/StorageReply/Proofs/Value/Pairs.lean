import Mathlib.Data.List.Induction
import StorageReply.Value.Pairs

/-!
# Maps of texts as pairs

A map from texts to texts has texts that differ for its keys. As pairs of values it is a map as it
stands (`merged_ofTexts`), and its keys are the texts again (`named_ofTexts`).
-/

namespace StorageReply

namespace Pairs

/-- A map from texts to texts, as pairs of values. -/
def ofTexts (dict : List (String × String)) : Pairs :=
  dict.map fun pair => (.text pair.1, .text pair.2)

theorem same_text (s t : String) : (Value.text s).same (.text t) = (s == t) := by
  simp [Value.same, Value.sameScalar]

theorem put_ofTexts {dict : List (String × String)} {pair : String × String}
    (h : pair.1 ∉ dict.map Prod.fst) :
    put (.text pair.1, .text pair.2) (ofTexts dict) = ofTexts (dict ++ [pair]) := by
  induction dict with
  | nil => rfl
  | cons other dict ih =>
    rw [List.map_cons, List.mem_cons, not_or] at h
    have hother : (other.1 == pair.1) = false := by simpa using Ne.symm h.1
    have hrest := ih h.2
    simp only [ofTexts, List.map_cons, List.cons_append] at hrest ⊢
    simp [put, same_text, hother, hrest]

theorem foldl_put_ofTexts {dict : List (String × String)} (h : (dict.map Prod.fst).Nodup) :
    (ofTexts dict).foldl (fun done pair => put pair done) [] = ofTexts dict := by
  induction dict using List.reverseRecOn with
  | nil => rfl
  | append_singleton dict pair ih =>
    rw [List.map_append, List.nodup_append] at h
    obtain ⟨hdict, -, hdisjoint⟩ := h
    have hpair : pair.1 ∉ dict.map Prod.fst := fun hmem => hdisjoint _ hmem _ (by simp) rfl
    have hconcat : ofTexts (dict ++ [pair]) = ofTexts dict ++ [(.text pair.1, .text pair.2)] := by
      simp [ofTexts]
    rw [hconcat, List.foldl_append, ih hdict, List.foldl_cons, List.foldl_nil, put_ofTexts hpair,
      hconcat]

/-- Pairs of different texts are a map as they stand. -/
theorem merged_ofTexts {dict : List (String × String)} (h : (dict.map Prod.fst).Nodup) :
    (ofTexts dict).merged = .ok (ofTexts dict) := by
  have hkeys : (ofTexts dict).all (fun pair => isKey pair.1) = true := by
    simp [ofTexts, isKey]
  rw [merged, if_pos hkeys, foldl_put_ofTexts h]

theorem named_ofTexts (dict : List (String × String)) :
    (ofTexts dict).named = .ok (dict.map fun pair => (pair.1, Value.text pair.2)) := by
  induction dict with
  | nil => rfl
  | cons pair dict ih =>
    rw [named, ofTexts] at ih
    rw [named, ofTexts, List.map_cons, List.mapM_cons, ih]
    rfl

end Pairs

end StorageReply
