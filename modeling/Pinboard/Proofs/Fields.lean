import Mathlib.Data.List.Induction
import Mathlib.Data.List.Nodup
import Pinboard.Fields

/-!
# Keyed lists from pairs

A key that is not present goes to the end, so the keys of pairs stand in the order in which they
first come, each with its last value. Pairs under distinct keys are kept as they are.
-/
namespace Pinboard

namespace Fields

variable {α : Type}

lemma set_of_notMem {fields : Fields α} {key : String} (h : key ∉ fields.map (·.1)) (value : α) :
    fields.set key value = fields ++ [(key, value)] := by
  induction fields with
  | nil => rfl
  | cons f fields ih =>
    obtain ⟨k, v⟩ := f
    simp only [List.map_cons, List.mem_cons, not_or] at h
    rw [set, if_neg (Ne.symm h.1), ih h.2, List.cons_append]

lemma merge_eq_append {fields new : Fields α} (h : ((fields ++ new).map (·.1)).Nodup) :
    fields.merge new = fields ++ new := by
  induction new generalizing fields with
  | nil => simp [merge]
  | cons f new ih =>
    obtain ⟨k, v⟩ := f
    have hk : k ∉ fields.map (·.1) := fun hmem =>
      (List.nodup_append.mp (by simpa using h)).2.2 k hmem k (by simp) rfl
    calc fields.merge ((k, v) :: new) = (fields.set k v).merge new := rfl
      _ = (fields ++ [(k, v)]).merge new := by rw [set_of_notMem hk]
      _ = fields ++ [(k, v)] ++ new := ih (by simpa using h)
      _ = fields ++ (k, v) :: new := by simp

/-- Pairs under distinct keys are kept as they are. -/
lemma ofList_eq_self {pairs : List (String × α)} (h : (pairs.map (·.1)).Nodup) :
    ofList pairs = pairs := merge_eq_append h

lemma mem_of_get? {fields : Fields α} {key : String} {value : α}
    (h : fields.get? key = some value) : (key, value) ∈ fields := by
  induction fields with
  | nil => cases h
  | cons head fields ih => grind [Fields.get?]

lemma get?_of_mem {fields : Fields α} (h : fields.keys.Nodup) {f : String × α} (hf : f ∈ fields) :
    fields.get? f.1 = some f.2 := by
  induction fields with
  | nil => cases hf
  | cons g fields ih =>
    obtain ⟨hg, hrest⟩ := List.nodup_cons.mp h
    rcases List.mem_cons.mp hf with rfl | hf
    · exact if_pos rfl
    · have hne : g.1 ≠ f.1 := fun hsame => hg (List.mem_map.mpr ⟨f, hf, hsame.symm⟩)
      rw [get?, if_neg hne, ih hrest hf]

/-! ## Repeated keys -/

lemma keys_set (fields : Fields α) (key : String) (value : α) :
    (fields.set key value).keys =
      if key ∈ fields.keys then fields.keys else fields.keys ++ [key] := by
  induction fields with
  | nil => rfl
  | cons f fields ih =>
    obtain ⟨k, v⟩ := f
    rw [set]
    by_cases hk : k = key
    · simp [hk, keys]
    · have hmem : key ∈ keys ((k, v) :: fields) ↔ key ∈ keys fields := by
        simp [keys, Ne.symm hk]
      rw [if_neg hk, if_congr hmem rfl rfl]
      split_ifs with h
      · rw [if_pos h] at ih
        exact congrArg (k :: ·) ih
      · rw [if_neg h] at ih
        exact congrArg (k :: ·) ih

lemma ofList_concat (pairs : List (String × α)) (key : String) (value : α) :
    ofList (pairs ++ [(key, value)]) = (ofList pairs).set key value := by
  simp [ofList, merge]

/-- The keys of pairs stand in the order in which they first come. -/
lemma keys_ofList (pairs : List (String × α)) :
    (ofList pairs).keys = (pairs.map Prod.fst).eraseDups := by
  induction pairs using List.reverseRec with
  | nil => rfl
  | append_singleton pairs p ih =>
    obtain ⟨key, value⟩ := p
    rw [ofList_concat, keys_set, ih, List.map_append, List.eraseDups_append]
    by_cases hkey : key ∈ pairs.map Prod.fst
    · have hseen : [key].removeAll (pairs.map Prod.fst) = [] := by simp [List.removeAll, hkey]
      rw [if_pos (List.mem_eraseDups.mpr hkey), List.map_singleton, hseen, List.eraseDups_nil,
        List.append_nil]
    · have hnew : [key].removeAll (pairs.map Prod.fst) = [key] := by simp [List.removeAll, hkey]
      rw [if_neg fun h => hkey (List.mem_eraseDups.mp h), List.map_singleton, hnew,
        List.eraseDups_cons]
      rfl

/-- A key has the last of its values. -/
lemma get?_ofList (pairs : List (String × α)) (key : String) :
    (ofList pairs).get? key = get? key pairs.reverse := by
  induction pairs using List.reverseRec with
  | nil => rfl
  | append_singleton pairs p ih =>
    obtain ⟨k, v⟩ := p
    rw [ofList_concat, get?_set, ih, List.reverse_append]
    rfl

end Fields

end Pinboard
