import Mathlib.Tactic
import Pinboard.Directive.Registry

/-!
# Registered directives

The order of resolution is a permutation of the order of registration, and no spelling belongs to
two directives.
-/
namespace Pinboard

variable {σ : Type}

lemma Fields.get?_append {α : Type} (fields more : Fields α) (key : String) :
    Fields.get? key (fields ++ more) = (fields.get? key).or (more.get? key) := by
  induction fields with
  | nil => simp
  | cons head fields ih => grind [Fields.get?]

/-- Where no claim is a duplicate, all claimed spellings differ from each other and from the ones
that were taken. -/
lemma firstDuplicate?_eq_none {taken rest : Fields String} (h : firstDuplicate? taken rest = none) :
    (rest.map Prod.fst).Nodup ∧ ∀ spelling ∈ rest.map Prod.fst, taken.get? spelling = none := by
  induction rest generalizing taken with
  | nil => simp
  | cons head rest ih =>
    obtain ⟨spelling, name⟩ := head
    cases hget : taken.get? spelling with
    | some existing => simp [firstDuplicate?, hget] at h
    | none =>
      simp only [firstDuplicate?, hget] at h
      obtain ⟨hnodup, hfree⟩ := ih h
      have happend := Fields.get?_append taken [(spelling, name)]
      have hfresh : spelling ∉ rest.map Prod.fst := fun hmem => by
        have hnone := hfree spelling hmem
        simp [happend, hget, Fields.get?] at hnone
      refine ⟨by simpa using ⟨by simpa using hfresh, hnodup⟩, fun other hother => ?_⟩
      rcases List.mem_cons.mp hother with rfl | hother
      · exact hget
      · have hnone := hfree other hother
        rw [happend, Option.or_eq_none_iff] at hnone
        exact hnone.1

namespace Registry

lemma filter_rank_perm (ds : List (Directive σ)) (bound : Nat) :
    ((List.range bound).flatMap fun rank => ds.filter (·.rank == rank)).Perm
      (ds.filter fun d => decide (d.rank < bound)) := by
  induction bound with
  | zero => simp
  | succ bound ih =>
    rw [List.range_succ, List.flatMap_append, List.flatMap_singleton]
    have hbelow : (ds.filter fun d => decide (d.rank < bound)) =
        (ds.filter fun d => decide (d.rank < bound + 1)).filter
          fun d => decide (d.rank < bound) := by
      rw [List.filter_filter]
      exact List.filter_congr fun d _ => by grind
    have hequal : (ds.filter fun d => d.rank == bound) =
        (ds.filter fun d => decide (d.rank < bound + 1)).filter
          fun d => !decide (d.rank < bound) := by
      rw [List.filter_filter]
      exact List.filter_congr fun d _ => by grind
    refine (ih.append_right _).trans ?_
    rw [hbelow, hequal]
    exact List.filter_append_perm _ _

theorem byRank_perm (ds : List (Directive σ)) : (byRank ds).Perm ds := by
  have hall : (ds.filter fun d => decide (d.rank < Directive.rankBound)) = ds :=
    List.filter_eq_self.mpr fun d _ => by simpa using d.rank_lt
  exact (filter_rank_perm ds Directive.rankBound).trans (List.Perm.of_eq hall)

@[simp] lemma length_ordered (r : Registry σ) : r.ordered.length = r.size :=
  (byRank_perm r.directives).length_eq

@[simp] lemma mem_ordered {r : Registry σ} {d : Directive σ} :
    d ∈ r.ordered ↔ d ∈ r.directives :=
  (byRank_perm r.directives).mem_iff

/-- All spellings of the directives, name first, in the order of registration, are different. -/
theorem nodup_spellings (r : Registry σ) : (r.directives.flatMap (·.spellings)).Nodup := by
  have hclaims := (firstDuplicate?_eq_none r.distinct).1
  have hfst : (claims r.directives).map Prod.fst = r.directives.flatMap (·.spellings) := by
    simp [claims, List.map_flatMap, Function.comp_def]
  rwa [hfst] at hclaims

/-- No spelling belongs to two directives. -/
theorem pairwise_disjoint (r : Registry σ) :
    r.ordered.Pairwise fun d d' => d.spellings.Disjoint d'.spellings := by
  have hpairwise := (List.nodup_flatMap.mp r.nodup_spellings).2
  exact (byRank_perm r.directives).pairwise_iff (fun h => h.symm) |>.mpr hpairwise

/-- A spelling tells which directive it belongs to. -/
lemma eq_of_spelled {r : Registry σ} {d d' : Directive σ} (hd : d ∈ r.directives)
    (hd' : d' ∈ r.directives) {s : String} (hs : s ∈ d.spellings) (hs' : s ∈ d'.spellings) :
    d = d' := by
  by_contra hne
  have hsymm : Std.Symm fun a b : Directive σ => a.spellings.Disjoint b.spellings :=
    ⟨fun _ _ h => h.symm⟩
  exact r.pairwise_disjoint.forall (mem_ordered.mpr hd) (mem_ordered.mpr hd') hne hs hs'

/-- A directive is looked up by each of its spellings. -/
lemma get?_of_spelled {r : Registry σ} {d : Directive σ} (hd : d ∈ r.directives) {s : String}
    (hs : s ∈ d.spellings) : r.get? s = some d := by
  cases hget : r.get? s with
  | none =>
    rw [get?, List.find?_eq_none] at hget
    exact absurd (by simpa using hs) (hget d hd)
  | some d' =>
    have hspelled : s ∈ d'.spellings := by simpa using List.find?_some hget
    rw [eq_of_spelled (List.mem_of_find?_eq_some hget) hd hspelled hs]

lemma get?_name {r : Registry σ} {d : Directive σ} (hd : d ∈ r.directives) :
    r.get? d.name = some d := get?_of_spelled hd List.mem_cons_self

/-- The order of resolution goes by ranks. -/
theorem pairwise_rank (r : Registry σ) : r.ordered.Pairwise fun d d' => d.rank ≤ d'.rank := by
  have hranks : ∀ {rank : Nat} {d : Directive σ},
      d ∈ r.directives.filter (·.rank == rank) → d.rank = rank := fun hd => by
    simpa using (List.mem_filter.mp hd).2
  refine List.pairwise_flatMap.mpr ⟨fun rank _ => ?_, ?_⟩
  · exact List.pairwise_of_forall_mem_list fun d hd d' hd' => by rw [hranks hd, hranks hd']
  · refine List.pairwise_lt_range.imp fun hlt d hd d' hd' => ?_
    rw [hranks hd, hranks hd']
    exact hlt.le

/-- No name belongs to two directives. -/
theorem nodup_names (r : Registry σ) : (r.ordered.map (·.name)).Nodup := by
  refine List.pairwise_map.mpr (r.pairwise_disjoint.imp fun hdisjoint hname => ?_)
  exact hdisjoint List.mem_cons_self (hname ▸ List.mem_cons_self)

end Registry

end Pinboard
