import Pinboard.Proofs.Fields
import Pinboard.Proofs.Markup.Scanning
import Pinboard.Proofs.Registry

/-!
# Registries without ambiguity

Directives can be registered if no spelling is claimed twice; else the first claim that comes too
late is named. One spelling may still be the beginning of another. A text is unambiguous all the
same: a spelling only counts with a boundary behind it, so wherever an occurrence stands, one
registered directive has it. Leaving kinds out and adding directives give registries again, and all
of them are resolved by rank, then in the order of registration.
-/
namespace Pinboard

open Markup

variable {σ : Type}

namespace Directive

/-- All spellings of a directive are free of what can end or begin something else. -/
def IsPlain (d : Directive σ) : Prop := ∀ s ∈ d.spellings, Markup.IsPlain s

instance (d : Directive σ) : Decidable d.IsPlain :=
  inferInstanceAs (Decidable (∀ s ∈ d.spellings, Markup.IsPlain s))

/-- Some search for the spellings of a directive in a text, from any position, inwards or not, gives
an occurrence. -/
def Finds (d : Directive σ) (text : List Char) (m : Occurrence) : Prop :=
  ∃ innermost start, find? d.spellings innermost start text = some m

variable {d d' : Directive σ} {text : List Char} {m : Occurrence}

/-- Every occurrence that is read is found from where it starts. -/
lemma finds_iff_reads : d.Finds text m ↔ Reads d.spellings text text.length m := by
  constructor
  · rintro ⟨innermost, start, hfind⟩
    exact (find?_reads hfind).1
  · intro hreads
    exact ⟨false, m.start, find?_false_iff.mpr (leftmost_of_start hreads)⟩

lemma Finds.spelledAt (h : d.Finds text m) :
    SpelledAt d.spellings (text.drop (m.start + 2)) m.name := (finds_iff_reads.mp h).1.spelled

/-- What one directive finds is found by the plain ones that have its spelling. -/
lemma Finds.finds_iff (h : d.Finds text m) (hplain : d'.IsPlain) :
    d'.Finds text m ↔ m.name ∈ d'.spellings := by
  refine ⟨fun h' => h'.spelledAt.mem, fun hname => finds_iff_reads.mpr ?_⟩
  have hoccurs := (finds_iff_reads.mp h).1
  exact (reads_iff_occursIn hplain).mpr
    { hoccurs with spelled := { hoccurs.spelled with mem := hname } }

/-- Plain spellings that two directives have at one place are the same. -/
lemma Finds.name_eq {m' : Occurrence} (h : d.Finds text m) (h' : d'.Finds text m')
    (hplain : d.IsPlain) (hplain' : d'.IsPlain) (hstart : m.start = m'.start) :
    m.name = m'.name := by
  have hspelled := h.spelledAt
  have hspelled' := h'.spelledAt
  rw [← hstart] at hspelled'
  exact hspelled.unique (hplain _ hspelled.mem) (hplain' _ hspelled'.mem) hspelled'

end Directive

/-! ## Claims -/

lemma keys_claims (ds : List (Directive σ)) :
    (claims ds).keys = ds.flatMap (·.spellings) := by
  simp [claims, Fields.keys, List.map_flatMap, Function.comp_def]

/-- The first claim to a spelling that an earlier claim, under another directive or the same one,
lays hold of. All spellings that are claimed before differ. -/
def FirstRepeated (ds : List (Directive σ)) (dup : Duplicate) : Prop :=
  ∃ before after, claims ds = before ++ (dup.spelling, dup.duplicate) :: after ∧
    before.keys.Nodup ∧ (dup.spelling, dup.existing) ∈ before

lemma not_nodup_of_claimed {before after : Fields String} {spelling existing name : String}
    (h : (spelling, existing) ∈ before) : ¬ (before ++ (spelling, name) :: after).keys.Nodup := by
  intro hnodup
  rw [Fields.keys, List.map_append] at hnodup
  exact List.disjoint_of_nodup_append hnodup (List.mem_map_of_mem h) List.mem_cons_self

/-- By induction on the claims that are left, those gone by being taken. -/
lemma firstDuplicate?_eq_some_iff {taken rest : Fields String} (htaken : taken.keys.Nodup)
    {dup : Duplicate} : firstDuplicate? taken rest = some dup ↔
      ∃ before after, rest = before ++ (dup.spelling, dup.duplicate) :: after ∧
        (taken ++ before).keys.Nodup ∧ (dup.spelling, dup.existing) ∈ taken ++ before := by
  induction rest generalizing taken with
  | nil => simp [firstDuplicate?]
  | cons claim rest ih =>
    obtain ⟨spelling, name⟩ := claim
    cases hget : taken.get? spelling with
    | some existing =>
      simp only [firstDuplicate?, hget, Option.some.injEq]
      constructor
      · rintro rfl
        exact ⟨[], rest, rfl, by simpa using htaken, by simpa using Fields.mem_of_get? hget⟩
      · rintro ⟨before, after, hrest, hnodup, hmem⟩
        cases before with
        | nil =>
          obtain ⟨⟨rfl, rfl⟩, -⟩ :
              (spelling = dup.spelling ∧ name = dup.duplicate) ∧ rest = after := by simpa using hrest
          have hexisting := Fields.get?_of_mem htaken (by simpa using hmem)
          rw [hget, Option.some.injEq] at hexisting
          rw [hexisting]
        | cons claim before =>
          obtain ⟨rfl, -⟩ := List.cons.inj hrest
          exact absurd hnodup (not_nodup_of_claimed (Fields.mem_of_get? hget))
    | none =>
      have hfresh : spelling ∉ taken.keys := fun hmem => by
        obtain ⟨claim, hclaim, rfl⟩ := List.mem_map.mp hmem
        simp [Fields.get?_of_mem htaken hclaim] at hget
      have hnodup : (taken ++ [(spelling, name)]).keys.Nodup := by
        rw [Fields.keys, List.map_append]
        exact htaken.append (List.nodup_singleton spelling) (by simpa [Fields.keys] using hfresh)
      simp only [firstDuplicate?, hget]
      rw [ih hnodup]
      constructor
      · rintro ⟨before, after, rfl, hbefore⟩
        exact ⟨(spelling, name) :: before, after, rfl, by simpa using hbefore⟩
      · rintro ⟨before, after, hrest, hbefore⟩
        cases before with
        | nil =>
          obtain ⟨⟨rfl, -⟩, -⟩ : (spelling = dup.spelling ∧ name = dup.duplicate) ∧ rest = after :=
            by simpa using hrest
          exact absurd (List.mem_map_of_mem (by simpa using hbefore.2)) hfresh
        | cons claim before =>
          obtain ⟨rfl, rfl⟩ := List.cons.inj hrest
          exact ⟨before, after, rfl, by simpa using hbefore⟩

lemma firstRepeated_iff {ds : List (Directive σ)} {dup : Duplicate} :
    FirstRepeated ds dup ↔ firstDuplicate? [] (claims ds) = some dup := by
  have htaken : Fields.keys ([] : Fields String) = [] := rfl
  rw [firstDuplicate?_eq_some_iff (htaken ▸ List.nodup_nil)]
  rfl

lemma FirstRepeated.not_nodup {ds : List (Directive σ)} {dup : Duplicate}
    (h : FirstRepeated ds dup) : ¬ (ds.flatMap (·.spellings)).Nodup := by
  obtain ⟨before, after, hclaims, -, hmem⟩ := h
  rw [← keys_claims, hclaims]
  exact not_nodup_of_claimed hmem

namespace Registry

variable {r : Registry σ} {ds : List (Directive σ)} {dup : Duplicate}

lemma ofList_eq_ok_iff : ofList ds = .ok r ↔ r.directives = ds := by
  unfold ofList
  split
  · rename_i hnone
    constructor
    · intro h
      rw [← Except.ok.inj h]
    · rintro rfl
      rfl
  · rename_i dup hsome
    constructor
    · intro h
      cases h
    · rintro rfl
      rw [r.distinct] at hsome
      cases hsome

lemma ofList_eq_error_iff : ofList ds = .error dup ↔ FirstRepeated ds dup := by
  rw [firstRepeated_iff]
  unfold ofList
  split
  · rename_i hnone
    simp [hnone]
  · rename_i dup' hsome
    simp [hsome]

/-- Spellings that all differ can be registered. -/
lemma exists_ofList (h : (ds.flatMap (·.spellings)).Nodup) : ∃ r, ofList ds = .ok r := by
  cases hr : ofList ds with
  | ok r => exact ⟨r, rfl⟩
  | error dup => exact absurd h (ofList_eq_error_iff.mp hr).not_nodup

/-! ## The order of resolution -/

lemma filter_rank_flatMap (ds : List (Directive σ)) (rank bound : Nat) :
    ((List.range bound).flatMap fun k => ds.filter (·.rank == k)).filter (·.rank == rank) =
      if rank < bound then ds.filter (·.rank == rank) else [] := by
  induction bound with
  | zero => simp
  | succ bound ih =>
    rw [List.range_succ, List.flatMap_append, List.flatMap_singleton, List.filter_append, ih,
      List.filter_filter]
    by_cases hlast : rank = bound
    · rw [if_neg (by omega), if_pos (by omega), List.nil_append, hlast]
      exact List.filter_congr fun d _ => by simp
    · have hnone : ds.filter (fun d => d.rank == rank && d.rank == bound) = [] :=
        List.filter_eq_nil_iff.mpr fun d _ => by grind
      have hbelow : rank < bound + 1 ↔ rank < bound := by omega
      rw [hnone, List.append_nil, if_congr hbelow rfl rfl]

/-- Directives of one rank stay in their order. -/
lemma filter_rank_byRank (ds : List (Directive σ)) (rank : Nat) :
    (byRank ds).filter (·.rank == rank) = ds.filter (·.rank == rank) := by
  rw [byRank, filter_rank_flatMap]
  split_ifs with hrank
  · rfl
  · refine (List.filter_eq_nil_iff.mpr fun d _ => ?_).symm
    have hlt := d.rank_lt
    grind

/-! ## One directive for each occurrence -/

/-- Wherever in a text an occurrence of a registered directive starts, it is the only one, it tells
the directive by its spelling, and the directives that find it are those with this spelling. -/
structure Unambiguous (r : Registry σ) (text : List Char) : Prop where
  one : ∀ d ∈ r.directives, ∀ d' ∈ r.directives, ∀ m m', d.Finds text m → d'.Finds text m' →
    m.start = m'.start → d = d' ∧ m = m'
  get : ∀ d ∈ r.directives, ∀ m, d.Finds text m → r.get? m.name = some d
  found_iff : ∀ d ∈ r.directives, ∀ m, d.Finds text m → ∀ d' : Directive σ, d'.IsPlain →
    (d'.Finds text m ↔ m.name ∈ d'.spellings)

/-- What a registry made of some directives is to a resolver. -/
structure MadeOf (r : Registry σ) (ds : List (Directive σ)) : Prop where
  directives : r.directives = ds
  rearranged : r.ordered.Perm ds
  sorted : r.ordered.Pairwise fun d d' => d.rank ≤ d'.rank
  stable : ∀ rank, r.ordered.filter (·.rank == rank) = ds.filter (·.rank == rank)
  unambiguous : (∀ d ∈ ds, d.IsPlain) → ∀ text, r.Unambiguous text

theorem unambiguous (hplain : ∀ d ∈ r.directives, d.IsPlain) (text : List Char) :
    r.Unambiguous text where
  one d hd d' hd' m m' h h' hstart := by
    have hname := h.name_eq h' (hplain d hd) (hplain d' hd') hstart
    obtain rfl := eq_of_spelled hd hd' h.spelledAt.mem (hname ▸ h'.spelledAt.mem)
    have hread := Directive.finds_iff_reads.mp h
    exact ⟨rfl, hread.eq_of_start (Directive.finds_iff_reads.mp h') hstart⟩
  get d hd m h := get?_of_spelled hd h.spelledAt.mem
  found_iff d hd m h d' hplain' := h.finds_iff hplain'

lemma madeOf_directives (r : Registry σ) : r.MadeOf r.directives where
  directives := rfl
  rearranged := byRank_perm r.directives
  sorted := r.pairwise_rank
  stable := filter_rank_byRank r.directives
  unambiguous := r.unambiguous

lemma madeOf_of_ofList (h : ofList ds = .ok r) : r.MadeOf ds :=
  ofList_eq_ok_iff.mp h ▸ r.madeOf_directives

/-- Leaving kinds out of a registry always gives one. -/
lemma exists_without (r : Registry σ) (kinds : List Kind) : ∃ r', r.without kinds = .ok r' :=
  exists_ofList (r.nodup_spellings.sublist (List.filter_sublist.flatMap Directive.spellings))

/-- A registry is made of directives exactly if all their spellings differ; otherwise the first
repeated spelling is named with the two that claim it. What is made has no ambiguity and is resolved
by rank, and so is what it becomes without some kinds or with more directives. -/
theorem ofList_unambiguous (ds : List (Directive σ)) :
    ((∃ dup, ofList ds = .error dup) ↔ ¬ (ds.flatMap (·.spellings)).Nodup) ∧
    (∀ dup, ofList ds = .error dup ↔ FirstRepeated ds dup) ∧
    ∀ r, ofList ds = .ok r → r.MadeOf ds ∧
      (∀ kinds, ∃ r', r.without kinds = .ok r' ∧
        r'.MadeOf (ds.filter fun d => !kinds.contains d.kind)) ∧
      ∀ more r', r.extended more = .ok r' → r'.MadeOf (ds ++ more) := by
  refine ⟨⟨?_, fun hrepeated => ?_⟩, fun dup => ofList_eq_error_iff, fun r hr => ?_⟩
  · rintro ⟨dup, hdup⟩
    exact (ofList_eq_error_iff.mp hdup).not_nodup
  · cases hr : ofList ds with
    | ok r => exact absurd (ofList_eq_ok_iff.mp hr ▸ r.nodup_spellings) hrepeated
    | error dup => exact ⟨dup, rfl⟩
  · have hmade := madeOf_of_ofList hr
    refine ⟨hmade, fun kinds => ?_, fun more r' hr' => ?_⟩
    · obtain ⟨r', hr'⟩ := r.exists_without kinds
      exact ⟨r', hr', hmade.directives ▸ madeOf_of_ofList hr'⟩
    · exact hmade.directives ▸ madeOf_of_ofList hr'

/-- A directive that answers nothing. -/
def silent (name : String) (aliases : List String) : Directive Unit where
  name := name
  aliases := aliases
  description := ""
  example_ := ""
  kind := .informational
  constant := true
  eager := false
  rules := []
  handler _ _ _ := pure Reply.nothing

/-- A spelling may go on where another one ends, but not be claimed again under another name. -/
theorem ofList_unambiguous_dates :
    (∃ r, ofList [silent "date" ["now"], silent "dateTime" []] = .ok r ∧
      r.Unambiguous "\x7b\x7bdateTime\x7d\x7d\x7b\x7bdate\x7d\x7d".toList) ∧
    ofList [silent "date" ["now"], silent "dateTime" ["now", "date"]] =
      .error ⟨"now", "date", "dateTime"⟩ := by
  constructor
  · obtain ⟨hrefused, -, hmade⟩ := ofList_unambiguous [silent "date" ["now"], silent "dateTime" []]
    cases hr : ofList [silent "date" ["now"], silent "dateTime" []] with
    | ok r => exact ⟨r, rfl, (hmade r hr).1.unambiguous (by decide) _⟩
    | error dup => exact absurd (by decide) (hrefused.mp ⟨dup, hr⟩)
  · refine ((ofList_unambiguous _).2.1 _).mpr ⟨[("date", "date"), ("now", "date"),
      ("dateTime", "dateTime")], [("date", "dateTime")], rfl, by decide, by decide⟩

end Registry

end Pinboard
