import Pinboard.Proofs.Builtin.Listings
import Pinboard.Proofs.Number.Whole

/-!
# Listings of a number of pins

A listing of names takes all pins, or a number of them that the host chooses, and puts the latest
opened first. Its only fault is an amount whose characters all count as digits without being a
numeral.
-/
namespace Pinboard

/-- The host chooses as many different indices as it is asked for. -/
def Host.Samples {σ : Type} (host : Host σ) : Prop :=
  ∀ size count w, count ≤ size → ∃ indices w',
    (host.sample size count).run.run w = (.ok indices, w') ∧ indices.length = count ∧
      indices.Nodup ∧ ∀ i ∈ indices, i < size

namespace Builtin

open Markup

/-! ## Amounts -/

/-- A text of nothing but characters that count as digits. -/
def IsRow (t : String) : Prop := t ≠ "" ∧ ∀ c ∈ t.toList, Text.isDigit c = true

instance (t : String) : Decidable (IsRow t) :=
  decidable_of_iff (t ≠ "" ∧ t.toList.all Text.isDigit = true) (by rw [IsRow, List.all_eq_true])

/-- How many of a number of items an amount asks for. -/
def listedCount (t : String) (size : Nat) : Nat :=
  if IsRow t then min size (Number.numberOf t.toList) else size

section Amounts

variable {m : Occurrence}

lemma amount?_of_not_isRow (h : ¬IsRow (m.paramText "amount")) : amount? m = .ok none := by
  rw [amount?]
  refine if_neg fun hrow => h ?_
  simpa [IsRow, String.isEmpty_iff] using hrow

lemma amount?_of_isRow (h : IsRow (m.paramText "amount")) : amount? m =
    match Number.readWhole 10 (m.paramText "amount").toList with
    | .ok n => .ok (some n.toNat)
    | .error e => .error (.ofNumeral (m.paramText "amount") e) := by
  rw [amount?]
  refine if_pos ?_
  simpa [IsRow, String.isEmpty_iff] using h

lemma IsRow.toList_ne_nil {t : String} (h : IsRow t) : t.toList ≠ [] := fun hnil =>
  h.1 (String.toList_eq_nil_iff.mp hnil)

lemma amount?_unreadable (h : IsRow (m.paramText "amount"))
    (hrow : Number.unreadable (m.paramText "amount").toList = true) :
    ∃ e, amount? m = .error (.ofNumeral (m.paramText "amount") e) := by
  obtain ⟨e, he⟩ := Number.readWhole_unreadable h.toList_ne_nil h.2 hrow
  exact ⟨e, by rw [amount?_of_isRow h, he]⟩

lemma amount?_readable (h : IsRow (m.paramText "amount"))
    (hrow : Number.unreadable (m.paramText "amount").toList = false) :
    amount? m = .ok (some (Number.numberOf (m.paramText "amount").toList)) := by
  rw [amount?_of_isRow h, Number.readWhole_readable h.toList_ne_nil h.2 hrow]
  rfl

/-- All but the rows of digits that are no numerals say how many items are listed. -/
lemma amount?_of_readable
    (h : ¬(IsRow (m.paramText "amount") ∧
      Number.unreadable (m.paramText "amount").toList = true)) :
    ∃ amount, amount? m = .ok amount ∧
      ∀ size, (amount.map (min size)).getD size = listedCount (m.paramText "amount") size := by
  by_cases hrow : IsRow (m.paramText "amount")
  · have hreadable := eq_false_of_ne_true fun hunreadable => h ⟨hrow, hunreadable⟩
    exact ⟨_, amount?_readable hrow hreadable, fun size => (if_pos hrow).symm⟩
  · exact ⟨none, amount?_of_not_isRow hrow, fun size => (if_neg hrow).symm⟩

end Amounts

/-! ## Subsets -/

section Subsets

variable {α : Type}

lemma keepAt_eq (indices : List Nat) (items : List α) :
    keepAt indices items = (items.zipIdx.filter (indices.contains ·.2)).map Prod.fst := rfl

lemma keepAt_sublist (indices : List Nat) (items : List α) :
    (keepAt indices items).Sublist items := by
  have h := (List.filter_sublist (p := (indices.contains ·.2)) (l := items.zipIdx)).map Prod.fst
  rwa [List.zipIdx_map_fst, ← keepAt_eq] at h

/-- Different indices of a list keep as many items. -/
lemma length_keepAt {indices : List Nat} {items : List α} (hnodup : indices.Nodup)
    (hbound : ∀ i ∈ indices, i < items.length) :
    (keepAt indices items).length = indices.length := by
  have hkept : (items.zipIdx.filter (indices.contains ·.2)).map Prod.snd =
      (List.range items.length).filter (indices.contains ·) := by
    rw [List.range_eq_range', ← List.zipIdx_map_snd 0 items, List.filter_map]
    rfl
  have hperm : ((List.range items.length).filter (indices.contains ·)).Perm indices := by
    refine (List.perm_ext_iff_of_nodup (List.nodup_range.filter _) hnodup).mpr fun i => ?_
    simp only [List.mem_filter, List.mem_range, List.contains_iff_mem]
    exact ⟨fun h => h.2, fun h => ⟨hbound i h, h⟩⟩
  rw [keepAt_eq, List.length_map, ← List.length_map (f := Prod.snd), hkept, hperm.length_eq]

variable {σ : Type} {services : Services σ}

lemma run_subset (hsamples : services.host.Samples) (items : List α) (amount : Option Nat) (w : σ) :
    ∃ chosen w', (subset services items amount).run.run w = (.ok chosen, w') ∧
      chosen.Sublist items ∧
      chosen.length = (amount.map (min items.length)).getD items.length := by
  cases amount with
  | none => exact ⟨items, w, rfl, .refl _, rfl⟩
  | some n =>
    rw [subset]
    split_ifs with hfew
    · exact ⟨items, w, rfl, .refl _, (Nat.min_eq_left hfew).symm⟩
    · obtain ⟨indices, w', hrun, hlength, hnodup, hbound⟩ :=
        hsamples items.length n w (by omega)
      refine ⟨keepAt indices items, w', ?_, keepAt_sublist _ _, ?_⟩
      · rw [Action.run_bind_ok hrun]
        rfl
      · rw [length_keepAt hnodup hbound, hlength]
        exact (Nat.min_eq_right (by omega)).symm

end Subsets

/-! ## The latest first -/

/-- The moment that a pin was opened last. -/
def lastOpenedAt? (p : Pin) : Option Int := p.lastOpened.map (·.instant)

/-- A pin may stand before another one: it was opened later, or the other one never. -/
def NotEarlier (p q : Pin) : Prop := ∀ t ∈ lastOpenedAt? q, ∃ u ∈ lastOpenedAt? p, t ≤ u

/-- The order of a listing. -/
structure LatestFirst (chosen ordered : List Pin) : Prop where
  perm : ordered.Perm chosen
  pairwise : ordered.Pairwise NotEarlier
  /-- Pins that were opened at one moment keep their order, as do those that were never opened. -/
  stable : ∀ at?, ordered.filter (lastOpenedAt? · = at?) = chosen.filter (lastOpenedAt? · = at?)

/-- The comparison of opened pins. -/
def laterOpened (p q : Pin) : Bool := decide (openedInstant q ≤ openedInstant p)

lemma laterOpened_trans (p q r : Pin) (hpq : laterOpened p q = true)
    (hqr : laterOpened q r = true) : laterOpened p r = true := by
  simp only [laterOpened, decide_eq_true_eq] at *
  omega

lemma laterOpened_total (p q : Pin) : (laterOpened p q || laterOpened q p) = true := by
  simp only [laterOpened, Bool.or_eq_true, decide_eq_true_eq]
  omega

lemma openedInstant_eq {p : Pin} {t : Int} (h : lastOpenedAt? p = some t) :
    openedInstant p = t := by
  rw [openedInstant, show p.lastOpened.map (·.instant) = some t from h, Option.getD_some]

/-- Sorting keeps the items that compare equal in their order. -/
lemma filter_mergeSort_laterOpened (pins : List Pin) {p : Pin → Bool}
    (hequal : ∀ a ∈ pins, ∀ b ∈ pins, p a = true → p b = true → laterOpened a b = true) :
    (pins.mergeSort laterOpened).filter p = pins.filter p := by
  have hpairwise : (pins.filter p).Pairwise (laterOpened · ·) :=
    List.pairwise_of_forall_mem_list fun a ha b hb =>
      hequal a (List.mem_of_mem_filter ha) b (List.mem_of_mem_filter hb)
        (List.of_mem_filter ha) (List.of_mem_filter hb)
  have hsub := (List.sublist_mergeSort laterOpened_trans laterOpened_total hpairwise
    List.filter_sublist).filter p
  have htwice : (fun a => p a && p a) = p := funext fun a => Bool.and_self _
  rw [List.filter_filter, htwice] at hsub
  exact (hsub.eq_of_length ((List.mergeSort_perm pins laterOpened).filter p).length_eq.symm).symm

lemma lastOpenedAt?_eq_none {p : Pin} : lastOpenedAt? p = none ↔ p.lastOpened.isNone = true := by
  rw [lastOpenedAt?, Option.map_eq_none_iff, Option.isNone_iff_eq_none]

lemma lastOpenedAt?_of_isSome {p : Pin} (h : p.lastOpened.isSome = true) :
    lastOpenedAt? p = some (openedInstant p) := by
  obtain ⟨t, ht⟩ := Option.isSome_iff_exists.mp h
  rw [openedInstant, lastOpenedAt?, ht]
  rfl

section Sorted

variable (pins : List Pin)

/-- The opened pins in order. -/
def sortedOpened : List Pin := (pins.filter (·.lastOpened.isSome)).mergeSort laterOpened

def neverOpened : List Pin := pins.filter (·.lastOpened.isNone)

variable {pins}

lemma mem_sortedOpened {p : Pin} (h : p ∈ sortedOpened pins) :
    lastOpenedAt? p = some (openedInstant p) :=
  lastOpenedAt?_of_isSome (List.mem_filter.mp (List.mem_mergeSort.mp h)).2

lemma mem_neverOpened {p : Pin} (h : p ∈ neverOpened pins) : lastOpenedAt? p = none :=
  lastOpenedAt?_eq_none.mpr (List.mem_filter.mp h).2

lemma perm_sorted : (sortedOpened pins ++ neverOpened pins).Perm pins := by
  have hsplit := List.filter_append_perm (·.lastOpened.isSome) pins
  simp only [Option.not_isSome] at hsplit
  exact ((List.mergeSort_perm _ _).append_right _).trans hsplit

lemma pairwise_sorted : (sortedOpened pins ++ neverOpened pins).Pairwise NotEarlier := by
  have hlast : ∀ p, ∀ q ∈ neverOpened pins, NotEarlier p q := fun p q hq t ht => by
    rw [mem_neverOpened hq] at ht
    cases ht
  refine List.pairwise_append.mpr ⟨?_, ?_, fun p _ q hq => hlast p q hq⟩
  · refine (List.pairwise_mergeSort laterOpened_trans laterOpened_total _).imp_of_mem
      fun {p q} hp hq hle t ht => ?_
    rw [mem_sortedOpened hq] at ht
    obtain rfl := Option.some.inj ht
    exact ⟨_, mem_sortedOpened hp, of_decide_eq_true hle⟩
  · exact List.pairwise_of_forall_mem_list fun p _ q hq => hlast p q hq

lemma stable_sorted (at? : Option Int) :
    (sortedOpened pins ++ neverOpened pins).filter (lastOpenedAt? · = at?) =
      pins.filter (lastOpenedAt? · = at?) := by
  rw [List.filter_append]
  cases at? with
  | none =>
    have hopened : (sortedOpened pins).filter (lastOpenedAt? · = none) = [] :=
      List.filter_eq_nil_iff.mpr fun p hp => by simp [mem_sortedOpened hp]
    rw [hopened, List.nil_append, neverOpened, List.filter_filter]
    exact List.filter_congr fun p _ => by simp [lastOpenedAt?_eq_none]
  | some t =>
    have hnever : (neverOpened pins).filter (lastOpenedAt? · = some t) = [] :=
      List.filter_eq_nil_iff.mpr fun p hp => by simp [mem_neverOpened hp]
    have hsorted : (sortedOpened pins).filter (lastOpenedAt? · = some t) =
        (pins.filter (·.lastOpened.isSome)).filter (lastOpenedAt? · = some t) := by
      refine filter_mergeSort_laterOpened _ fun p _ q _ hp hq => ?_
      rw [laterOpened, openedInstant_eq (of_decide_eq_true hp),
        openedInstant_eq (of_decide_eq_true hq)]
      exact decide_eq_true le_rfl
    rw [hnever, List.append_nil, hsorted, List.filter_filter]
    refine List.filter_congr fun p _ => Bool.and_eq_left_iff_imp.mpr fun hp => ?_
    simpa [lastOpenedAt?] using congrArg Option.isSome (of_decide_eq_true hp)

/-- Pins whose moments all have an offset can be put in order. -/
lemma sortByLastOpened_aware (haware : ∀ p ∈ pins, ∀ t ∈ p.lastOpened, t.isAware = true) :
    sortByLastOpened pins = .ok (sortedOpened pins ++ neverOpened pins) := by
  have hcomparable : comparable (pins.filter (·.lastOpened.isSome)) = true := by
    rw [comparable, Bool.or_eq_true]
    refine .inl (List.all_eq_true.mpr fun t ht => ?_)
    obtain ⟨p, hp, hopened⟩ := List.mem_filterMap.mp ht
    exact haware p (List.mem_of_mem_filter hp) t hopened
  rw [sortByLastOpened, if_pos hcomparable]
  rfl

end Sorted

lemma latestFirst_sorted (pins : List Pin) :
    LatestFirst pins (sortedOpened pins ++ neverOpened pins) :=
  ⟨perm_sorted, pairwise_sorted, stable_sorted⟩

/-! ## The listing -/

variable {σ : Type} {services : Services σ}

section Runs

variable {pins : List Pin} {m : Occurrence} {w w₁ : σ}
  (hlist : services.pins.list.run.run w = (.ok pins, w₁))
include hlist

lemma run_listedPins_error {fault : Fault} (hamount : amount? m = .error fault) :
    (listedPins services m).run.run w = (.error fault, w₁) := by
  rw [listedPins, Action.run_bind_ok hlist, hamount]
  rfl

lemma run_listedPins {amount : Option Nat} (hsamples : services.host.Samples)
    (hamount : amount? m = .ok amount) :
    ∃ chosen w', (listedPins services m).run.run w = (.ok chosen, w') ∧ chosen.Sublist pins ∧
      chosen.length = (amount.map (min pins.length)).getD pins.length := by
  have hread : (Action.ofExcept (amount? m) : Action σ (Option Nat)).run.run w₁ =
      (.ok amount, w₁) := by
    rw [hamount]
    rfl
  rw [listedPins, Action.run_bind_ok hlist, Action.run_bind_ok hread]
  exact run_subset hsamples pins amount w₁

end Runs

section Handlers

variable {m : Occurrence} {w w' : σ}

lemma handler_pinNames_error {fault : Fault}
    (h : (listedPins services m).run.run w = (.error fault, w')) (context : Context)
    (reentry : Option (Reentry σ)) :
    ((pinNames services).handler m context reentry).run.run w = (.error fault, w') :=
  handler_listing_error (Action.run_bind_error h) context reentry

lemma handler_pinNames_ok {chosen ordered : List Pin}
    (h : (listedPins services m).run.run w = (.ok chosen, w'))
    (hsort : sortByLastOpened chosen = .ok ordered) (context : Context)
    (reentry : Option (Reentry σ)) :
    ((pinNames services).handler m context reentry).run.run w =
      (.ok (rememberedUnlessShaped m "pinNames"
        (escape (Text.join ", " (ordered.map (·.name))))), w') := by
  have hsorted : (Action.ofExcept (sortByLastOpened chosen) : Action σ (List Pin)).run.run w' =
      (.ok ordered, w') := by
    rw [hsort]
    rfl
  refine handler_listing_ok ?_ context reentry
  rw [Action.run_bind_ok h, Action.run_bind_ok hsorted]
  rfl

end Handlers

/-- With pins that can be put in order and a host that chooses as it is asked, the only fault is
an amount that is no numeral although it is a row of digits. Otherwise all pins are listed or, if
the amount is a numeral, as many of them as it says, the latest opened first. -/
theorem pinNames_chosen {pins : List Pin} {w w₁ : σ}
    (hlist : services.pins.list.run.run w = (.ok pins, w₁))
    (haware : ∀ p ∈ pins, ∀ t ∈ p.lastOpened, t.isAware = true)
    (hsamples : services.host.Samples) (m : Occurrence) (context : Context)
    (reentry : Option (Reentry σ)) :
    (IsRow (m.paramText "amount") ∧ Number.unreadable (m.paramText "amount").toList = true →
      ∃ e, ((pinNames services).handler m context reentry).run.run w =
        (.error (.ofNumeral (m.paramText "amount") e), w₁)) ∧
    (¬(IsRow (m.paramText "amount") ∧ Number.unreadable (m.paramText "amount").toList = true) →
      ∃ chosen ordered w', chosen.Sublist pins ∧
        chosen.length = listedCount (m.paramText "amount") pins.length ∧
        LatestFirst chosen ordered ∧
        ((pinNames services).handler m context reentry).run.run w =
          (.ok (rememberedUnlessShaped m "pinNames"
            (escape (Text.join ", " (ordered.map (·.name))))), w')) := by
  refine ⟨fun ⟨hrow, hunreadable⟩ => ?_, fun hreadable => ?_⟩
  · obtain ⟨e, he⟩ := amount?_unreadable hrow hunreadable
    exact ⟨e, handler_pinNames_error (run_listedPins_error hlist he) _ _⟩
  · obtain ⟨amount, hamount, hcount⟩ := amount?_of_readable hreadable
    obtain ⟨chosen, w', hrun, hsublist, hlength⟩ := run_listedPins hlist hsamples hamount
    have hsort := sortByLastOpened_aware fun p hp => haware p (hsublist.subset hp)
    exact ⟨chosen, _, w', hsublist, hlength.trans (hcount _), latestFirst_sorted chosen,
      handler_pinNames_ok hrun hsort _ _⟩

/-! ## A number of three pins -/

/-- Two pins that were opened and one that never was. -/
def threePins : List Pin :=
  [{ Pin.new ⟨"p", Journal.noon⟩ "p" "" noGroup with lastOpened := some Journal.nine },
    Pin.new ⟨"q", Journal.noon⟩ "q" "" noGroup,
    { Pin.new ⟨"r", Journal.noon⟩ "r" "" noGroup with lastOpened := some Journal.evening }]

/-- The host chooses from the end. -/
def threeServices : Services Journal :=
  { Journal.servicesAt Journal.noon with
    pins := { Journal.noItems with list := pure threePins }
    host := { Journal.hostAt Journal.noon with
      sample := fun size count => pure ((List.range size).reverse.take count) } }

def namesOf (amount : String) : Occurrence := .ofCall "pinNames" [] [("amount", amount)]

lemma aware_threePins : ∀ p ∈ threePins, ∀ t ∈ p.lastOpened, t.isAware = true := by decide

lemma samples_threeServices : threeServices.host.Samples := by
  intro size count w hcount
  refine ⟨(List.range size).reverse.take count, w, rfl, ?_, ?_, fun i hi => ?_⟩
  · rw [List.length_take, List.length_reverse, List.length_range, Nat.min_eq_left hcount]
  · exact (List.nodup_reverse.mpr List.nodup_range).sublist (List.take_sublist _ _)
  · exact List.mem_range.mp (List.mem_reverse.mp (List.mem_of_mem_take hi))

/-- Two of three are listed. -/
theorem pinNames_chosen_two :
    (∀ p ∈ threePins, ∀ t ∈ p.lastOpened, t.isAware = true) ∧ threeServices.host.Samples ∧
      ∃ chosen ordered w', chosen.Sublist threePins ∧ chosen.length = 2 ∧
        LatestFirst chosen ordered ∧
        ((pinNames threeServices).handler (namesOf "2") bareContext none).run.run [] =
          (.ok (rememberedUnlessShaped (namesOf "2") "pinNames"
            (escape (Text.join ", " (ordered.map (·.name))))), w') := by
  obtain ⟨chosen, ordered, w', hsublist, hlength, horder, hrun⟩ :=
    (@pinNames_chosen _ threeServices threePins [] [] rfl aware_threePins samples_threeServices
      (namesOf "2") bareContext none).2 (by decide)
  exact ⟨aware_threePins, samples_threeServices, chosen, ordered, w', hsublist,
    hlength.trans (by decide), horder, hrun⟩

/-- A superscript counts as a digit, but no number of pins is read from it. -/
theorem pinNames_superscript_fails :
    (∀ p ∈ threePins, ∀ t ∈ p.lastOpened, t.isAware = true) ∧ threeServices.host.Samples ∧
      IsRow ((namesOf "²").paramText "amount") ∧
      ((pinNames threeServices).handler (namesOf "²") bareContext none).run.run [] =
        (.error (.notWhole "²"), []) := by
  have hlist : threeServices.pins.list.run.run [] = (.ok threePins, []) := rfl
  have hamount : amount? (namesOf "²") = .error (.notWhole "²") := by decide
  exact ⟨aware_threePins, samples_threeServices, by decide,
    handler_pinNames_error (run_listedPins_error hlist hamount) bareContext none⟩

end Builtin
end Pinboard
