import Mathlib.Data.List.TakeWhile
import Pinboard.Number.Whole
import Pinboard.Proofs.Text.Numerals

/-!
# Rows of digits

A text of nothing but digits is read as a whole number exactly if all are decimal and there are not
too many of them. The digits that only stand for a number, such as superscripts, are refused.
-/
namespace Pinboard.Number

open Text

lemma digitBelow?_ten (c : Char) : digitBelow? 10 c = decimalValue? c := by
  rw [digitBelow?, digitValue?]
  cases hvalue : decimalValue? c with
  | some d => simp [decimalValue?_lt hvalue]
  | none =>
    rw [Option.none_or]
    have hsmall : 'a' ≤ c → 97 ≤ c.toNat := fun h => UInt32.le_iff_toNat_le.mp (Char.le_def.mp h)
    have hcapital : 'A' ≤ c → 65 ≤ c.toNat := fun h => UInt32.le_iff_toNat_le.mp (Char.le_def.mp h)
    split_ifs with h h'
    · have := hsmall h.1
      rw [Option.filter_some, if_neg (by simp; omega)]
    · have := hcapital h'.1
      rw [Option.filter_some, if_neg (by simp; omega)]
    · rfl

lemma takeRow?_ten {cs : List Char} (h : '_' ∉ cs) : takeRow? 10 cs =
    some ((cs.takeWhile isDecimal).filterMap decimalValue?, cs.dropWhile isDecimal) := by
  induction cs with
  | nil => rfl
  | cons c cs ih =>
    rw [List.mem_cons, not_or] at h
    rw [takeRow?, digitBelow?_ten]
    cases hvalue : decimalValue? c with
    | some d =>
      have hdecimal : isDecimal c = true := by simp [isDecimal, hvalue]
      simp [ih h.2, hdecimal, hvalue]
    | none =>
      have hother : isDecimal c = false := isDecimal_eq_false.mpr hvalue
      simp [Ne.symm h.1, hother]

lemma markedBase?_ne_ten {c : Char} {b : Nat} (h : markedBase? c = some b) : b ≠ 10 := by
  unfold markedBase? at h
  split_ifs at h <;> cases h <;> decide

/-- No mark stands for the base ten. -/
lemma takeBase_ten (cs : List Char) : takeBase 10 cs = (10, cs) := by
  simp only [takeBase]
  rw [if_neg (by decide)]
  split
  · split
    · rename_i b hmark
      rw [if_neg (by simp [(markedBase?_ne_ten hmark).symm])]
    · rfl
  · rfl

lemma stripOf_eq_self {p : Char → Bool} {cs : List Char} (h : ∀ c ∈ cs, p c = false) :
    stripOf p cs = cs := by
  have hdrop : ∀ ds : List Char, (∀ c ∈ ds, p c = false) → ds.dropWhile p = ds := by
    intro ds hds
    cases ds with
    | nil => rfl
    | cons d ds => rw [List.dropWhile_cons_of_neg (by simp [hds d List.mem_cons_self])]
  rw [stripOf, hdrop cs h, hdrop _ fun c hc => h c (List.mem_reverse.mp hc), List.reverse_reverse]

/-- The number that a row of digits writes. -/
def numberOf (cs : List Char) : Nat := ofDigitValues (cs.filterMap decimalValue?)

section Rows

variable {cs : List Char} (hsome : cs ≠ []) (hdigits : ∀ c ∈ cs, isDigit c = true)
include hsome hdigits

/-- Neither a sign nor a mark nor a blank is in the way. -/
lemma readWhole_row : readWhole 10 cs =
    if digitLimit < (cs.takeWhile isDecimal).length then
      .error (.tooLong (cs.takeWhile isDecimal).length)
    else if cs.all isDecimal then .ok (numberOf cs) else .error .malformed := by
  have hnone : ∀ d, isDigit d = false → d ∉ cs := fun d hd hmem => by
    rw [hdigits d hmem] at hd
    cases hd
  have hstrip : stripOf isSpace cs = cs := stripOf_eq_self fun c hc => by
    rw [Bool.eq_false_iff]
    intro hspace
    rw [isSpace, Bool.and_eq_true] at hspace
    exact hnone c (isDigit_blank hspace.1) hc
  have hsign : takeSign cs = (false, cs) := by
    unfold takeSign
    split
    · exact absurd List.mem_cons_self (hnone '-' (by decide))
    · exact absurd List.mem_cons_self (hnone '+' (by decide))
    · rfl
  have hunderscore : '_' ∉ cs := hnone '_' (by decide)
  have hhead : cs.head? ≠ some '_' := fun h => hunderscore (List.mem_of_mem_head? h)
  have hlength : ((cs.takeWhile isDecimal).filterMap decimalValue?).length =
      (cs.takeWhile isDecimal).length :=
    List.filterMap_length_eq_length.mpr fun c hc =>
      List.all_eq_true.mp List.all_takeWhile c hc
  rw [readWhole, hstrip, hsign]
  have hlimited : isUnlimited 10 = false := rfl
  simp only [takeBase_ten, if_neg hhead, takeRow?_ten hunderscore, hlength, hlimited,
    Bool.not_false, Bool.true_and, decide_eq_true_eq]
  refine if_congr Iff.rfl rfl ?_
  by_cases hall : ∀ c ∈ cs, isDecimal c = true
  · have htake : cs.takeWhile isDecimal = cs := List.takeWhile_eq_self_iff.mpr hall
    have hdrop : cs.dropWhile isDecimal = [] := List.dropWhile_eq_nil_iff.mpr hall
    have hempty : cs.filterMap decimalValue? ≠ [] := fun hnil => hsome (by
      rw [htake, hnil] at hlength
      exact List.length_eq_zero_iff.mp hlength.symm)
    rw [htake, hdrop, if_neg (by simp [hempty]), if_neg (by simp),
      if_pos (List.all_eq_true.mpr hall)]
    rfl
  · have hdrop : cs.dropWhile isDecimal ≠ [] := fun h => hall (List.dropWhile_eq_nil_iff.mp h)
    rw [if_pos (by simp [hdrop]), if_neg fun h => hall (List.all_eq_true.mp h)]

/-- Whether a row of digits is no numeral: a digit is not decimal, or there are too many. -/
def unreadable (cs : List Char) : Bool := !cs.all isDecimal || digitLimit < cs.length

lemma readWhole_unreadable (h : unreadable cs = true) : ∃ e, readWhole 10 cs = .error e := by
  rw [readWhole_row hsome hdigits]
  split_ifs with hlong hall
  · exact ⟨_, rfl⟩
  · have htake : cs.takeWhile isDecimal = cs :=
      List.takeWhile_eq_self_iff.mpr (List.all_eq_true.mp hall)
    rw [htake] at hlong
    simp [unreadable, hall, hlong] at h
  · exact ⟨_, rfl⟩

lemma readWhole_readable (h : unreadable cs = false) : readWhole 10 cs = .ok (numberOf cs) := by
  obtain ⟨hall, hshort⟩ : cs.all isDecimal = true ∧ cs.length ≤ digitLimit := by
    simpa [unreadable] using h
  have htake : cs.takeWhile isDecimal = cs :=
    List.takeWhile_eq_self_iff.mpr (List.all_eq_true.mp hall)
  rw [readWhole_row hsome hdigits, htake, if_neg (by omega), if_pos hall]

end Rows

end Pinboard.Number
