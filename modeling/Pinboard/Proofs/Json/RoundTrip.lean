import Pinboard.Json.Printer
import Pinboard.Json.Reader
import Pinboard.Proofs.Digits
import Pinboard.Proofs.Fields

/-!
# Reading what was written

The text of a value reads back as the value, if it has no floating-point numbers, its whole numbers
are not too long to be read, and no object has a key twice.
-/
namespace Pinboard

namespace Json

open Number

/-! ## Strings -/

/-- The UTF-16 units of a character. -/
def units (c : Char) : List Nat :=
  if c.toNat < 0x10000 then [c.toNat]
  else [0xD800 + (c.toNat - 0x10000) / 0x400, 0xDC00 + (c.toNat - 0x10000) % 0x400]

lemma toNat_lt (c : Char) : c.toNat < 0xD800 ∨ 0xDFFF < c.toNat ∧ c.toNat < 0x110000 := c.valid

lemma joinUnits_units (c : Char) (ns : List Nat) :
    joinUnits (units c ++ ns) = c :: joinUnits ns := by
  have hc := toNat_lt c
  by_cases hsmall : c.toNat < 0x10000
  · rw [units, if_pos hsmall, List.singleton_append]
    cases ns with
    | nil => simp [joinUnits]
    | cons m rest =>
      rw [joinUnits, if_neg (by omega), Char.ofNat_toNat]
  · have hjoined : 0x10000 + (0xD800 + (c.toNat - 0x10000) / 0x400 - 0xD800) * 0x400
        + (0xDC00 + (c.toNat - 0x10000) % 0x400 - 0xDC00) = c.toNat := by omega
    rw [units, if_neg hsmall, List.cons_append, List.singleton_append, joinUnits,
      if_pos (by omega), hjoined, Char.ofNat_toNat]

lemma joinUnits_flatMap (cs : List Char) : joinUnits (cs.flatMap units) = cs := by
  induction cs with
  | nil => rfl
  | cons c cs ih => rw [List.flatMap_cons, joinUnits_units, ih]

lemma hexValue?_digitChar {d : Nat} (h : d < 16) : hexValue? d.digitChar = some d := by
  interval_cases d <;> rfl

/-- Read units and put some in front. -/
def before (front : List Nat) (units : Read (List Nat)) : Read (List Nat) :=
  units.map fun (ns, rest) => (front ++ ns, rest)

@[simp] lemma before_before (front front' : List Nat) (units : Read (List Nat)) :
    before front (before front' units) = before (front ++ front') units := by
  cases units <;> simp [before, Except.map]

lemma stringUnits_unitEscape {n : Nat} (h : n < 0x10000) (rest : List Char) :
    stringUnits (unitEscape n ++ rest) = before [n] (stringUnits rest) := by
  have hunit : unit? (n / 16 ^ 3).digitChar (n / 16 ^ 2 % 16).digitChar (n / 16 % 16).digitChar
      (n % 16).digitChar = some n := by
    rw [unit?, hexValue?_digitChar (by omega), hexValue?_digitChar (by omega),
      hexValue?_digitChar (by omega), hexValue?_digitChar (by omega)]
    simp
    omega
  rw [unitEscape, hexDigits_eq, filled_four (by decide) (by simpa using h)]
  simp only [List.cons_append, List.nil_append, stringUnits, hunit]
  rfl

lemma stringUnits_escapedChar (c : Char) (rest : List Char) :
    stringUnits (escapedChar c ++ rest) = before (units c) (stringUnits rest) := by
  have hc := toNat_lt c
  have hshort : ∀ n, c.toNat = n → n < 0x10000 → units c = [n] := by
    intro n hn hlt
    rw [units, hn, if_pos hlt]
  unfold escapedChar
  split_ifs with h₁ h₂ h₃ h₄ h₅ h₆ h₇ h₈ h₉
  · subst h₁; rfl
  · subst h₂; rfl
  · subst h₃; rfl
  · subst h₄; rfl
  · subst h₅; rfl
  · rw [hshort _ h₆ (by decide)]; rfl
  · rw [hshort _ h₇ (by decide)]; rfl
  · rw [hshort _ rfl (by omega), List.singleton_append, stringUnits]
    · simp [h₂, before]
      omega
    all_goals simp_all
  · rw [stringUnits_unitEscape h₉, units, if_pos h₉]
  · rw [List.append_assoc, stringUnits_unitEscape (by omega), stringUnits_unitEscape (by omega),
      before_before, units, if_neg h₉]
    rfl

lemma stringUnits_flatMap (cs rest : List Char) :
    stringUnits (cs.flatMap escapedChar ++ '"' :: rest) = .ok (cs.flatMap units, rest) := by
  induction cs with
  | nil => rfl
  | cons c cs ih =>
    rw [List.flatMap_cons, List.append_assoc, stringUnits_escapedChar, ih]
    rfl

/-- A string reads back from behind its opening quote. -/
theorem readString_escaped (s : String) (rest : List Char) :
    readString (s.toList.flatMap escapedChar ++ '"' :: rest) = .ok (s, rest) := by
  rw [readString, stringUnits_flatMap]
  simp [Except.map, joinUnits_flatMap]

/-! ## Numbers -/

/-- What may stand behind a value: nothing, or a mark of the array or object that it is in. -/
def Ends (rest : List Char) : Prop := ∀ c ∈ rest.head?, c = ',' ∨ c = ']' ∨ c = '\x7d'

lemma ends_nil : Ends [] := by simp [Ends]

lemma ends_cons {c : Char} (h : c = ',' ∨ c = ']' ∨ c = '\x7d') (rest : List Char) :
    Ends (c :: rest) := by simpa [Ends] using h

lemma isAsciiDigit_eq (c : Char) : isAsciiDigit c = c.isDigit := by
  simp [isAsciiDigit, Char.isDigit, Char.le_def, UInt32.le_iff_toNat_le]

section Ends

variable {rest : List Char} (hrest : Ends rest)
include hrest

lemma Ends.splitFraction_eq : splitFraction rest = ([], rest) := by
  cases rest with
  | nil => rfl
  | cons c cs => obtain rfl | rfl | rfl := hrest c rfl <;> rfl

lemma Ends.splitExponent_eq : splitExponent rest = (none, rest) := by
  cases rest with
  | nil => rfl
  | cons c cs => obtain rfl | rfl | rfl := hrest c rfl <;> rfl

lemma Ends.splitWhole_eq (n : Nat) : splitWhole (digits n ++ rest) = (digits n, rest) := by
  by_cases hn : n = 0
  · subst hn; rfl
  · have hdigits : ∀ c ∈ digits n, isAsciiDigit c = true := fun c hc => by
      rw [isAsciiDigit_eq, isDigit_of_mem_digits hc]
    have hhead : ∀ c ∈ rest.head?, isAsciiDigit c = false := fun c hc => by
      obtain rfl | rfl | rfl := hrest c hc <;> rfl
    have htake : (digits n ++ rest).takeWhile isAsciiDigit = digits n := by
      rw [List.takeWhile_append_of_pos hdigits]
      cases rest with
      | nil => simp
      | cons c cs => simp [hhead c rfl]
    have hdrop : (digits n ++ rest).dropWhile isAsciiDigit = rest := by
      rw [List.dropWhile_append_of_pos hdigits]
      cases rest with
      | nil => simp
      | cons c cs => simp [hhead c rfl]
    obtain ⟨d, cs, hcons, hzero, hten⟩ := digits_eq_cons hn
    have hfirst : d.digitChar ≠ '0' := by interval_cases d <;> simp_all
    rw [splitWhole.eq_2 _ (fun cs' hsame => ?_), htake, hdrop]
    rw [hcons, List.cons_append] at hsame
    exact hfirst (List.cons.inj hsame).1

lemma Ends.readNumber_digits (negative : Bool) {n : Nat}
    (hn : (digits n).length ≤ digitLimit) :
    readNumber negative (digits n ++ rest) = .ok (.int (if negative then -n else n), rest) := by
  simp [readNumber, hrest.splitWhole_eq, hrest.splitFraction_eq, hrest.splitExponent_eq,
    digits_ne_nil, digitValues, ofDigitValues_digits, hn]

lemma Ends.readScalar_intChars {i : Int} (hi : (digits i.natAbs).length ≤ digitLimit) :
    readScalar (intChars i ++ rest) = .ok (.int i, rest) := by
  obtain ⟨c, cs, hcons⟩ := List.exists_cons_of_ne_nil (digits_ne_nil i.natAbs)
  have hc : c.isDigit = true := isDigit_of_mem_digits (by rw [hcons]; exact List.mem_cons_self)
  have hnone : ∀ d ∈ ['n', 't', 'f', 'N', 'I', '-'], d ≠ c := by
    rintro d hd rfl
    fin_cases hd <;> exact absurd hc (by decide)
  simp only [List.mem_cons, forall_eq_or_imp, List.not_mem_nil, false_imp_iff, implies_true,
    and_true] at hnone
  obtain ⟨hn, ht, hf, hN, hI, hminus⟩ := hnone
  have hread := fun negative => hrest.readNumber_digits negative hi
  rw [hcons, List.cons_append] at hread
  unfold intChars
  split_ifs with hneg
  · simp [hcons, readScalar, word?, hI, hread, abs_of_neg hneg]
  · simp [hcons, readScalar, word?, hn, ht, hf, hN, hI, hminus, hminus.symm, hread,
      abs_of_nonneg (not_lt.mp hneg)]

end Ends

/-! ## Values -/

/-- A value without floating-point numbers whose whole numbers are not too long to be read, and in
which no object has a key twice. -/
inductive IsPlain : Json → Prop
  | null : IsPlain .null
  | bool (b : Bool) : IsPlain (.bool b)
  | int {i : Int} (h : (digits i.natAbs).length ≤ digitLimit) : IsPlain (.int i)
  | str (s : String) : IsPlain (.str s)
  | arr {items : List Json} (h : ∀ v ∈ items, IsPlain v) : IsPlain (.arr items)
  | obj {fields : List (String × Json)} (hkeys : (fields.map (·.1)).Nodup)
      (h : ∀ f ∈ fields, IsPlain f.2) : IsPlain (.obj fields)

@[simp] lemma isPlain_str (s : String) : IsPlain (.str s) := .str s

@[simp] lemma isPlain_arr {items : List Json} :
    IsPlain (.arr items) ↔ ∀ v ∈ items, IsPlain v :=
  ⟨fun h => by cases h; assumption, .arr⟩

@[simp] lemma isPlain_obj {fields : List (String × Json)} :
    IsPlain (.obj fields) ↔ (fields.map (·.1)).Nodup ∧ ∀ f ∈ fields, IsPlain f.2 :=
  ⟨fun h => by cases h; exact ⟨‹_›, ‹_›⟩, fun h => .obj h.1 h.2⟩

/-- A value that is read back from the front of a text, with a reader that has fuel for it. -/
def ReadsBack (v : Json) : Prop :=
  ∀ fuel rest, (chars v).length ≤ fuel → Ends rest →
    readValue fuel (chars v ++ rest) = .ok (v, rest)

/-- Values and entries begin with no gap and with no closing mark. -/
def Opens (cs : List Char) : Prop :=
  ∃ c rest, cs = c :: rest ∧ isGap c = false ∧ c ≠ ']' ∧ c ≠ '\x7d'

lemma Opens.append {cs : List Char} (h : Opens cs) (rest : List Char) : Opens (cs ++ rest) := by
  obtain ⟨c, cs, rfl, hc⟩ := h
  exact ⟨c, cs ++ rest, rfl, hc⟩

lemma Opens.skipGap_eq {cs : List Char} (h : Opens cs) : skipGap cs = cs := by
  obtain ⟨c, cs, rfl, hc, -⟩ := h
  simp [skipGap, hc]

lemma Opens.skipGap_blank {cs : List Char} (h : Opens cs) : skipGap (' ' :: cs) = cs :=
  h.skipGap_eq

lemma opens_stringChars (s : String) : Opens (stringChars s) :=
  ⟨'"', _, rfl, rfl, by decide, by decide⟩

lemma intChars_eq_cons (i : Int) :
    ∃ c cs, intChars i = c :: cs ∧ (c = '-' ∨ c.isDigit = true) := by
  unfold intChars
  split_ifs
  · exact ⟨'-', _, rfl, .inl rfl⟩
  · obtain ⟨c, cs, hcons⟩ := List.exists_cons_of_ne_nil (digits_ne_nil i.natAbs)
    exact ⟨c, cs, hcons, .inr (isDigit_of_mem_digits (by rw [hcons]; exact List.mem_cons_self))⟩

lemma opens_intChars (i : Int) : Opens (intChars i) := by
  obtain ⟨c, cs, hcons, hc⟩ := intChars_eq_cons i
  have hnone : ∀ d ∈ [' ', '\t', '\n', '\r', ']', '\x7d'], c ≠ d := by
    rintro d hd rfl
    fin_cases hd <;> exact absurd hc (by decide)
  simp only [List.mem_cons, forall_eq_or_imp, List.not_mem_nil, false_imp_iff, implies_true,
    and_true] at hnone
  exact ⟨c, cs, hcons, by simp [isGap, hnone], hnone.2.2.2.2⟩

lemma IsPlain.opens {v : Json} (h : IsPlain v) : Opens (chars v) := by
  cases h with
  | null => exact ⟨'n', _, rfl, rfl, by decide, by decide⟩
  | bool b => cases b <;> exact ⟨_, _, rfl, rfl, by decide, by decide⟩
  | int => exact opens_intChars _
  | str s => exact opens_stringChars s
  | arr => exact ⟨'[', _, rfl, rfl, by decide, by decide⟩
  | obj => exact ⟨'\x7b', _, rfl, rfl, by decide, by decide⟩

lemma opens_itemChars {v : Json} {items : List Json} (h : Opens (chars v)) :
    Opens (itemChars (v :: items)) := by
  cases items with
  | nil => exact h
  | cons w items => exact h.append _

lemma opens_fieldChars (f : String × Json) (fields : List (String × Json)) :
    Opens (fieldChars (f :: fields)) := by
  cases fields with
  | nil => exact (opens_stringChars f.1).append _
  | cons g fields =>
    rw [fieldChars, List.append_assoc]
    exact (opens_stringChars f.1).append _

lemma readItems_itemChars {v : Json} {items : List Json}
    (hopens : ∀ w ∈ v :: items, Opens (chars w)) (hread : ∀ w ∈ v :: items, ReadsBack w)
    {fuel : Nat} (hfuel : (itemChars (v :: items)).length < fuel) (rest : List Char) :
    readItems fuel (itemChars (v :: items) ++ ']' :: rest) = .ok (v :: items, rest) := by
  obtain ⟨fuel, rfl⟩ := Nat.exists_eq_succ_of_ne_zero (by omega : fuel ≠ 0)
  induction items generalizing v fuel with
  | nil =>
    rw [itemChars] at hfuel ⊢
    rw [readItems, hread v List.mem_cons_self fuel _ (by omega) (ends_cons (by simp) _)]
    rfl
  | cons w items ih =>
    rw [itemChars, List.length_append, List.length_cons, List.length_cons] at hfuel
    obtain ⟨fuel, rfl⟩ := Nat.exists_eq_succ_of_ne_zero (by omega : fuel ≠ 0)
    have hv := hread v List.mem_cons_self (fuel + 1)
      (',' :: ' ' :: (itemChars (w :: items) ++ ']' :: rest)) (by omega) (ends_cons (by simp) _)
    have htail := ih (fun u hu => hopens u (List.mem_cons_of_mem _ hu))
      (fun u hu => hread u (List.mem_cons_of_mem _ hu)) fuel (by omega)
    have hblank : skipGap (' ' :: (itemChars (w :: items) ++ ']' :: rest))
        = itemChars (w :: items) ++ ']' :: rest :=
      ((opens_itemChars (hopens w (by simp))).append _).skipGap_blank
    have hcomma : skipGap (',' :: ' ' :: (itemChars (w :: items) ++ ']' :: rest))
        = ',' :: ' ' :: (itemChars (w :: items) ++ ']' :: rest) := rfl
    rw [itemChars, List.append_assoc, List.cons_append, List.cons_append, readItems, hv]
    simp only [hcomma, hblank, htail]
    rfl

/-- What is read of an entry before the mark behind it. -/
lemma readFields_entry {v : Json} (hopens : Opens (chars v)) (hread : ReadsBack v) (key : String)
    {fuel : Nat} (hfuel : (chars v).length ≤ fuel) {after : List Char} (hafter : Ends after) :
    readFields (fuel + 1) (stringChars key ++ ':' :: ' ' :: (chars v ++ after)) =
      match skipGap after with
      | '\x7d' :: rest => .ok ([(key, v)], rest)
      | ',' :: rest => (readFields fuel (skipGap rest)).map fun (fs, rest) => ((key, v) :: fs, rest)
      | _ => .error .malformed := by
  have hstring : stringChars key ++ ':' :: ' ' :: (chars v ++ after)
      = '"' :: (key.toList.flatMap escapedChar ++ '"' :: ':' :: ' ' :: (chars v ++ after)) := by
    simp [stringChars]
  have hcolon : skipGap (':' :: ' ' :: (chars v ++ after)) = ':' :: ' ' :: (chars v ++ after) := rfl
  have hblank : skipGap (' ' :: (chars v ++ after)) = chars v ++ after :=
    (hopens.append _).skipGap_blank
  have hfields := congrArg (readFields (fuel + 1)) hstring
  rw [readFields, readString_escaped] at hfields
  simp only [hcolon, hblank, hread fuel after hfuel hafter] at hfields
  exact hfields

lemma readFields_fieldChars {f : String × Json} {fields : List (String × Json)}
    (hopens : ∀ g ∈ f :: fields, Opens (chars g.2)) (hread : ∀ g ∈ f :: fields, ReadsBack g.2)
    {fuel : Nat} (hfuel : (fieldChars (f :: fields)).length < fuel) (rest : List Char) :
    readFields fuel (fieldChars (f :: fields) ++ '\x7d' :: rest) = .ok (f :: fields, rest) := by
  obtain ⟨fuel, rfl⟩ := Nat.exists_eq_succ_of_ne_zero (by omega : fuel ≠ 0)
  induction fields generalizing f fuel with
  | nil =>
    simp only [fieldChars, List.length_append, List.length_cons] at hfuel
    have hentry := readFields_entry (hopens f List.mem_cons_self) (hread f List.mem_cons_self) f.1
      (by omega : (chars f.2).length ≤ fuel) (ends_cons (c := '\x7d') (by simp) rest)
    simp only [fieldChars, List.append_assoc, List.cons_append]
    rw [hentry]
    rfl
  | cons g fields ih =>
    simp only [fieldChars, List.length_append, List.length_cons] at hfuel
    obtain ⟨fuel, rfl⟩ := Nat.exists_eq_succ_of_ne_zero (by omega : fuel ≠ 0)
    have hentry := readFields_entry (hopens f List.mem_cons_self) (hread f List.mem_cons_self) f.1
      (by omega : (chars f.2).length ≤ fuel + 1)
      (ends_cons (c := ',') (by simp) (' ' :: (fieldChars (g :: fields) ++ '\x7d' :: rest)))
    have hblank : skipGap (' ' :: (fieldChars (g :: fields) ++ '\x7d' :: rest))
        = fieldChars (g :: fields) ++ '\x7d' :: rest :=
      ((opens_fieldChars g fields).append _).skipGap_blank
    have htail := ih (fun u hu => hopens u (List.mem_cons_of_mem _ hu))
      (fun u hu => hread u (List.mem_cons_of_mem _ hu)) fuel (by omega)
    simp only [fieldChars, List.append_assoc, List.cons_append]
    have hcomma : skipGap (',' :: ' ' :: (fieldChars (g :: fields) ++ '\x7d' :: rest))
        = ',' :: ' ' :: (fieldChars (g :: fields) ++ '\x7d' :: rest) := rfl
    rw [hentry]
    simp only [hcomma, hblank, htail]
    rfl

/-- A value has characters, so there is fuel for one step. -/
lemma ReadsBack.of_succ {v : Json} (hopens : Opens (chars v))
    (h : ∀ fuel rest, (chars v).length ≤ fuel + 1 → Ends rest →
      readValue (fuel + 1) (chars v ++ rest) = .ok (v, rest)) : ReadsBack v := by
  intro fuel rest hfuel hrest
  obtain ⟨c, cs, hcons, -⟩ := hopens
  have hsome : 0 < (chars v).length := by simp [hcons]
  obtain ⟨fuel, rfl⟩ := Nat.exists_eq_succ_of_ne_zero (by omega : fuel ≠ 0)
  exact h fuel rest hfuel hrest

lemma IsPlain.readsBack_int {i : Int} (h : IsPlain (.int i)) : ReadsBack (.int i) := by
  refine .of_succ h.opens fun fuel rest _ hrest => ?_
  obtain ⟨c, cs, hcons, hc⟩ := intChars_eq_cons i
  have hscalar := hrest.readScalar_intChars (by cases h; assumption)
  rw [hcons, List.cons_append] at hscalar
  rw [chars, hcons, List.cons_append, readValue, hscalar]
  all_goals
    intro cs' hsame
    obtain ⟨rfl, -⟩ := List.cons.inj hsame
    exact absurd hc (by decide)

lemma IsPlain.readsBack_str {s : String} (h : IsPlain (.str s)) : ReadsBack (.str s) := by
  refine .of_succ h.opens fun fuel rest _ _ => ?_
  have hstring : stringChars s ++ rest = '"' :: (s.toList.flatMap escapedChar ++ '"' :: rest) := by
    simp [stringChars]
  rw [chars, hstring, readValue, readString_escaped]
  rfl

lemma IsPlain.readsBack_arr {items : List Json} (h : IsPlain (.arr items))
    (hread : ∀ v ∈ items, ReadsBack v) : ReadsBack (.arr items) := by
  refine .of_succ h.opens fun fuel rest hfuel _ => ?_
  have hitems := isPlain_arr.mp h
  simp only [chars, List.length_append, List.length_cons] at hfuel
  simp only [chars, List.cons_append, List.append_assoc, List.nil_append]
  cases items with
  | nil => rfl
  | cons v items =>
    have hopens : Opens (itemChars (v :: items) ++ ']' :: rest) :=
      (opens_itemChars (hitems v List.mem_cons_self).opens).append _
    have hread' := readItems_itemChars (fun w hw => (hitems w hw).opens) hread
      (by omega : (itemChars (v :: items)).length < fuel) rest
    obtain ⟨c, cs, hcons, -, hclose, -⟩ := id hopens
    rw [readValue.eq_3, hopens.skipGap_eq]
    split
    · next hsame => exact absurd (List.cons.inj (hcons.symm.trans hsame)).1 hclose
    · rw [hread']; rfl

lemma IsPlain.readsBack_obj {fields : List (String × Json)} (h : IsPlain (.obj fields))
    (hread : ∀ f ∈ fields, ReadsBack f.2) : ReadsBack (.obj fields) := by
  refine .of_succ h.opens fun fuel rest hfuel _ => ?_
  obtain ⟨hkeys, hfields⟩ := isPlain_obj.mp h
  simp only [chars, List.length_append, List.length_cons] at hfuel
  simp only [chars, List.cons_append, List.append_assoc, List.nil_append]
  cases fields with
  | nil => rfl
  | cons f fields =>
    have hopens : Opens (fieldChars (f :: fields) ++ '\x7d' :: rest) :=
      (opens_fieldChars f fields).append _
    have hread' := readFields_fieldChars (fun g hg => (hfields g hg).opens) hread
      (by omega : (fieldChars (f :: fields)).length < fuel) rest
    obtain ⟨c, cs, hcons, -, -, hclose⟩ := id hopens
    rw [readValue.eq_4, hopens.skipGap_eq]
    split
    · next hsame => exact absurd (List.cons.inj (hcons.symm.trans hsame)).1 hclose
    · rw [hread']
      simp [Except.map, Fields.ofList_eq_self hkeys]

theorem IsPlain.readsBack {v : Json} (h : IsPlain v) : ReadsBack v := by
  induction h with
  | null => exact .of_succ IsPlain.null.opens fun _ _ _ _ => rfl
  | bool b => exact .of_succ (IsPlain.bool b).opens fun _ _ _ _ => by cases b <;> rfl
  | int hi => exact (IsPlain.int hi).readsBack_int
  | str s => exact (IsPlain.str s).readsBack_str
  | arr hitems ih => exact (IsPlain.arr hitems).readsBack_arr ih
  | obj hkeys hfields ih => exact (IsPlain.obj hkeys hfields).readsBack_obj ih

/-- The text of a plain value reads back as the value. -/
theorem IsPlain.read_print {v : Json} (h : IsPlain v) : read v.print = .ok v := by
  have hback := h.readsBack ((chars v).length + 1) [] (by omega) ends_nil
  rw [List.append_nil] at hback
  rw [read, print, String.toList_ofList, h.opens.skipGap_eq, hback]
  rfl

end Json
end Pinboard
