import Pinboard.Proofs.Number.Rounding
import Pinboard.Proofs.Time.Amounts

/-!
# Durations add up

A duration that is written as whole amounts with units reads as their sum, to the microsecond. The
spellings of a unit need no order, since one letter tells them apart. A text holds no duration
exactly if it has no decimal digit.
-/
namespace Pinboard.Time

open Number Number.Binary64 Text

/-! ## Durations as they are written -/

namespace TimeUnit

/-- The length of a unit in seconds; a millisecond is no whole number of them. -/
def wholeSeconds : TimeUnit → Nat
  | .millisecond => 0
  | .second => 1
  | .minute => 60
  | .hour => 3600
  | .day => 86400

/-- The spellings of the units from seconds on, in small letters. -/
def spellings : TimeUnit → List String
  | .millisecond => []
  | .second => ["s", "sec", "secs", "second", "seconds"]
  | .minute => ["m", "min", "mins", "minute", "minutes"]
  | .hour => ["h", "hr", "hrs", "hour", "hours"]
  | .day => ["d", "day", "days"]

/-- A spelling of the unit in any case. -/
def Spells (u : TimeUnit) (word : List Char) : Prop :=
  ∃ s ∈ u.spellings, s.toList = word.map Char.toLower

/-- The letter that all spellings of the unit begin with. -/
def letter : TimeUnit → Char
  | .millisecond => 'm'
  | .second => 's'
  | .minute => 'm'
  | .hour => 'h'
  | .day => 'd'

end TimeUnit

/-- A text that is nothing but whole amounts and blanks. Each amount has a unit behind it, perhaps
after blanks, or it is a number of seconds and stands before a blank or at the end. -/
inductive Written : List Char → List (Nat × TimeUnit) → Prop
  | nil : Written [] []
  | blank {c : Char} {cs : List Char} {items : List (Nat × TimeUnit)}
      (hc : isBlank c = true) (h : Written cs items) : Written (c :: cs) items
  | named {digits blanks word cs : List Char} {u : TimeUnit} {items : List (Nat × TimeUnit)}
      (hdigits : IsWhole digits) (hblanks : ∀ c ∈ blanks, isBlank c = true) (hword : u.Spells word)
      (h : Written cs items) :
      Written (digits ++ (blanks ++ (word ++ cs))) ((Nat.ofDigitChars 10 digits 0, u) :: items)
  | bare {digits cs : List Char} {items : List (Nat × TimeUnit)}
      (hdigits : IsWhole digits) (hend : ∀ c ∈ cs.head?, isBlank c = true) (h : Written cs items) :
      Written (digits ++ cs) ((Nat.ofDigitChars 10 digits 0, .second) :: items)

/-- The sum of amounts, in seconds. -/
def sumSeconds (items : List (Nat × TimeUnit)) : Nat :=
  (items.map fun (n, u) => n * u.wholeSeconds).sum

/-! ## What is written is found -/

/-- What is known of a spelling in small letters: its first letter tells the unit, and one that
begins with an m goes on as no spelling of milliseconds does. -/
lemma TimeUnit.spellings_shape (u : TimeUnit) : ∀ s ∈ u.spellings,
    s.toList.head? = some u.letter ∧
      s.toList.all (fun c => decide (97 ≤ c.toNat ∧ c.toNat ≤ 122)) = true ∧
      u ≠ .millisecond ∧
      (u = .minute → s.toList.tail = [] ∨ s.toList.tail.take 2 = ['i', 'n']) := by
  cases u <;> decide

/-- One letter of a spelling is taken. -/
lemma takeUnit_spelled {u : TimeUnit} {word cs : List Char} (h : u.Spells word)
    (hcs : ∀ c ∈ cs.head?, isBlank c = true ∨ c.isDigit = true) :
    ∃ c rest, word = c :: rest ∧ takeUnit (word ++ cs) = .ok (u, rest ++ cs) := by
  obtain ⟨s, hs, hlower⟩ := h
  obtain ⟨hhead, -, hnot, hminute⟩ := u.spellings_shape s hs
  rw [hlower] at hhead hminute
  cases word with
  | nil => cases hhead
  | cons c rest =>
    have hc : c.toLower = u.letter := Option.some.inj hhead
    refine ⟨c, rest, rfl, ?_⟩
    cases u with
    | millisecond => exact absurd rfl hnot
    | second => obtain rfl | rfl := eq_or_of_toLower 'S' hc rfl <;> rfl
    | hour => obtain rfl | rfl := eq_or_of_toLower 'H' hc rfl <;> rfl
    | day => obtain rfl | rfl := eq_or_of_toLower 'D' hc rfl <;> rfl
    | minute =>
      have hm := eq_or_of_toLower 'M' hc rfl
      rcases rest with _ | ⟨i, _ | ⟨n, rest⟩⟩
      · exact takeUnit_minute hm
          (afterWord?_eq_none _ fun d hd => readsAs_eq_false (.inl rfl) (hcs d hd))
          (afterWord?_eq_none _ fun d hd => readsAs_eq_false (.inr rfl) (hcs d hd))
      · simp at hminute
      · obtain ⟨hi, hn⟩ : i.toLower = 'i' ∧ n.toLower = 'n' := by simpa using hminute
        refine takeUnit_minute hm ?_ ?_
        · rcases eq_or_of_toLower 'I' hi rfl with rfl | rfl <;> rfl
        · rcases eq_or_of_toLower 'I' hi rfl with rfl | rfl <;>
            rcases eq_or_of_toLower 'N' hn rfl with rfl | rfl <;> rfl

lemma TimeUnit.Spells.isLetter {u : TimeUnit} {word : List Char} (h : u.Spells word) :
    ∀ c ∈ word, IsLetter c := by
  obtain ⟨s, hs, hlower⟩ := h
  obtain ⟨-, hletters, -⟩ := u.spellings_shape s hs
  intro c hc
  have hsmall := of_decide_eq_true
    (List.all_eq_true.mp hletters c.toLower (hlower ▸ List.mem_map_of_mem hc))
  rcases toLower_cases c with hsame | ⟨hlow, hsum⟩
  · rw [hsame] at hsmall
    exact ⟨le_trans (by decide) hsmall.1, hsmall.2⟩
  · exact ⟨hlow, by omega⟩

/-- An amount that was found where a whole one was written. -/
def Finds (found : Amount × TimeUnit) (item : Nat × TimeUnit) : Prop :=
  found.1.fraction = [] ∧ ofDigitValues found.1.whole = item.1 ∧ found.2 = item.2 ∧
    item.2 ≠ .millisecond

lemma finds_digits (digits : List Char) {u : TimeUnit} (hu : u ≠ .millisecond) :
    Finds (⟨digits.map fun c => c.toNat - 48, []⟩, u) (Nat.ofDigitChars 10 digits 0, u) :=
  ⟨rfl, ofDigitValues_map digits, rfl, hu⟩

lemma Written.head {cs : List Char} {items : List (Nat × TimeUnit)} (h : Written cs items) :
    ∀ c ∈ cs.head?, isBlank c = true ∨ c.isDigit = true := by
  have hfirst : ∀ {digits rest : List Char}, IsWhole digits → ∀ c ∈ (digits ++ rest).head?,
      isBlank c = true ∨ c.isDigit = true := by
    rintro digits rest ⟨hsome, hdigits⟩ c hc
    obtain ⟨d, ds, rfl⟩ := List.exists_cons_of_ne_nil hsome
    obtain rfl : d = c := by simpa using hc
    exact .inr (hdigits d List.mem_cons_self)
  cases h with
  | nil => simp
  | blank hc => simpa using .inl hc
  | named hdigits => exact hfirst hdigits
  | bare hdigits => exact hfirst hdigits

/-- Behind the blanks stands the next amount, or nothing. -/
lemma Written.dropBlanks {cs : List Char} {items : List (Nat × TimeUnit)} (h : Written cs items) :
    ∀ c ∈ (cs.dropWhile isBlank).head?, c.isDigit = true := by
  have hfirst : ∀ {digits rest : List Char}, IsWhole digits →
      ∀ c ∈ ((digits ++ rest).dropWhile isBlank).head?, c.isDigit = true := by
    rintro digits rest ⟨hsome, hdigits⟩ c hc
    obtain ⟨d, ds, rfl⟩ := List.exists_cons_of_ne_nil hsome
    have hd := hdigits d List.mem_cons_self
    rw [List.cons_append, List.dropWhile_cons_of_neg (by simp [isBlank_of_isDigit hd])] at hc
    exact (Option.some.inj hc) ▸ hd
  induction h with
  | nil => simp
  | blank hc _ ih => rwa [List.dropWhile_cons_of_pos hc]
  | named hdigits => exact hfirst hdigits
  | bare hdigits => exact hfirst hdigits

/-- The amounts of a written text are found, in their order. -/
lemma Written.scan {cs : List Char} {items : List (Nat × TimeUnit)} (h : Written cs items) :
    ∃ found, Time.scan cs = .ok found ∧ List.Forall₂ Finds found items := by
  induction h with
  | nil => exact ⟨[], rfl, .nil⟩
  | @blank c cs items hc _ ih =>
    rwa [← List.singleton_append,
      scan_skip fun d hd => List.mem_singleton.mp hd ▸ decimalValue?_blank hc]
  | @named digits blanks word cs u items hdigits hblanks hword h ih =>
    obtain ⟨found, hfound, hmatch⟩ := ih
    have hletters := hword.isLetter
    obtain ⟨c, rest, rfl, hunit⟩ := takeUnit_spelled hword h.head
    have hstops : Stops (blanks ++ (c :: rest ++ cs)) := by
      cases blanks with
      | nil => exact stops_letter (hletters c List.mem_cons_self) _
      | cons b blanks => exact stops_blank (hblanks b List.mem_cons_self) _
    have hdrop : (blanks ++ (c :: rest ++ cs)).dropWhile isBlank = c :: rest ++ cs := by
      rw [List.dropWhile_append_of_pos hblanks, List.cons_append,
        List.dropWhile_cons_of_neg (by simp [(hletters c List.mem_cons_self).isBlank])]
    have hskip : Time.scan (rest ++ cs) = Time.scan cs := scan_skip (fun d hd =>
      (hletters d (List.mem_cons_of_mem _ hd)).decimalValue?) cs
    have hu : u ≠ .millisecond := by
      obtain ⟨s, hs, -⟩ := hword
      exact (u.spellings_shape s hs).2.2.1
    rw [scan_amount hdigits hstops (hdrop.symm ▸ hunit), hskip, hfound]
    exact ⟨_, rfl, .cons (finds_digits digits hu) hmatch⟩
  | @bare digits cs items hdigits hend h ih =>
    obtain ⟨found, hfound, hmatch⟩ := ih
    have hstops : Stops cs := by
      cases cs with
      | nil => simp [Stops]
      | cons c cs => exact stops_blank (hend c rfl) cs
    have hskip : Time.scan (cs.dropWhile isBlank) = Time.scan cs := by
      conv_rhs => rw [← List.takeWhile_append_dropWhile (p := isBlank) (l := cs)]
      exact (scan_skip (fun c hc => decimalValue?_blank
        (List.all_eq_true.mp List.all_takeWhile c hc)) _).symm
    rw [scan_amount hdigits hstops (takeUnit_digit h.dropBlanks), hskip, hfound]
    exact ⟨_, rfl, .cons (finds_digits digits (by decide)) hmatch⟩

/-! ## The sum -/

/-- A sum of amounts that stays below the numbers that the format holds is exact. -/
lemma foldl_finds {found : List (Amount × TimeUnit)} {items : List (Nat × TimeUnit)}
    (h : List.Forall₂ Finds found items) {x : Binary64} {n : Nat} (hx : Is x n)
    (hbound : n + sumSeconds items < 2 ^ 53) :
    Is (found.foldl (fun sum (a, u) => sum.add (a.value.mul u.seconds)) x)
      (n + sumSeconds items) := by
  induction h generalizing x n with
  | nil => exact hx
  | @cons found item founds items hfinds _ ih =>
    obtain ⟨a, u⟩ := found
    obtain ⟨k, v⟩ := item
    obtain ⟨hfraction, hwhole, hunit, hnot⟩ := hfinds
    simp only at hfraction hwhole hunit hnot
    subst hunit
    have hsum : sumSeconds ((k, u) :: items) = k * u.wholeSeconds + sumSeconds items := by
      simp [sumSeconds]
    rw [hsum] at hbound ⊢
    have hpos : 0 < u.wholeSeconds := by cases u <;> first | exact absurd rfl hnot | decide
    have hseconds : u.seconds = ofNat u.wholeSeconds := by
      cases u <;> first | exact absurd rfl hnot | rfl
    have hk : k ≤ k * u.wholeSeconds := Nat.le_mul_of_pos_right k hpos
    have hvalue : a.value = ofNat k := by
      rw [Amount.value, hfraction, List.append_nil, hwhole]
      exact ofDecimal_zero (by omega)
    have hmul : a.value.mul u.seconds = ofNat (k * u.wholeSeconds) := by
      rw [hvalue, hseconds]
      exact (is_ofNat (by omega)).mul (is_ofNat (by cases u <;> decide))
    have hadd : x.add (a.value.mul u.seconds) = ofNat (n + k * u.wholeSeconds) := by
      rw [hmul]
      exact hx.add (is_ofNat (by omega))
    rw [List.foldl_cons, ← Nat.add_assoc]
    refine ih ?_ (by omega)
    simp only [hadd]
    exact is_ofNat (by omega)

/-- A whole number of seconds needs no rounding. -/
lemma microsOfSeconds_is {x : Binary64} {n : Nat} (hx : Is x n)
    (hbound : n * 1000000 ≤ longestMicros) : microsOfSeconds x = .ok (n * 1000000) := by
  obtain ⟨j, rfl⟩ := hx
  have hpos : 0 < 2 ^ j := Nat.two_pow_pos j
  have hup : (-(j : Int)).toNat = 0 := by omega
  have hdown : (-(-(j : Int))).toNat = j := by omega
  have hfraction : (ofNat 1000000).mul (ofRatio false 0 (2 ^ j)) = ofNat 0 := by
    have hzero : ofRatio false 0 (2 ^ j) = ofNat 0 := by
      rw [ofRatio, if_pos rfl, ofNat, ofRatio, if_pos rfl]
    rw [hzero]
    exact (is_ofNat (by norm_num)).mul (is_ofNat (by norm_num))
  obtain ⟨i, hi⟩ := is_ofNat (show 0 < 2 ^ 53 by decide)
  rw [microsOfSeconds]
  simp only [hup, hdown, Nat.pow_zero, Nat.mul_one, Nat.mul_div_cancel _ hpos, Nat.mul_mod_left,
    hfraction, hi, Nat.zero_mul]
  have hrest : nearestEven 0 (2 ^ (-(-(i : Int))).toNat) = 0 := by
    have := nearestEven_mul 0 (Nat.two_pow_pos (-(-(i : Int))).toNat)
    rwa [Nat.zero_mul] at this
  rw [hrest, Nat.add_zero, if_neg (by omega)]

/-- No sum of amounts fails to be a number. -/
lemma totalSeconds_ne_nan (items : List (Amount × TimeUnit)) : totalSeconds items ≠ .nan := by
  have hseconds : ∀ u : TimeUnit, ∃ m q, m ≠ 0 ∧ u.seconds = .finite false m q := fun u => by
    cases u <;> exact ⟨_, _, by decide, rfl⟩
  have hfold : ∀ (items : List (Amount × TimeUnit)) (x : Binary64), Unsigned x →
      Unsigned (items.foldl (fun sum (a, u) => sum.add (a.value.mul u.seconds)) x) := by
    intro items
    induction items with
    | nil => exact fun _ hx => hx
    | cons item items ih =>
      intro x hx
      obtain ⟨m, q, hm, hunit⟩ := hseconds item.2
      refine ih _ (hx.add ?_)
      rw [hunit]
      exact (unsigned_ofDecimal _ _).mul hm q
  exact (hfold items _ (unsigned_ofRatio 0 1)).ne_nan

lemma microsOfSeconds_ne_absent (x : Binary64) : microsOfSeconds x ≠ .error .absent := by
  cases x with
  | finite s m q =>
    simp only [microsOfSeconds]
    split_ifs <;> simp
  | infinite s => simp [microsOfSeconds]
  | nan => simp [microsOfSeconds]

lemma readDuration_eq (s : String) : readDuration s =
    match scan s.toList with
    | .error e => .error e
    | .ok [] => .error .absent
    | .ok items => microsOfSeconds (totalSeconds items) := rfl

lemma readDuration_absent_iff (s : String) :
    readDuration s = .error .absent ↔ ∀ c ∈ s.toList, isDecimal c = false := by
  obtain ⟨hempty, herror⟩ := scan_spec s.toList
  rw [readDuration_eq, ← hempty]
  split
  · rename_i e he
    rw [he] at herror ⊢
    simpa using herror
  · rename_i he
    simp [he]
  · rename_i items hsome he
    have hitems : items ≠ [] := hsome
    simp [he, hitems, microsOfSeconds_ne_absent]

/-- Whole amounts read as their sum wherever it is a duration, and there is no duration in a text
exactly if it has no decimal digit. No sum fails to be a number, so the other faults are those of a
unit and of the range. -/
theorem readDuration_sums :
    (∀ cs items, Written cs items → items ≠ [] → sumSeconds items * 1000000 ≤ longestMicros →
      readDuration (String.ofList cs) = .ok (sumSeconds items * 1000000)) ∧
    (∀ s, readDuration s = .error .absent ↔ ∀ c ∈ s.toList, isDecimal c = false) ∧
    ∀ items, totalSeconds items ≠ .nan := by
  refine ⟨fun cs items hwritten hsome hbound => ?_, readDuration_absent_iff, totalSeconds_ne_nan⟩
  obtain ⟨found, hfound, hmatch⟩ := hwritten.scan
  have hbelow : sumSeconds items < 2 ^ 53 := by
    have : longestMicros = 86399999999999999999 := rfl
    omega
  have htotal : Is (totalSeconds found) (sumSeconds items) := by
    have := foldl_finds hmatch (n := 0) (is_ofNat (by decide)) (by simpa using hbelow)
    rwa [Nat.zero_add] at this
  rw [readDuration_eq, String.toList_ofList, hfound]
  cases hmatch with
  | nil => exact absurd rfl hsome
  | cons _ _ => exact microsOfSeconds_is htotal hbound

/-- An hour without a blank, half an hour with one, and seconds without a unit. -/
theorem readDuration_sums_hours :
    Written ("1H".toList ++ ' ' :: "30 mins45".toList) [(1, .hour), (30, .minute), (45, .second)] ∧
      readDuration "1H 30 mins45" = .ok 5445000000 ∧ readDuration "soon" = .error .absent := by
  have hwhole : ∀ digits, digits ≠ [] → digits.all Char.isDigit = true → IsWhole digits :=
    fun _ hsome hdigits => ⟨hsome, List.all_eq_true.mp hdigits⟩
  have hlast : Written ['4', '5'] [(45, .second)] :=
    @Written.bare ['4', '5'] [] [] (hwhole _ (by decide) (by decide)) (by simp) .nil
  have hmiddle : Written "30 mins45".toList [(30, .minute), (45, .second)] :=
    @Written.named ['3', '0'] [' '] ['m', 'i', 'n', 's'] _ _ _
      (hwhole _ (by decide) (by decide)) (List.forall_mem_singleton.mpr (by decide))
      ⟨"mins", by decide, by decide⟩ hlast
  have hwritten : Written ("1H".toList ++ ' ' :: "30 mins45".toList)
      [(1, .hour), (30, .minute), (45, .second)] :=
    @Written.named ['1'] [] ['H'] _ _ _
      (hwhole _ (by decide) (by decide)) (by simp) ⟨"h", by decide, by decide⟩
      (.blank (by decide) hmiddle)
  have hsoon : "soon".toList.all (fun c => !isDecimal c) = true := by decide
  refine ⟨hwritten, readDuration_sums.1 _ _ hwritten (by decide) (by decide),
    (readDuration_sums.2.1 "soon").mpr fun c hc => ?_⟩
  simpa using List.all_eq_true.mp hsoon c hc

end Pinboard.Time
