import Pinboard.Proofs.Digits
import Pinboard.Proofs.Text.Numerals
import Pinboard.Time.Duration

/-!
# Amounts and their units

What the reader of durations takes from the front of a text: a row of digits, and behind blanks one
letter for a unit that is spelled out. The letters that are left hold no digit and are passed over.
A scan needs no more fuel than the text has characters.
-/
namespace Pinboard.Time

open Number Text

/-! ## Letters -/

lemma toLower_cases (c : Char) :
    c.toLower = c ∨ 65 ≤ c.toNat ∧ c.toLower.toNat = c.toNat + 32 := by
  by_cases hupper : c.val ≥ 'A'.val ∧ c.val ≤ 'Z'.val
  · have hhigh : c.val.toNat ≤ 90 := UInt32.le_iff_toNat_le.mp hupper.2
    have hval : c.toLower.val = c.val + 32 := congrArg Char.val (dif_pos hupper)
    have hmod : (c.val.toNat + 32) % 2 ^ 32 = c.val.toNat + 32 := Nat.mod_eq_of_lt (by omega)
    exact .inr ⟨UInt32.le_iff_toNat_le.mp hupper.1,
      (congrArg UInt32.toNat hval).trans ((UInt32.toNat_add _ _).trans hmod)⟩
  · exact .inl (dif_neg hupper)

lemma eq_or_of_toLower {c small : Char} (capital : Char) (h : c.toLower = small)
    (hcapital : capital.toNat + 32 = small.toNat) : c = small ∨ c = capital := by
  subst h
  rcases toLower_cases c with hsame | ⟨-, hsum⟩
  · exact .inl hsame.symm
  · exact .inr (Char.toNat_inj.mp (by omega))

/-- A character from the capital A to the small z. -/
def IsLetter (c : Char) : Prop := 65 ≤ c.toNat ∧ c.toNat ≤ 122

lemma IsLetter.decimalValue? {c : Char} (h : IsLetter c) : Text.decimalValue? c = none := by
  obtain ⟨hlow, hhigh⟩ := h
  refine decimalValue?_of_lt (by omega) ?_
  simp only [Char.isDigit, Bool.and_eq_false_iff, decide_eq_false_iff_not, GE.ge,
    UInt32.le_iff_toNat_le]
  exact .inr fun hdigit => absurd (hlow.trans hdigit) (by decide)

lemma IsLetter.isBlank {c : Char} (h : IsLetter c) : Text.isBlank c = false :=
  isBlank_of_letter h.1 h.2

/-- What reads as one of the two letters after which a unit may go on is no blank and no digit. -/
lemma readsAs_eq_false {letter c : Char} (hletter : letter = 's' ∨ letter = 'i')
    (hc : isBlank c = true ∨ c.isDigit = true) : readsAs letter c = false := by
  rw [Bool.eq_false_iff]
  intro hreads
  have hmem : c ∈ ['s', 'S', 'ſ', 'i', 'I', 'İ', 'ı'] := by
    rcases hletter with rfl | rfl
    · have hs : c = 's' ∨ c = 'S' ∨ c = 'ſ' := by simpa [readsAs, or_assoc] using hreads
      rcases hs with rfl | rfl | rfl <;> simp
    · have hi : c = 'i' ∨ c = 'I' ∨ c = 'İ' ∨ c = 'ı' := by simpa [readsAs, or_assoc] using hreads
      rcases hi with rfl | rfl | rfl | rfl <;> simp
  fin_cases hmem <;> revert hc <;> decide

/-! ## Units -/

lemma afterWord?_eq_none {letter : Char} (word : List Char) {cs : List Char}
    (h : ∀ c ∈ cs.head?, readsAs letter c = false) : afterWord? (letter :: word) cs = none := by
  cases cs with
  | nil => rfl
  | cons c cs => rw [afterWord?, h c rfl]; rfl

lemma takeUnit_minute {c : Char} {cs : List Char} (hc : c = 'm' ∨ c = 'M')
    (hs : afterWord? ['s'] cs = none) (hi : afterWord? "illisecond".toList cs = none) :
    takeUnit (c :: cs) = .ok (.minute, cs) := by
  have hshort : afterWord? ['m', 's'] (c :: cs) = afterWord? ['s'] cs := by
    rcases hc with rfl | rfl <;> rfl
  have hlong : afterWord? "millisecond".toList (c :: cs) = afterWord? "illisecond".toList cs := by
    rcases hc with rfl | rfl <;> rfl
  rw [takeUnit, hshort, hs, hlong, hi]
  rcases hc with rfl | rfl <;> rfl

lemma takeUnit_digit {cs : List Char} (h : ∀ c ∈ cs.head?, c.isDigit = true) :
    takeUnit cs = .ok (.second, cs) := by
  cases cs with
  | nil => rfl
  | cons c cs =>
    have hc : c.isDigit = true := h c rfl
    have hrange : 48 ≤ c.toNat ∧ c.toNat ≤ 57 := Char.isDigit_iff_toNat.mp hc
    have hmem : c ∈ ['0', '1', '2', '3', '4', '5', '6', '7', '8', '9'] := by
      rw [← Char.ofNat_toNat c]
      obtain ⟨hlow, hhigh⟩ := hrange
      interval_cases c.toNat <;> decide
    fin_cases hmem <;> rfl

lemma afterWord?_length {word cs rest : List Char} (h : afterWord? word cs = some rest) :
    rest.length ≤ cs.length := by
  induction word generalizing cs with
  | nil => exact (Option.some.inj h) ▸ le_rfl
  | cons letter word ih =>
    cases cs with
    | nil => cases h
    | cons c cs =>
      rw [afterWord?] at h
      split at h
      · exact (ih h).trans (Nat.le_succ _)
      · cases h

/-- A unit takes nothing but what is in front, and fails for one cause. -/
lemma takeUnit_cases (cs : List Char) :
    takeUnit cs = .error .unknownUnit ∨
      ∃ u rest, takeUnit cs = .ok (u, rest) ∧ rest.length ≤ cs.length := by
  unfold takeUnit
  split
  · rename_i rest hword
    exact .inr ⟨_, rest, rfl, afterWord?_length hword⟩
  · split
    · rename_i rest hword
      have hlong := afterWord?_length hword
      simp only
      split
      · rename_i rest' hword'
        exact .inr ⟨_, rest', rfl, (afterWord?_length hword').trans hlong⟩
      · exact .inr ⟨_, rest, rfl, hlong⟩
    · split
      · exact .inr ⟨_, [], rfl, le_rfl⟩
      · rename_i c rest _ _
        split_ifs
        · exact .inl rfl
        · exact .inr ⟨_, rest, rfl, Nat.le_succ _⟩
        · exact .inr ⟨_, rest, rfl, Nat.le_succ _⟩
        · exact .inr ⟨_, rest, rfl, Nat.le_succ _⟩
        · exact .inr ⟨_, rest, rfl, Nat.le_succ _⟩
        · exact .inr ⟨_, c :: rest, rfl, le_rfl⟩

/-! ## Amounts -/

/-- A row of ASCII digits. -/
def IsWhole (digits : List Char) : Prop := digits ≠ [] ∧ ∀ c ∈ digits, c.isDigit = true

/-- What may stand behind a row of digits. -/
def Stops (rest : List Char) : Prop := ∀ c ∈ rest.head?, decimalValue? c = none ∧ c ≠ '.'

lemma stops_blank {c : Char} (h : isBlank c = true) (rest : List Char) : Stops (c :: rest) := by
  intro d hd
  obtain rfl : c = d := by simpa using hd
  refine ⟨decimalValue?_blank h, ?_⟩
  rintro rfl
  revert h
  decide

lemma stops_letter {c : Char} (h : IsLetter c) (rest : List Char) : Stops (c :: rest) := by
  intro d hd
  obtain rfl : c = d := by simpa using hd
  refine ⟨h.decimalValue?, ?_⟩
  rintro rfl
  exact absurd h.1 (by decide)

lemma takeDecimals_append {digits rest : List Char} (hdigits : ∀ c ∈ digits, c.isDigit = true)
    (hrest : Stops rest) :
    takeDecimals (digits ++ rest) = (digits.map fun c => c.toNat - 48, rest) := by
  induction digits with
  | nil =>
    cases rest with
    | nil => rfl
    | cons c rest => rw [List.nil_append, takeDecimals, (hrest c rfl).1]; rfl
  | cons c digits ih =>
    rw [List.cons_append, takeDecimals, decimalValue?_ascii (hdigits c List.mem_cons_self),
      ih fun d hd => hdigits d (List.mem_cons_of_mem _ hd)]
    rfl

lemma takeAmount?_append {digits rest : List Char} (hdigits : IsWhole digits)
    (hrest : Stops rest) :
    takeAmount? (digits ++ rest) = some (⟨digits.map fun c => c.toNat - 48, []⟩, rest) := by
  obtain ⟨c, cs, rfl⟩ := List.exists_cons_of_ne_nil hdigits.1
  rw [takeAmount?, takeDecimals_append hdigits.2 hrest]
  cases rest with
  | nil => rfl
  | cons d rest =>
    have hpoint : d ≠ '.' := (hrest d rfl).2
    rw [List.map_cons]
    split <;> simp_all

/-- An amount is found exactly where a decimal digit stands. -/
lemma takeAmount?_eq_none_iff {c : Char} {cs : List Char} :
    takeAmount? (c :: cs) = none ↔ decimalValue? c = none := by
  rw [takeAmount?, takeDecimals]
  cases decimalValue? c with
  | none => simp
  | some d =>
    simp only [reduceCtorEq, iff_false]
    split <;> simp_all
    split <;> simp

lemma takeDecimals_length (cs : List Char) :
    (takeDecimals cs).1.length + (takeDecimals cs).2.length = cs.length := by
  induction cs with
  | nil => rfl
  | cons c cs ih =>
    rw [takeDecimals]
    cases decimalValue? c with
    | none => simp
    | some d => simp only [List.length_cons]; omega

lemma takeAmount?_length {cs rest : List Char} {a : Amount} (h : takeAmount? cs = some (a, rest)) :
    rest.length < cs.length := by
  have hwhole := takeDecimals_length cs
  unfold takeAmount? at h
  split at h
  · cases h
  · rename_i whole behind hnonempty heq
    have hfraction := takeDecimals_length behind
    rw [heq] at hwhole
    have hpos : 0 < whole.length := List.length_pos_iff.mpr hnonempty
    split at h
    · obtain ⟨-, rfl⟩ := Prod.mk.inj (Option.some.inj h)
      simp only [List.length_cons] at hwhole ⊢
      omega
    · rename_i fraction behind' _ heq'
      obtain ⟨-, rfl⟩ := Prod.mk.inj (Option.some.inj h)
      rw [heq'] at hfraction
      simp only [List.length_cons] at hwhole hfraction
      omega
  · rename_i whole behind hnonempty _ heq
    rw [heq] at hwhole
    have hpos : 0 < whole.length := List.length_pos_iff.mpr hnonempty
    obtain ⟨-, rfl⟩ := Prod.mk.inj (Option.some.inj h)
    simp only at hwhole
    omega

/-! ## Scans -/

/-- The amounts of a text, with as much fuel as it has characters. -/
def scan (cs : List Char) : Except DurationFault (List (Amount × TimeUnit)) := amounts cs.length cs

/-- What is found in a text that begins with a character: nothing there, or an amount with its
unit. -/
def scanStep (c : Char) (cs : List Char)
    (next : List Char → Except DurationFault (List (Amount × TimeUnit))) :
    Except DurationFault (List (Amount × TimeUnit)) :=
  match takeAmount? (c :: cs) with
  | none => next cs
  | some (amount, rest) =>
    match takeUnit (rest.dropWhile isBlank) with
    | .error e => .error e
    | .ok (unit, rest) => (next rest).map ((amount, unit) :: ·)

lemma amounts_succ (fuel : Nat) (c : Char) (cs : List Char) :
    amounts (fuel + 1) (c :: cs) = scanStep c cs (amounts fuel) := rfl

/-- What comes after is looked at in shorter texts only. -/
lemma scanStep_congr {c : Char} {cs : List Char}
    {next next' : List Char → Except DurationFault (List (Amount × TimeUnit))}
    (h : ∀ rest, rest.length ≤ cs.length → next rest = next' rest) :
    scanStep c cs next = scanStep c cs next' := by
  unfold scanStep
  cases hamount : takeAmount? (c :: cs) with
  | none => exact h cs le_rfl
  | some found =>
    obtain ⟨amount, rest⟩ := found
    have hshort : (rest.dropWhile isBlank).length ≤ cs.length :=
      (List.dropWhile_suffix _).length_le.trans (Nat.le_of_lt_succ (takeAmount?_length hamount))
    rcases takeUnit_cases (rest.dropWhile isBlank) with herror | ⟨u, behind, hok, hlength⟩
    · simp only [herror]
    · simp only [hok, h behind (hlength.trans hshort)]

/-- More fuel makes no difference. -/
lemma amounts_eq_scan {fuel : Nat} {cs : List Char} (h : cs.length ≤ fuel) :
    amounts fuel cs = scan cs := by
  induction fuel using Nat.strongRecOn generalizing cs with
  | ind fuel ih =>
    cases cs with
    | nil => cases fuel <;> rfl
    | cons c cs =>
      obtain ⟨fuel, rfl⟩ := Nat.exists_eq_succ_of_ne_zero (by simp at h; omega : fuel ≠ 0)
      have hcs : cs.length ≤ fuel := by simpa using h
      rw [scan, List.length_cons, amounts_succ, amounts_succ]
      refine scanStep_congr fun rest hrest => ?_
      rw [ih fuel (Nat.lt_succ_self _) (hrest.trans hcs),
        ih cs.length (Nat.lt_succ_of_le hcs) hrest]

lemma scan_cons (c : Char) (cs : List Char) : scan (c :: cs) = scanStep c cs scan := by
  rw [scan, List.length_cons, amounts_succ]
  exact scanStep_congr fun rest hrest => amounts_eq_scan hrest

lemma scan_skip {front : List Char} (h : ∀ c ∈ front, decimalValue? c = none) (cs : List Char) :
    scan (front ++ cs) = scan cs := by
  induction front with
  | nil => rfl
  | cons c front ih =>
    rw [List.cons_append, scan_cons, scanStep,
      takeAmount?_eq_none_iff.mpr (h c List.mem_cons_self)]
    exact ih fun d hd => h d (List.mem_cons_of_mem _ hd)

lemma scan_amount {digits rest behind : List Char} {u : TimeUnit} (hdigits : IsWhole digits)
    (hrest : Stops rest) (hunit : takeUnit (rest.dropWhile isBlank) = .ok (u, behind)) :
    scan (digits ++ rest) =
      (scan behind).map ((⟨digits.map fun c => c.toNat - 48, []⟩, u) :: ·) := by
  have hamount := takeAmount?_append hdigits hrest
  obtain ⟨c, cs, rfl⟩ := List.exists_cons_of_ne_nil hdigits.1
  rw [List.cons_append] at hamount ⊢
  rw [scan_cons, scanStep, hamount]
  simp only [hunit]

lemma scanStep_cases (c : Char) (cs : List Char)
    (next : List Char → Except DurationFault (List (Amount × TimeUnit))) :
    decimalValue? c = none ∧ scanStep c cs next = next cs ∨
      decimalValue? c ≠ none ∧ (scanStep c cs next = .error .unknownUnit ∨
        ∃ item rest, rest.length ≤ cs.length ∧
          scanStep c cs next = (next rest).map (item :: ·)) := by
  unfold scanStep
  cases hamount : takeAmount? (c :: cs) with
  | none => exact .inl ⟨takeAmount?_eq_none_iff.mp hamount, rfl⟩
  | some found =>
    obtain ⟨amount, rest⟩ := found
    refine .inr ⟨fun hnone => ?_, ?_⟩
    · rw [takeAmount?_eq_none_iff.mpr hnone] at hamount
      cases hamount
    · have hshort : (rest.dropWhile isBlank).length ≤ cs.length :=
        (List.dropWhile_suffix _).length_le.trans (Nat.le_of_lt_succ (takeAmount?_length hamount))
      rcases takeUnit_cases (rest.dropWhile isBlank) with herror | ⟨u, behind, hok, hlength⟩
      · exact .inl (by simp only [herror])
      · exact .inr ⟨(amount, u), behind, hlength.trans hshort, by simp only [hok]⟩

/-- A scan finds nothing only where no decimal digit stands, and never fails for that. -/
lemma scan_spec (cs : List Char) :
    (scan cs = .ok [] ↔ ∀ c ∈ cs, isDecimal c = false) ∧ scan cs ≠ .error .absent := by
  induction hn : cs.length using Nat.strongRecOn generalizing cs with
  | ind n ih =>
    cases cs with
    | nil => exact ⟨by simp [scan, amounts], by simp [scan, amounts]⟩
    | cons c cs =>
      subst hn
      rw [scan_cons]
      rcases scanStep_cases c cs scan with
        ⟨hnone, hstep⟩ | ⟨hsome, herror | ⟨item, rest, hlt, hstep⟩⟩
      · obtain ⟨hempty, herror⟩ := ih cs.length (Nat.lt_succ_self _) cs rfl
        rw [hstep]
        refine ⟨?_, herror⟩
        rw [hempty, List.forall_mem_cons, isDecimal_eq_false]
        simp [hnone]
      · rw [herror, List.forall_mem_cons, isDecimal_eq_false]
        simp [hsome]
      · obtain ⟨-, herror⟩ := ih rest.length (Nat.lt_succ_of_le hlt) rest rfl
        rw [hstep, List.forall_mem_cons, isDecimal_eq_false]
        cases hrest : scan rest with
        | ok items => simp [Except.map, hsome]
        | error e =>
          rw [hrest] at herror
          simpa [Except.map, hsome] using herror

end Pinboard.Time
