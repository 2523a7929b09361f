import Pinboard.Item.Basic
import Pinboard.Proofs.Digits
import Pinboard.Time.Iso

/-!
# Reading a written timestamp

Every timestamp is read back from the text under which it is stored, and from the field in which a
record keeps it.
-/
namespace Pinboard.Time

open Number

lemma digit?_digitChar {d : Nat} (h : d < 10) : digit? d.digitChar = some d := by
  interval_cases d <;> rfl

lemma digit?_isSome {c : Char} (h : c.isDigit = true) : (digit? c).isSome = true := by
  have hrange : '0' ≤ c ∧ c ≤ '9' := by
    simpa [Char.isDigit, Char.le_def, UInt32.le_iff_toNat_le] using h
  simp [digit?, hrange]

lemma twoDigits?_digitChar {n : Nat} (h : n < 100) :
    twoDigits? (n / 10).digitChar (n % 10).digitChar = some n := by
  rw [twoDigits?, digit?_digitChar (by omega), digit?_digitChar (by omega)]
  simp
  omega

/-- Two digits are read as they were written. -/
lemma padded_two {n : Nat} (h : n < 100) :
    ∃ a b, padded 2 n = [a, b] ∧ twoDigits? a b = some n :=
  ⟨_, _, (padded_eq 2 n).trans (filled_two (by decide) h), twoDigits?_digitChar h⟩

lemma padded_four {n : Nat} (h : n < 10000) :
    ∃ a b c d, padded 4 n = [a, b, c, d] ∧ twoDigits? a b = some (n / 100)
      ∧ twoDigits? c d = some (n % 100) := by
  refine ⟨_, _, _, _, (padded_eq 4 n).trans (filled_four (by decide) h), ?_, ?_⟩
  · have hcentury := twoDigits?_digitChar (n := n / 100) (by omega)
    rw [Nat.div_div_eq_div_mul] at hcentury
    exact hcentury
  · have hyear := twoDigits?_digitChar (n := n % 100) (by omega)
    rwa [show n % 100 / 10 = n / 10 % 10 by omega, show n % 100 % 10 = n % 10 by omega] at hyear

lemma takeDate?_chars (d : Date) (rest : List Char) :
    takeDate? (d.chars ++ rest) = some (d, rest) := by
  have hmonth : d.month < 100 := by have := d.valid.2.2.2.1; omega
  have hday : d.day < 100 := by
    have hvalid := d.valid.2.2.2.2.2
    unfold daysInMonth at hvalid
    split_ifs at hvalid <;> omega
  obtain ⟨a, b, c, e, hyear, hcentury, hyears⟩ :=
    padded_four (n := d.year) (by have := d.valid.2.1; omega)
  obtain ⟨f, g, hmonthChars, hmonthRead⟩ := padded_two hmonth
  obtain ⟨i, j, hdayChars, hdayRead⟩ := padded_two hday
  have hwhole : 100 * (d.year / 100) + d.year % 100 = d.year := Nat.div_add_mod _ _
  simp [Date.chars, hyear, hmonthChars, hdayChars, takeDate?, hcentury, hyears, hmonthRead,
    hdayRead, hwhole]

/-- What stands behind a time of day does not go on with its fraction. -/
def EndsClock (rest : List Char) : Prop :=
  ∀ c ∈ rest.head?, c ≠ '.' ∧ c ≠ ',' ∧ digit? c = none

lemma takeMicros?_chars {micro : Nat} (h : micro < 1000000) {rest : List Char}
    (hrest : EndsClock rest) :
    takeMicros? ((if micro = 0 then [] else '.' :: padded 6 micro) ++ rest)
      = some (micro, rest) := by
  split_ifs with hzero
  · subst hzero
    cases rest with
    | nil => rfl
    | cons c rest =>
      obtain ⟨hpoint, hcomma, -⟩ := hrest c rfl
      simp [takeMicros?, hpoint, hcomma]
  · have hdigits : ∀ c ∈ padded 6 micro, (digit? c).isSome = true := fun c hc =>
      digit?_isSome (isDigit_of_mem_filled hc)
    have hlength : (padded 6 micro).length = 6 := length_filled (by decide) 5 (by simpa using h)
    have htake : (padded 6 micro ++ rest).takeWhile (fun c => (digit? c).isSome)
        = padded 6 micro := by
      rw [List.takeWhile_append_of_pos hdigits]
      cases rest with
      | nil => simp
      | cons c rest => simp [(hrest c rfl).2.2]
    have hsome : padded 6 micro ≠ [] := List.ne_nil_of_length_pos (by omega)
    have hvalue : ofDigitValues ((padded 6 micro).map fun c => c.toNat - 48) = micro :=
      ofDigitValues_filled 6 micro
    simp [takeMicros?, htake, hsome, hlength, hvalue]

lemma takeClock?_chars (c : Clock) {rest : List Char} (hrest : EndsClock rest) :
    takeClock? (c.chars ++ rest) = some (c, rest) := by
  obtain ⟨hhour, hminute, hsecond, hmicro⟩ := c.valid
  obtain ⟨a, b, hhourChars, hhourRead⟩ := padded_two (n := c.hour) (by omega)
  obtain ⟨d, e, hminuteChars, hminuteRead⟩ := padded_two (n := c.minute) (by omega)
  obtain ⟨f, g, hsecondChars, hsecondRead⟩ := padded_two (n := c.second) (by omega)
  simp [Clock.chars, hhourChars, hminuteChars, hsecondChars, takeClock?, takeSeconds?, hhourRead,
    hminuteRead, hsecondRead, takeMicros?_chars hmicro hrest]

/-! ## Offsets -/

lemma readZone?_chars (o : Offset) : readZone? o.chars = some (some o) := by
  have hbounded := o.bounded
  obtain ⟨a, b, hhours, hhoursRead⟩ := padded_two (n := o.minutes.natAbs / 60) (by omega)
  obtain ⟨c, d, hminutes, hminutesRead⟩ := padded_two (n := o.minutes.natAbs % 60) (by omega)
  have hzone : signedOffset? (if o.minutes < 0 then '-' else '+') (o.minutes.natAbs / 60)
      (o.minutes.natAbs % 60) = some o := by
    have htotal : 60 * ((o.minutes.natAbs / 60 : Nat) : Int) + (o.minutes.natAbs % 60 : Nat)
        = o.minutes.natAbs := by omega
    rw [signedOffset?, if_neg (by omega), htotal]
    rcases lt_or_ge o.minutes 0 with hneg | hpos
    · rw [if_pos hneg, if_neg (by decide), if_pos (by decide), ← Int.abs_eq_natAbs, abs_of_neg hneg,
        neg_neg, Offset.ofMinutes?_eq]
    · rw [if_neg (not_lt.mpr hpos), if_pos rfl, ← Int.abs_eq_natAbs, abs_of_nonneg hpos,
        Offset.ofMinutes?_eq]
  simp [Offset.chars, hhours, hminutes, readZone?, hhoursRead, hminutesRead, hzone]

lemma readZone?_storedChars (o : Offset) : readZone? o.storedChars = some (some o) := by
  unfold Offset.storedChars
  split_ifs with hutc
  · have hsame : Offset.utc = o := by rw [Offset.utc, Offset.mk.injEq, hutc]
    rw [readZone?, hsame]
  · exact readZone?_chars o

lemma endsClock_storedChars (o : Option Offset) :
    EndsClock ((o.map Offset.storedChars).getD []) := by
  cases o with
  | none => simp [EndsClock]
  | some o =>
    have hhead : ∃ c rest, o.storedChars = c :: rest ∧ (c = 'Z' ∨ c = '-' ∨ c = '+') := by
      unfold Offset.storedChars Offset.chars
      split_ifs <;> exact ⟨_, _, rfl, by simp⟩
    obtain ⟨c, rest, hcons, hc⟩ := hhead
    intro d hd
    obtain rfl : c = d := by simpa [hcons] using hd
    obtain rfl | rfl | rfl := hc <;> decide

/-- A stored timestamp is read as the one that was written. -/
theorem Timestamp.read?_stored (t : Timestamp) : Timestamp.read? t.stored = some t := by
  obtain ⟨date, clock, offset⟩ := t
  have hzone : readZone? ((offset.map Offset.storedChars).getD []) = some offset := by
    cases offset with
    | none => rfl
    | some o => exact readZone?_storedChars o
  simp [Timestamp.read?, Timestamp.stored, Timestamp.charsWith, Timestamp.readChars?,
    takeDate?_chars, takeClock?_chars clock (endsClock_storedChars offset), hzone]

end Pinboard.Time

namespace Pinboard.Record

open Time

@[simp] lemma moment_toJson (t : Timestamp) : moment t.toJson = .ok t := by
  simp [Timestamp.toJson, moment, momentOfText, Timestamp.read?_stored, Checked.ofExcept]

end Pinboard.Record
