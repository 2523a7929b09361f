import Mathlib.Algebra.Order.Field.Rat
import Mathlib.Algebra.Order.BigOperators.Group.List
import Mathlib.Tactic.FieldSimp
import Mathlib.Tactic.Linarith
import Pinboard.Proofs.Launch.Failures
import Pinboard.Proofs.Launch.Quotient

/-!
# The average of many uses

The average that a pin keeps is a whole number, and every use works on with the rounded number. So
the errors of the uses add up, to at most a quarter of a unit for each use. An average of zero is
taken for none: the time of the next use then stands for all uses before it.
-/
namespace Pinboard.Launch

open Number

/-! ## Averages -/

/-- The average that uses of some times leave, the times that it stands for, and what roundings
added to the total of these. -/
inductive Averaged : List Nat → Nat → List Nat → Int → Prop
  | unused : Averaged [] 0 [] 0
  | afresh {times counted : List Nat} {error : Int} (h : Averaged times 0 counted error)
      (elapsed : Nat) :
      Averaged (times ++ [elapsed]) elapsed (List.replicate (times.length + 1) elapsed) 0
  | onward {times counted : List Nat} {average elapsed next : Nat} {error : Int}
      (h : Averaged times average counted error) (haverage : average ≠ 0)
      (hnext : roundedQuotient? (average * times.length + elapsed) (times.length + 1) =
        some (next : Int)) :
      Averaged (times ++ [elapsed]) next (counted ++ [elapsed])
        (error + (next * (times.length + 1) - (average * times.length + elapsed)))

namespace Averaged

variable {times counted : List Nat} {average elapsed next : Nat} {error : Int}

lemma length_eq (h : Averaged times average counted error) : counted.length = times.length := by
  induction h with
  | unused => rfl
  | afresh _ elapsed _ => simp
  | onward _ _ _ ih => simp [ih]

lemma length_pos (h : Averaged times average counted error) (haverage : average ≠ 0) :
    0 < times.length := by
  cases h with
  | unused => exact absurd rfl haverage
  | afresh => simp
  | onward => simp

/-- The total after one more use is of a size that can be divided. -/
lemma exists_rounded (h : Averaged times average counted error) (haverage : average ≠ 0)
    (hbelow : average < 2 ^ 53) (elapsed : Nat) (helapsed : elapsed < 2 ^ 53) :
    ∃ next : Nat,
      roundedQuotient? (average * times.length + elapsed) (times.length + 1) = some (next : Int) ∧
      IsRounded (average * times.length + elapsed) (times.length + 1) next := by
  have hpos := h.length_pos haverage
  have htotal : times.length ≤ average * times.length :=
    Nat.le_mul_of_pos_left _ (Nat.pos_of_ne_zero haverage)
  have hlow : times.length + 1 ≤ 2 * (average * times.length + elapsed) := by omega
  have hhigh : average * times.length + elapsed < 2 ^ 53 * (times.length + 1) := by
    have := Nat.mul_le_mul_right times.length hbelow.le
    omega
  obtain ⟨next, hnext, hrounded⟩ := exists_isRounded (Nat.succ_pos _) hlow hhigh
  exact ⟨next, by exact_mod_cast hnext, hrounded⟩

lemma isRounded (h : Averaged times average counted error) (haverage : average ≠ 0)
    (hbelow : average < 2 ^ 53) (helapsed : elapsed < 2 ^ 53)
    (hnext : roundedQuotient? (average * times.length + elapsed) (times.length + 1) =
      some (next : Int)) :
    IsRounded (average * times.length + elapsed) (times.length + 1) next := by
  obtain ⟨v, hv, hrounded⟩ := h.exists_rounded haverage hbelow elapsed helapsed
  obtain rfl : next = v := by
    rw [hnext] at hv
    exact_mod_cast Option.some.inj hv
  exact hrounded

/-- The average lies between two of the times. -/
lemma between (h : Averaged times average counted error) (hbelow : ∀ e ∈ times, e < 2 ^ 53)
    (hsome : times ≠ []) :
    ∃ low ∈ times, ∃ high ∈ times, low ≤ average ∧ average ≤ high := by
  induction h with
  | unused => exact absurd rfl hsome
  | afresh _ elapsed _ => exact ⟨elapsed, by simp, elapsed, by simp, le_rfl, le_rfl⟩
  | @onward times counted average elapsed next error h haverage hnext ih =>
    have hpos := h.length_pos haverage
    obtain ⟨low, hlowMem, high, hhighMem, hlow, hhigh⟩ :=
      ih (fun e he => hbelow e (by simp [he])) (List.ne_nil_of_length_pos hpos)
    have hhighBelow : high < 2 ^ 53 := hbelow high (by simp [hhighMem])
    have hrounded := h.isRounded haverage (by omega) (hbelow elapsed (by simp)) hnext
    have hleast : min low elapsed ≤ next := hrounded.least _ <| by
      rw [Nat.mul_succ]
      exact Nat.add_le_add (Nat.mul_le_mul_right _ (by omega)) (by omega)
    have hmost : next ≤ max high elapsed := hrounded.most _ <| by
      rw [Nat.mul_succ]
      exact Nat.add_le_add (Nat.mul_le_mul_right _ (by omega)) (by omega)
    refine ⟨min low elapsed, ?_, max high elapsed, ?_, hleast, hmost⟩
    · rcases min_choice low elapsed with heq | heq <;> simp [heq, hlowMem]
    · rcases max_choice high elapsed with heq | heq <;> simp [heq, hhighMem]

lemma lt_limit (h : Averaged times average counted error) (hbelow : ∀ e ∈ times, e < 2 ^ 53) :
    average < 2 ^ 53 := by
  by_cases haverage : average = 0
  · omega
  obtain ⟨-, -, high, hhigh, -, hle⟩ :=
    h.between hbelow (List.ne_nil_of_length_pos (h.length_pos haverage))
  exact hle.trans_lt (hbelow high hhigh)

/-- There is an average after every use. -/
lemma exists_next (h : Averaged times average counted error) (hbelow : ∀ e ∈ times, e < 2 ^ 53)
    (helapsed : elapsed < 2 ^ 53) :
    ∃ (next : Nat) (counted' : List Nat) (error' : Int),
      averageAfter? average times.length elapsed = some (next : Int) ∧
      Averaged (times ++ [elapsed]) next counted' error' := by
  by_cases haverage : average = 0
  · subst haverage
    exact ⟨elapsed, _, _, if_pos rfl, h.afresh elapsed⟩
  · obtain ⟨next, hnext, -⟩ := h.exists_rounded haverage (h.lt_limit hbelow) elapsed helapsed
    refine ⟨next, _, _, ?_, h.onward haverage hnext⟩
    rw [averageAfter?, if_neg (by exact_mod_cast haverage), hnext]

/-- What one more rounding adds to the error of a total. -/
lemma error_step {t : Nat} {error carried : Int} (herror : 4 * |error| ≤ (t : Int) ^ 2)
    (hcarried : 2 * |carried| ≤ t + 1) : 4 * |error + carried| ≤ ((t : Int) + 1) ^ 2 := by
  have htriangle := abs_add_le error carried
  -- Both bounds are attained only where they are whole, and the parity of `t` tells where.
  rcases Nat.even_or_odd' t with ⟨m, rfl | rfl⟩
  · have hsquare : ((2 * m : Nat) : Int) ^ 2 = 4 * ((m : Int) * m) := by push_cast; ring
    have hnext : (((2 * m : Nat) : Int) + 1) ^ 2 = 4 * ((m : Int) * m) + 4 * m + 1 := by
      push_cast; ring
    rw [hsquare] at herror
    rw [hnext]
    push_cast at hcarried
    omega
  · have hsquare : ((2 * m + 1 : Nat) : Int) ^ 2 = 4 * ((m : Int) * m) + 4 * m + 1 := by
      push_cast; ring
    have hnext : (((2 * m + 1 : Nat) : Int) + 1) ^ 2 = 4 * ((m : Int) * m) + 8 * m + 4 := by
      push_cast; ring
    rw [hsquare] at herror
    rw [hnext]
    push_cast at hcarried
    omega

/-- The average is that of the times it stands for, but for the errors. -/
lemma total_eq (h : Averaged times average counted error) :
    (average * times.length : Int) = counted.sum + error := by
  induction h with
  | unused => rfl
  | afresh _ elapsed _ => simp [mul_comm]
  | onward _ _ _ ih =>
    simp only [List.sum_append, List.sum_singleton, List.length_append, List.length_singleton,
      Nat.cast_add, Nat.cast_one]
    linarith

/-- The errors add up to a quarter of a unit for each use. -/
lemma error_le (h : Averaged times average counted error)
    (hsmall : counted.sum + times.length ^ 2 ≤ 2 ^ 52) :
    4 * |error| ≤ (times.length : Int) ^ 2 := by
  induction h with
  | unused => simp
  | afresh _ elapsed _ => simp only [abs_zero, mul_zero]; positivity
  | @onward times counted average elapsed next error h haverage hnext ih =>
    simp only [List.sum_append, List.sum_singleton, List.length_append, List.length_singleton]
      at hsmall ⊢
    have hsquare : times.length ^ 2 < (times.length + 1) ^ 2 :=
      Nat.pow_lt_pow_left (Nat.lt_succ_self _) (by decide)
    have herror := ih (by omega)
    have htotal : average * times.length ≤ counted.sum + times.length ^ 2 := by
      have hnonneg := sq_nonneg (times.length : Int)
      have : (average * times.length : Int) ≤ counted.sum + times.length ^ 2 := by
        linarith [h.total_eq, le_abs_self error]
      exact_mod_cast this
    have hle : average ≤ average * times.length :=
      Nat.le_mul_of_pos_right _ (h.length_pos haverage)
    obtain ⟨hupper, hlower⟩ :=
      (h.isRounded haverage (by omega) (by omega) hnext).near (by omega)
    have hcarried : 2 * |(next * (times.length + 1) : Int) - (average * times.length + elapsed)| ≤
        times.length + 1 := by
      zify at hupper hlower
      rcases abs_cases ((next * (times.length + 1) : Int) - (average * times.length + elapsed))
        with ⟨habs, -⟩ | ⟨habs, -⟩ <;> linarith
    simpa only [Nat.cast_add, Nat.cast_one] using error_step herror hcarried

/-- If the times differ little, so does the average from each of them. -/
lemma spread (h : Averaged times average counted error) (hbelow : ∀ e ∈ times, e < 2 ^ 53)
    {width : Nat} (hwidth : ∀ e ∈ times, ∀ e' ∈ times, e ≤ e' + width) :
    |(average * times.length : Int) - times.sum| ≤ width * times.length := by
  rcases eq_or_ne times [] with rfl | hsome
  · simp
  obtain ⟨low, hlowMem, high, hhighMem, hlow, hhigh⟩ := h.between hbelow hsome
  have hupper : times.sum ≤ times.length * (average + width) :=
    List.sum_le_card_nsmul _ _ fun e he => (hwidth e he low hlowMem).trans (by omega)
  have hlower : times.length * average ≤ times.sum + times.length * width := by
    calc times.length * average = (times.map fun _ => average).sum := by simp
      _ ≤ (times.map (· + width)).sum :=
        List.sum_le_sum fun e he => hhigh.trans (hwidth high hhighMem e he)
      _ = times.sum + times.length * width := by simp [List.sum_map_add]
  have hupper' : (times.sum : Int) ≤ times.length * (average + width) := by exact_mod_cast hupper
  have hlower' : (times.length * average : Int) ≤ times.sum + times.length * width := by
    exact_mod_cast hlower
  exact abs_le.mpr ⟨by linarith, by linarith⟩

end Averaged

/-! ## Means -/

/-- The mean of some times, in milliseconds. -/
def mean (times : List Nat) : ℚ := times.sum / times.length

/-- How far an average is from a mean shows in the totals. -/
lemma abs_sub_mean_le {times : List Nat} {average bound : Nat} (hsome : times ≠ []) :
    |(average : ℚ) - mean times| ≤ bound ↔
      |(average * times.length : Int) - times.sum| ≤ bound * times.length := by
  have hpos : (0 : ℚ) < times.length := by exact_mod_cast List.length_pos_of_ne_nil hsome
  have hsplit : (average : ℚ) - mean times =
      (((average * times.length : Int) - times.sum : Int) : ℚ) / times.length := by
    simp only [mean, Int.cast_sub, Int.cast_mul, Int.cast_natCast]
    field_simp
  rw [hsplit, abs_div, abs_of_pos hpos, div_le_iff₀ hpos, ← Int.cast_abs]
  exact_mod_cast Iff.rfl

/-- Whether an average is right tell the times that it does not stand for and the errors. -/
lemma Averaged.mean_iff {times counted : List Nat} {average : Nat} {error : Int}
    (h : Averaged times average counted error) (hsome : times ≠ []) (bound : Nat) :
    |(average : ℚ) - mean times| ≤ bound ↔
      |counted.sum + error - times.sum| ≤ bound * times.length := by
  rw [abs_sub_mean_le hsome, h.total_eq]

/-- Times that grow by one with every second use. -/
def climbing (n : Nat) : List Nat := (List.range n).map fun k => 1 + k / 2

lemma climbing_succ (n : Nat) : climbing (n + 1) = climbing n ++ [1 + n / 2] := by
  simp [climbing, List.range_succ]

lemma sum_climbing (n : Nat) : 4 * (climbing n).sum = n ^ 2 + 2 * n + n % 2 := by
  induction n with
  | zero => rfl
  | succ n ih =>
    have hsquare : (n + 1) ^ 2 = n ^ 2 + 2 * n + 1 := by ring
    rw [climbing_succ, List.sum_append, List.sum_singleton, hsquare]
    omega

/-- Every such time is rounded away. -/
lemma averaged_climbing {n : Nat} (hn : 0 < n) (hsmall : n < 2 ^ 50) :
    ∃ error, Averaged (climbing n) 1 (climbing n) error := by
  induction n, hn using Nat.le_induction with
  | base => exact ⟨0, Averaged.unused.afresh 1⟩
  | succ n hn ih =>
    have hlength : (climbing n).length = n := by simp [climbing]
    obtain ⟨error, haveraged⟩ := ih (by omega)
    obtain ⟨v, hv, hrounded⟩ := haveraged.exists_rounded one_ne_zero (by decide)
      (1 + n / 2) (by omega)
    rw [hlength] at hrounded
    obtain ⟨hupper, -⟩ := hrounded.near (by omega)
    have hleast : 1 ≤ v := hrounded.least 1 (by omega)
    have hmost : v < 2 := by
      refine Nat.lt_of_mul_lt_mul_right (a := n + 1) ?_
      omega
    obtain rfl : v = 1 := by omega
    rw [climbing_succ]
    exact ⟨_, haveraged.onward one_ne_zero hv⟩

/-- So the average can stay behind the mean by nearly `n / 4`. -/
theorem climbing_behind {n : Nat} (hn : 0 < n) (hsmall : n < 2 ^ 50) :
    (∃ error, Averaged (climbing n) 1 (climbing n) error) ∧
      ((n : ℚ) - 2) / 4 ≤ mean (climbing n) - 1 := by
  refine ⟨averaged_climbing hn hsmall, ?_⟩
  have hpos : (0 : ℚ) < n := by exact_mod_cast hn
  have hsum : (n : ℚ) ^ 2 + 2 * n ≤ 4 * (climbing n).sum := by
    have := sum_climbing n
    exact_mod_cast (by omega : n ^ 2 + 2 * n ≤ 4 * (climbing n).sum)
  have hmean : mean (climbing n) * n = (climbing n).sum := by
    rw [mean, climbing, List.length_map, List.length_range]
    exact div_mul_cancel₀ _ hpos.ne'
  refine le_of_mul_le_mul_right ?_ hpos
  linarith

/-! ## Uses -/

variable {σ : Type}

/-- How often the first stored pin with an id was used, and the average that it keeps. -/
def statistics (id : String) (pins : List Pin) : Option (Int × Int) :=
  (pins.find? fun q => q.id == id).map fun q => (q.timesOpened, q.averageTime)

/-- The pin with an id is used for some times. What happens besides leaves its statistics. -/
inductive History (services : Services σ) (pins : σ → List Pin) (id : String) :
    List Nat → σ → σ → Prop
  | start (w : σ) : History services pins id [] w w
  | elsewhere {times : List Nat} {w w₁ w₂ : σ} (h : History services pins id times w w₁)
      (hkept : statistics id (pins w₂) = statistics id (pins w₁)) :
      History services pins id times w w₂
  | used {times : List Nat} {w w₁ : σ} (h : History services pins id times w w₁) {p : Pin}
      (hid : p.id = id) (elapsed : Nat) :
      History services pins id (times ++ [elapsed]) w
        ((recordUse services p elapsed).run.run w₁).2

section Uses

variable {services : Services σ} {pins : σ → List Pin} {id : String}

lemma History.trans {times more : List Nat} {w w₁ w₂ : σ}
    (h : History services pins id times w w₁) (hmore : History services pins id more w₁ w₂) :
    History services pins id (times ++ more) w w₂ := by
  induction hmore with
  | start => rwa [List.append_nil]
  | elsewhere _ hkept ih => exact (ih h).elsewhere hkept
  | used _ hid elapsed ih => rw [← List.append_assoc]; exact (ih h).used hid elapsed

/-- The state after uses of a pin with nothing in between. -/
def afterUses (services : Services σ) (p : Pin) (times : List Nat) (w : σ) : σ :=
  times.foldl (fun w elapsed => ((recordUse services p elapsed).run.run w).2) w

lemma history_afterUses (p : Pin) (times : List Nat) (w : σ) :
    History services pins p.id times w (afterUses services p times w) := by
  induction times using List.reverseRecOn with
  | nil => exact .start w
  | append_singleton times elapsed ih =>
    rw [afterUses, List.foldl_append]
    exact ih.used rfl elapsed

variable (hservices : services.HoldsPins pins)
include hservices

/-- An opening of the pin is one more use of it, after those that its resolution made. -/
theorem History.openPin {resolve : String → Context → Action σ String} {p : Pin}
    {environment : Option Environment} {extras : Fields Json} {depth t : Nat} {text : String}
    {ended : Except Fault Unit} {more : List Nat} {w w₁ w₂ w₃ : σ} (hid : p.id = id)
    (hdepth : depth ≤ services.settings.maxLaunchDepth)
    (hstart : services.host.stopwatch.run.run w = (.ok t, w₁))
    (huses : Uses services resolve p
      (Context.assemble services.settings (some p) environment extras depth) w₁ text w₂ ended w₃)
    (hmore : History services pins id more w₁ w₂) (htold : Told services p ended w₃) :
    ∃ elapsed, History services pins id (more ++ [elapsed]) w
      ((openPin services resolve p environment extras depth).run.run w).2 := by
  have hfirst : pins w₁ = pins w := by
    obtain ⟨_, _, hread, -, hpins⟩ := hservices.stopwatch w
    obtain ⟨-, rfl⟩ := Prod.mk.inj (hstart.symm.trans hread)
    exact hpins
  have hfrom : History services pins id more w w₂ := by
    simpa using History.trans ((History.start w).elsewhere (congrArg _ hfirst)) hmore
  have huse := huses.run_use
  have hpins₃ := huses.pins_eq hservices
  cases ended with
  | ok u =>
    obtain ⟨t', w₄, hstop, -, hpins₄⟩ := hservices.stopwatch w₃
    rw [run_openPin_used hdepth hstart huse hstop]
    exact ⟨t' - t, (hfrom.elsewhere (congrArg _ (hpins₄.trans hpins₃))).used hid _⟩
  | error cause =>
    obtain ⟨w₄, hreport⟩ := told_error_iff.mp htold
    obtain ⟨t', w₅, hstop, -, hpins₅⟩ := hservices.stopwatch w₄
    have hpins₄ : pins w₄ = pins w₃ := by
      simpa [hreport] using leaves_report hservices p cause w₃
    rw [run_openPin_failed hdepth hstart huse hreport hstop]
    exact ⟨t' - t,
      (hfrom.elsewhere (congrArg _ (hpins₅.trans (hpins₄.trans hpins₃)))).used hid _⟩

/-- What a pin that was never used keeps after some uses. -/
lemma History.averaged {times : List Nat} {w w' : σ} (h : History services pins id times w w')
    (hbelow : ∀ e ∈ times, e < 2 ^ 53) (hnew : statistics id (pins w) = some (0, 0)) :
    ∃ (average : Nat) (counted : List Nat) (error : Int),
      statistics id (pins w') = some ((times.length : Int), (average : Int)) ∧
      Averaged times average counted error := by
  induction h with
  | start w => exact ⟨0, [], 0, hnew, .unused⟩
  | elsewhere h hkept ih =>
    obtain ⟨average, counted, error, hkeeps, haveraged⟩ := ih hbelow hnew
    exact ⟨average, counted, error, hkept.trans hkeeps, haveraged⟩
  | @used times w w₁ h p hid elapsed ih =>
    subst hid
    obtain ⟨average, counted, error, hkeeps, haveraged⟩ :=
      ih (fun e he => hbelow e (by simp [he])) hnew
    obtain ⟨stored, hstored, hpair⟩ := Option.map_eq_some_iff.mp hkeeps
    obtain ⟨htimes, haverage⟩ := Prod.mk.inj hpair
    obtain ⟨next, counted', error', hnext, haveraged'⟩ :=
      haveraged.exists_next (fun e he => hbelow e (by simp [he])) (hbelow elapsed (by simp))
    rw [← htimes, ← haverage] at hnext
    obtain ⟨now, hafter⟩ := recordUse_updates hservices hstored hnext
    refine ⟨next, counted', error', ?_, haveraged'⟩
    have hsame : stored.id = p.id := by simpa using List.find?_some hstored
    rw [statistics, hafter, find?_update (q := stored.usedAt now next) hsame hstored]
    simp [Pin.usedAt, htimes]

/-- After `n` uses of a pin that was never used, the pin keeps `n` and a number between two of the
times. It is within one of their mean exactly if the times that the number does not stand for and
the errors of its roundings make up for each other to within `n`. The errors add up to a quarter of
`n ^ 2` at most. So the number is within one of the mean if it stands for all times, as it does
unless an average before the last was zero, and these are at most four. It also is if all times are
within one of each other. -/
theorem uses_averaged {times : List Nat} {w w' : σ} (h : History services pins id times w w')
    (hsome : times ≠ []) (hsum : times.sum < 2 ^ 53) {p : Pin}
    (hstored : (pins w).find? (fun q => q.id == id) = some p)
    (hnew : p.timesOpened = 0 ∧ p.averageTime = 0) :
    ∃ (q : Pin) (average : Nat) (counted : List Nat) (error : Int),
      (pins w').find? (fun q => q.id == id) = some q ∧ q.timesOpened = times.length ∧
      q.averageTime = average ∧ Averaged times average counted error ∧
      (∃ low ∈ times, ∃ high ∈ times, low ≤ average ∧ average ≤ high) ∧
      (|(average : ℚ) - mean times| ≤ 1 ↔
        |counted.sum + error - times.sum| ≤ times.length) ∧
      (counted.sum + times.length ^ 2 ≤ 2 ^ 52 → 4 * |error| ≤ (times.length : Int) ^ 2) ∧
      ((∀ e ∈ times, ∀ e' ∈ times, e ≤ e' + 1) ∨
          (counted = times ∧ times.length ≤ 4 ∧ times.sum + 16 ≤ 2 ^ 52) →
        |(average : ℚ) - mean times| ≤ 1) := by
  have hbelow : ∀ e ∈ times, e < 2 ^ 53 := fun e he => (List.le_sum_of_mem he).trans_lt hsum
  have hunused : statistics id (pins w) = some (0, 0) := by
    rw [statistics, hstored, Option.map_some, hnew.1, hnew.2]
  obtain ⟨average, counted, error, hkeeps, haveraged⟩ := h.averaged hservices hbelow hunused
  obtain ⟨q, hq, hpair⟩ := Option.map_eq_some_iff.mp hkeeps
  obtain ⟨htimes, haverage⟩ := Prod.mk.inj hpair
  have hmean : |(average : ℚ) - mean times| ≤ 1 ↔
      |counted.sum + error - times.sum| ≤ times.length := by
    simpa using haveraged.mean_iff hsome 1
  refine ⟨q, average, counted, error, hq, htimes, haverage, haveraged,
    haveraged.between hbelow hsome, hmean, haveraged.error_le, ?_⟩
  rintro (hclose | ⟨hall, hfew, hsmall⟩)
  · simpa using (abs_sub_mean_le hsome).mpr (haveraged.spread hbelow hclose)
  · rw [hmean, hall, add_sub_cancel_left]
    have hsquare : times.length ^ 2 ≤ 4 * times.length := by
      rw [Nat.pow_two]
      exact Nat.mul_le_mul_right _ hfew
    have herror := haveraged.error_le (by rw [hall]; omega)
    have : 4 * |error| ≤ 4 * (times.length : Int) := herror.trans (by exact_mod_cast hsquare)
    omega

end Uses

/-- On a desktop the average of three uses is near their mean. -/
theorem uses_averaged_desk :
    (desk.HoldsPins Desktop.pins ∧
      History desk Desktop.pins "a" [3, 4, 4] (Desktop.ofPins [commandPin])
        (afterUses desk commandPin [3, 4, 4] (Desktop.ofPins [commandPin])) ∧
      [3, 4, 4] ≠ [] ∧ [3, 4, 4].sum < 2 ^ 53 ∧
      (Desktop.ofPins [commandPin]).pins.find? (fun q => q.id == "a") = some commandPin ∧
      commandPin.timesOpened = 0 ∧ commandPin.averageTime = 0) ∧
    ∃ (q : Pin) (average : Nat),
      (afterUses desk commandPin [3, 4, 4] (Desktop.ofPins [commandPin])).pins.find?
        (fun q => q.id == "a") = some q ∧ q.timesOpened = 3 ∧ q.averageTime = average ∧
      |(average : ℚ) - 11 / 3| ≤ 1 := by
  have hholds : desk.HoldsPins Desktop.pins :=
    holdsPins_desktop true (fun _ => pure ()) fun _ => Action.leaves_pure ()
  have hhistory : History desk Desktop.pins "a" [3, 4, 4] (Desktop.ofPins [commandPin])
      (afterUses desk commandPin [3, 4, 4] (Desktop.ofPins [commandPin])) :=
    history_afterUses commandPin _ _
  refine ⟨⟨hholds, hhistory, by decide, by decide, rfl, rfl, rfl⟩, ?_⟩
  obtain ⟨q, average, counted, error, hq, htimes, haverage, -, -, -, -, hmean⟩ :=
    uses_averaged hholds hhistory (by decide) (by decide) rfl ⟨rfl, rfl⟩
  refine ⟨q, average, hq, htimes, haverage, ?_⟩
  have hvalue : mean [3, 4, 4] = 11 / 3 := by norm_num [mean]
  exact hvalue ▸ hmean (.inl (by decide))

/-- Nine uses whose roundings lead the average astray, and two of which the first is forgotten. -/
theorem uses_stray :
    (∃ desktop, History desk Desktop.pins "a" [125, 125, 375, 125, 125, 375, 125, 375, 375]
        (Desktop.ofPins [commandPin]) desktop ∧
      statistics "a" desktop.pins = some (9, 235) ∧
      ¬|(235 : ℚ) - mean [125, 125, 375, 125, 125, 375, 125, 375, 375]| ≤ 1) ∧
    ∃ desktop, History desk Desktop.pins "a" [0, 10] (Desktop.ofPins [commandPin]) desktop ∧
      statistics "a" desktop.pins = some (2, 10) ∧ ¬|(10 : ℚ) - mean [0, 10]| ≤ 1 := by
  refine ⟨⟨_, history_afterUses commandPin _ _, ?_, ?_⟩,
    _, history_afterUses commandPin _ _, ?_, ?_⟩
  · decide +kernel
  · norm_num [mean]
  · decide +kernel
  · norm_num [mean]

end Pinboard.Launch
