import Pinboard.Proofs.Json.RoundTrip

/-!
# Texts with too many digits

Every reader takes characters from the front of a text and leaves the rest of it. If one refuses a
number for its digits, as many digits stand in a row somewhere in the text.
-/
namespace Pinboard.Json

open Number

/-- A row of digits that is too long for a whole number. -/
def LongRow (count : Nat) (cs : List Char) : Prop :=
  digitLimit < count ∧ ∃ ds : List Char, ds.length = count ∧ (∀ c ∈ ds, isAsciiDigit c = true) ∧
    ds <:+: cs

/-- What a reader gives for a text: a rest of the text, or a refusal. -/
structure TakesFrom {α : Type} (cs : List Char) (result : Read α) : Prop where
  rest : ∀ a after, result = .ok (a, after) → after <:+ cs
  digits : ∀ count, result = .error (.tooManyDigits count) → LongRow count cs

section Combinators

variable {α β : Type} {cs cs' : List Char}

lemma LongRow.mono {count : Nat} (h : LongRow count cs) (hcs : cs <:+ cs') :
    LongRow count cs' := by
  obtain ⟨hlimit, ds, hlength, hdigits, hinfix⟩ := h
  exact ⟨hlimit, ds, hlength, hdigits, hinfix.trans hcs.isInfix⟩

lemma takesFrom_ok {a : α} {after : List Char} (h : after <:+ cs) :
    TakesFrom cs (.ok (a, after)) :=
  ⟨fun _ _ hok => by obtain ⟨-, rfl⟩ := Prod.mk.inj (Except.ok.inj hok); exact h, nofun⟩

lemma takesFrom_malformed : TakesFrom cs (.error .malformed : Read α) := ⟨nofun, nofun⟩

lemma TakesFrom.mono {result : Read α} (h : TakesFrom cs result) (hcs : cs <:+ cs') :
    TakesFrom cs' result :=
  ⟨fun a after hok => (h.rest a after hok).trans hcs,
    fun count herror => (h.digits count herror).mono hcs⟩

/-- What is refused at first is refused for the whole. -/
lemma TakesFrom.refuse {e : ReadError} (h : TakesFrom cs (.error e : Read α)) :
    TakesFrom cs (.error e : Read β) :=
  ⟨nofun, fun count herror => h.digits count (by cases herror; rfl)⟩

lemma TakesFrom.map {result : Read α} (h : TakesFrom cs result) (f : α → β) :
    TakesFrom cs (result.map fun (a, after) => (f a, after)) := by
  cases result with
  | error e => exact h.refuse
  | ok found => exact takesFrom_ok (h.rest found.1 found.2 rfl)

end Combinators

lemma skipGap_suffix (cs : List Char) : skipGap cs <:+ cs := List.dropWhile_suffix _

/-! ## Strings and numbers -/

lemma takesFrom_stringUnits (cs : List Char) : TakesFrom cs (stringUnits cs) := by
  fun_induction stringUnits cs with
  | case1 => exact takesFrom_malformed
  | case2 rest => exact takesFrom_ok (List.suffix_cons _ _)
  | case3 => exact takesFrom_malformed
  | case4 a b c d rest n _ ih => exact (ih.map (n :: ·)).mono ⟨['\\', 'u', a, b, c, d], rfl⟩
  | case5 => exact takesFrom_malformed
  | case6 c rest _ n _ ih => exact (ih.map (n :: ·)).mono ⟨['\\', c], rfl⟩
  | case7 => exact takesFrom_malformed
  | case8 c rest _ _ _ _ ih => exact (ih.map (c.toNat :: ·)).mono (List.suffix_cons _ _)

lemma takesFrom_readString (cs : List Char) : TakesFrom cs (readString cs) :=
  (takesFrom_stringUnits cs).map fun ns => String.ofList (joinUnits ns)

/-- The whole part of a number is a row of digits at the front. -/
lemma splitWhole_spec (cs : List Char) :
    (splitWhole cs).1 ++ (splitWhole cs).2 = cs ∧
      ∀ c ∈ (splitWhole cs).1, isAsciiDigit c = true := by
  fun_cases splitWhole cs with
  | case1 rest => exact ⟨rfl, fun c hc => by rw [List.mem_singleton.mp hc]; decide⟩
  | case2 => exact ⟨List.takeWhile_append_dropWhile, fun c hc =>
      List.all_eq_true.mp List.all_takeWhile c hc⟩

lemma splitFraction_suffix (cs : List Char) : (splitFraction cs).2 <:+ cs := by
  fun_cases splitFraction cs with
  | case1 => exact List.suffix_rfl
  | case2 cs => exact (List.dropWhile_suffix _).trans (List.suffix_cons _ _)
  | case3 => exact List.suffix_rfl

lemma takeSign_suffix (cs : List Char) : (takeSign cs).2 <:+ cs := by
  fun_cases takeSign cs with
  | case1 => exact List.suffix_cons _ _
  | case2 => exact List.suffix_cons _ _
  | case3 => exact List.suffix_rfl

lemma splitExponent_suffix (cs : List Char) : (splitExponent cs).2 <:+ cs := by
  cases cs with
  | nil => exact List.suffix_rfl
  | cons c cs =>
    simp only [splitExponent]
    split
    · split
      · exact List.suffix_rfl
      · exact ((List.dropWhile_suffix _).trans (takeSign_suffix cs)).trans (List.suffix_cons _ _)
    · exact List.suffix_rfl

/-- Only a number that is nothing but a row of digits is refused for its digits. -/
lemma takesFrom_readNumber (negative : Bool) (cs : List Char) :
    TakesFrom cs (readNumber negative cs) := by
  obtain ⟨hsplit, hdigits⟩ := splitWhole_spec cs
  have hbehind : (splitWhole cs).2 <:+ cs := ⟨_, hsplit⟩
  have hafter := ((splitExponent_suffix _).trans (splitFraction_suffix _)).trans hbehind
  simp only [readNumber]
  split
  · exact takesFrom_malformed
  · split
    · split
      · rename_i hlimit
        refine ⟨fun _ _ hok => (by cases hok), fun count herror => ?_⟩
        obtain rfl : (splitWhole cs).1.length = count := by simpa using herror
        exact ⟨hlimit, _, rfl, hdigits, ⟨[], _, hsplit⟩⟩
      · exact takesFrom_ok hafter
    · exact takesFrom_ok hafter

lemma word?_suffix {w : String} {cs rest : List Char} (h : word? w cs = some rest) :
    rest <:+ cs := by
  unfold word? at h
  split at h
  · obtain rfl := Option.some.inj h
    exact List.drop_suffix _ _
  · cases h

lemma TakesFrom.word {cs : List Char} {next : Read Json} (h : TakesFrom cs next) (w : String)
    (v : Json) : TakesFrom cs (match word? w cs with
      | some rest => .ok (v, rest)
      | none => next) := by
  cases hword : word? w cs with
  | some rest => exact takesFrom_ok (word?_suffix hword)
  | none => exact h

lemma takesFrom_readScalar (cs : List Char) : TakesFrom cs (readScalar cs) := by
  refine (((((TakesFrom.word ?_ _ _).word _ _).word _ _).word _ _).word _ _).word _ _
  split
  · exact (takesFrom_readNumber true _).mono (List.suffix_cons _ _)
  · exact takesFrom_readNumber false _

/-! ## Values -/

section Step

variable {fuel : Nat} (hvalue : ∀ cs, TakesFrom cs (readValue fuel cs))
include hvalue

lemma takesFrom_readItems_succ (hitems : ∀ cs, TakesFrom cs (readItems fuel cs))
    (cs : List Char) : TakesFrom cs (readItems (fuel + 1) cs) := by
  have hfirst := hvalue cs
  unfold readItems
  split
  · rename_i e he
    exact (he ▸ hfirst).refuse
  · rename_i v rest hok
    refine TakesFrom.mono ?_ ((skipGap_suffix rest).trans (hfirst.rest v rest hok))
    generalize skipGap rest = behind
    split
    · exact takesFrom_ok (List.suffix_cons _ _)
    · exact ((hitems _).map (v :: ·)).mono ((skipGap_suffix _).trans (List.suffix_cons _ _))
    · exact takesFrom_malformed

/-- The value of an entry and what follows on it. -/
lemma takesFrom_entry (hfields : ∀ cs, TakesFrom cs (readFields fuel cs)) (key : String)
    (cs : List Char) : TakesFrom cs (match readValue fuel cs with
      | .error e => .error e
      | .ok (v, rest) =>
        match skipGap rest with
        | '\x7d' :: rest => .ok ([(key, v)], rest)
        | ',' :: rest =>
          (readFields fuel (skipGap rest)).map fun (fs, rest) => ((key, v) :: fs, rest)
        | _ => .error .malformed) := by
  have hfirst := hvalue cs
  split
  · rename_i e he
    exact (he ▸ hfirst).refuse
  · rename_i v rest hok
    refine TakesFrom.mono ?_ ((skipGap_suffix rest).trans (hfirst.rest v rest hok))
    generalize skipGap rest = behind
    split
    · exact takesFrom_ok (List.suffix_cons _ _)
    · exact ((hfields _).map ((key, v) :: ·)).mono
        ((skipGap_suffix _).trans (List.suffix_cons _ _))
    · exact takesFrom_malformed

lemma takesFrom_readFields_succ (hfields : ∀ cs, TakesFrom cs (readFields fuel cs))
    (cs : List Char) : TakesFrom cs (readFields (fuel + 1) cs) := by
  unfold readFields
  split
  · cases ‹fuel + 1 = 0›
  · rename_i cs hfuel
    cases hfuel
    refine TakesFrom.mono ?_ (List.suffix_cons _ cs)
    have hkey := takesFrom_readString cs
    split
    · rename_i e he
      exact (he ▸ hkey).refuse
    · rename_i key rest hok
      refine TakesFrom.mono ?_ ((skipGap_suffix rest).trans (hkey.rest key rest hok))
      generalize skipGap rest = behind
      split
      · exact (takesFrom_entry hvalue hfields key _).mono
          ((skipGap_suffix _).trans (List.suffix_cons _ _))
      · exact takesFrom_malformed
  · exact takesFrom_malformed

end Step

lemma takesFrom_readValue_succ {fuel : Nat} (hitems : ∀ cs, TakesFrom cs (readItems fuel cs))
    (hfields : ∀ cs, TakesFrom cs (readFields fuel cs)) (cs : List Char) :
    TakesFrom cs (readValue (fuel + 1) cs) := by
  unfold readValue
  split
  · cases ‹fuel + 1 = 0›
  · exact ((takesFrom_readString _).map Json.str).mono (List.suffix_cons _ _)
  · rename_i cs hfuel
    cases hfuel
    refine TakesFrom.mono ?_ ((skipGap_suffix cs).trans (List.suffix_cons _ _))
    generalize skipGap cs = inside
    split
    · exact takesFrom_ok (List.suffix_cons _ _)
    · exact (hitems _).map Json.arr
  · rename_i cs hfuel
    cases hfuel
    refine TakesFrom.mono ?_ ((skipGap_suffix cs).trans (List.suffix_cons _ _))
    generalize skipGap cs = inside
    split
    · exact takesFrom_ok (List.suffix_cons _ _)
    · exact (hfields _).map fun fields => Json.obj (Fields.ofList fields)
  · exact takesFrom_readScalar _

lemma takesFrom_values (fuel : Nat) :
    (∀ cs, TakesFrom cs (readValue fuel cs)) ∧ (∀ cs, TakesFrom cs (readItems fuel cs)) ∧
      ∀ cs, TakesFrom cs (readFields fuel cs) := by
  induction fuel with
  | zero => exact ⟨fun _ => takesFrom_malformed, fun _ => takesFrom_malformed,
      fun _ => takesFrom_malformed⟩
  | succ fuel ih =>
    obtain ⟨hvalue, hitems, hfields⟩ := ih
    exact ⟨takesFrom_readValue_succ hitems hfields, takesFrom_readItems_succ hvalue hitems,
      takesFrom_readFields_succ hvalue hfields⟩

/-- A text is refused for its digits only where too many stand in a row. -/
theorem longRow_of_read {text : String} {count : Nat}
    (h : Json.read text = .error (.tooManyDigits count)) : LongRow count text.toList := by
  have hvalue := (takesFrom_values ((skipGap text.toList).length + 1)).1 (skipGap text.toList)
  simp only [Json.read] at h
  split at h
  · rename_i e he
    obtain rfl := Except.error.inj h
    exact (hvalue.digits count he).mono (skipGap_suffix _)
  · split at h <;> cases h

/-- A number of only ones that is followed by nothing or by a comma is refused if it has too many
digits. -/
lemma readScalar_ones {n : Nat} (hn : digitLimit < n) {rest : List Char}
    (hrest : rest = [] ∨ ∃ more, rest = ',' :: more) :
    readScalar (List.replicate n '1' ++ rest) = .error (.tooManyDigits n) := by
  obtain ⟨n, rfl⟩ := Nat.exists_eq_succ_of_ne_zero (by omega : n ≠ 0)
  have hones : ∀ c ∈ List.replicate n.succ '1', isAsciiDigit c = true := fun c hc => by
    rw [List.eq_of_mem_replicate hc]
    decide
  have hstop : rest.takeWhile isAsciiDigit = [] ∧ rest.dropWhile isAsciiDigit = rest := by
    obtain rfl | ⟨more, rfl⟩ := hrest
    · exact ⟨rfl, rfl⟩
    · exact ⟨List.takeWhile_cons_of_neg (by decide), List.dropWhile_cons_of_neg (by decide)⟩
  have hwhole : splitWhole (List.replicate n.succ '1' ++ rest) =
      (List.replicate n.succ '1', rest) := by
    rw [splitWhole.eq_2 _ (by simp [List.replicate_succ]), List.takeWhile_append_of_pos hones,
      List.dropWhile_append_of_pos hones, hstop.1, hstop.2, List.append_nil]
  have hnumber : readNumber false (List.replicate n.succ '1' ++ rest) =
      .error (.tooManyDigits n.succ) := by
    have hfraction : splitFraction rest = ([], rest) := by
      obtain rfl | ⟨more, rfl⟩ := hrest <;> rfl
    have hexponent : splitExponent rest = (none, rest) := by
      obtain rfl | ⟨more, rfl⟩ := hrest <;> simp [splitExponent]
    simp [readNumber, hwhole, hfraction, hexponent, hn]
  rw [List.replicate_succ, List.cons_append] at hnumber ⊢
  simp [readScalar, word?, hnumber]

/-- A text that is nothing but such a number is refused. -/
lemma read_replicate_ones {n : Nat} (hn : digitLimit < n) :
    Json.read (String.ofList (List.replicate n '1')) = .error (.tooManyDigits n) := by
  have hscalar := readScalar_ones hn (.inl rfl)
  obtain ⟨n, rfl⟩ := Nat.exists_eq_succ_of_ne_zero (by omega : n ≠ 0)
  rw [Json.read, String.toList_ofList]
  rw [List.append_nil, List.replicate_succ] at hscalar
  rw [List.replicate_succ]
  simp [skipGap, isGap, readValue, hscalar]

end Pinboard.Json
