import Mathlib.Tactic
import Pinboard.Markup.Header

/-!
# Headers before a body

A header that can be read alone, all of it before any colon, is read in the same way when a colon
and a body follow it. A quote that the header leaves open would be the exception, since the body
could close it; but such a header cannot be read alone.
-/
namespace Pinboard.Markup

section Stop

variable {p : Char → Bool} {stop : Char} (hstop : p stop = false) (cs more : List Char)
include hstop

lemma takeWhile_append_stop : (cs ++ stop :: more).takeWhile p = cs.takeWhile p := by
  induction cs with
  | nil => simp [hstop]
  | cons c cs ih => simp [List.takeWhile_cons, ih]

lemma dropWhile_append_stop :
    (cs ++ stop :: more).dropWhile p = cs.dropWhile p ++ stop :: more := by
  induction cs with
  | nil => simp [hstop]
  | cons c cs ih =>
    rw [List.cons_append, List.dropWhile_cons, List.dropWhile_cons, ih]
    split <;> rfl

end Stop

/-- What stops inside a list stops there when the list is continued. -/
lemma while_append_of_dropWhile {p : Char → Bool} {cs rest : List Char} {c : Char}
    (h : cs.dropWhile p = c :: rest) (more : List Char) :
    (cs ++ more).takeWhile p = cs.takeWhile p ∧ (cs ++ more).dropWhile p = c :: (rest ++ more) := by
  induction cs with
  | nil => simp at h
  | cons b cs ih =>
    rw [List.cons_append, List.takeWhile_cons, List.takeWhile_cons, List.dropWhile_cons]
    rw [List.dropWhile_cons] at h
    split at h
    · rename_i hb
      obtain ⟨htake, hdrop⟩ := ih h
      exact ⟨by simp [hb, htake], by simp [hb, hdrop]⟩
    · rename_i hb
      obtain ⟨rfl, rfl⟩ := List.cons.inj h
      exact ⟨by simp [hb], by simp [hb]⟩

/-- No token begins with a quote. -/
lemma readTokens?_quote {q : Char} (hq : isQuote q = true) (fuel : Nat) (cs : List Char) :
    readTokens? fuel (q :: cs) = none := by
  cases fuel with
  | zero => rfl
  | succ fuel =>
    obtain rfl | rfl : q = '"' ∨ q = '\'' := by simpa [isQuote] using hq
    · have hflag : isFlagChar '"' = false := by decide
      have hkey : isKeyStart '"' = false := by decide
      have hblank : Text.isBlank '"' = false := by decide
      simp [readTokens?, takeToken?, takeParam?, takeFlag?, hflag, hkey, hblank]
    · have hflag : isFlagChar '\'' = false := by decide
      have hkey : isKeyStart '\'' = false := by decide
      have hblank : Text.isBlank '\'' = false := by decide
      simp [readTokens?, takeToken?, takeParam?, takeFlag?, hflag, hkey, hblank]

lemma takeBare_append_colon (cs more : List Char) :
    takeBare (cs ++ ':' :: more) = ((takeBare cs).1, (takeBare cs).2 ++ ':' :: more) := by
  have hcolon : isBareChar ':' = false := by decide
  simp only [takeBare, takeWhile_append_stop hcolon, dropWhile_append_stop hcolon]

/-- A value ends before a colon unless it leaves a quote open. -/
lemma takeValue_append_colon {cs : List Char} (more : List Char)
    (hrest : ∀ q rest, isQuote q = true → (takeValue cs).2 ≠ q :: rest) :
    takeValue (cs ++ ':' :: more) = ((takeValue cs).1, (takeValue cs).2 ++ ':' :: more) := by
  cases cs with
  | nil =>
    have hcolon : isQuote ':' = false := by decide
    have hbare : isBareChar ':' = false := by decide
    simp [takeValue, takeBare, hcolon, hbare]
  | cons q cs =>
    rw [List.cons_append]
    by_cases hq : isQuote q = true
    · cases hclose : cs.dropWhile (· != q) with
      | nil =>
        -- the open quote is what is left
        have hbare : isBareChar q = false := by simp [isBareChar, hq]
        refine absurd ?_ (hrest q cs hq)
        simp [takeValue, hq, hclose, takeBare, hbare]
      | cons close rest =>
        obtain ⟨htake, hdrop⟩ := while_append_of_dropWhile hclose (':' :: more)
        simp [takeValue, hq, hclose, htake, hdrop]
    · simp only [takeValue, if_neg hq]
      exact takeBare_append_colon (q :: cs) more

lemma takeParam?_append_colon {cs rest : List Char} {token : Token} (more : List Char)
    (h : takeParam? cs = some (token, rest))
    (hrest : ∀ q tail, isQuote q = true → rest ≠ q :: tail) :
    takeParam? (cs ++ ':' :: more) = some (token, rest ++ ':' :: more) := by
  cases cs with
  | nil => simp [takeParam?] at h
  | cons c cs =>
    have hcolon : isKeyChar ':' = false := by decide
    simp only [takeParam?, List.cons_append, takeWhile_append_stop hcolon,
      dropWhile_append_stop hcolon] at h ⊢
    split at h
    · rename_i hkey
      rw [if_pos hkey]
      split at h
      · rename_i value heq
        obtain ⟨rfl, rfl⟩ := Prod.mk.inj (Option.some.inj h)
        rw [heq, List.cons_append]
        simp only [takeValue_append_colon more hrest]
      · simp at h
    · simp at h

lemma takeParam?_colon_none {cs : List Char} (more : List Char) (h : takeParam? cs = none) :
    takeParam? (cs ++ ':' :: more) = none := by
  cases cs with
  | nil =>
    have hcolon : isKeyStart ':' = false := by decide
    simp [takeParam?, hcolon]
  | cons c cs =>
    have hcolon : isKeyChar ':' = false := by decide
    simp only [takeParam?, List.cons_append, dropWhile_append_stop hcolon] at h ⊢
    split at h
    · rename_i hkey
      rw [if_pos hkey]
      split at h
      · simp at h
      · rename_i hne
        cases hd : cs.dropWhile isKeyChar with
        | nil => simp
        | cons d rest =>
          have hd' : d ≠ '=' := fun heq => hne rest (by rw [hd, heq])
          simp [hd']
    · rename_i hkey
      rw [if_neg hkey]

lemma takeFlag?_append_colon {cs rest : List Char} {token : Token} (more : List Char)
    (h : takeFlag? cs = some (token, rest)) :
    takeFlag? (cs ++ ':' :: more) = some (token, rest ++ ':' :: more) := by
  have hcolon : isFlagChar ':' = false := by decide
  simp only [takeFlag?, takeWhile_append_stop hcolon, dropWhile_append_stop hcolon] at h ⊢
  split at h
  · simp at h
  · obtain ⟨rfl, rfl⟩ := Prod.mk.inj (Option.some.inj h)
    simp_all

/-- A token of a header that can be read alone ends before a colon behind the header. -/
lemma takeToken?_append_colon {cs rest : List Char} {token : Token} (more : List Char)
    (h : takeToken? cs = some (token, rest))
    (hrest : ∀ q tail, isQuote q = true → rest ≠ q :: tail) :
    takeToken? (cs ++ ':' :: more) = some (token, rest ++ ':' :: more) := by
  cases cs with
  | nil => simp [takeToken?] at h
  | cons c cs =>
    simp only [takeToken?, List.cons_append] at h ⊢
    split at h
    · rename_i hblank
      obtain ⟨rfl, rfl⟩ := Prod.mk.inj (Option.some.inj h)
      rw [if_pos hblank]
    · rename_i hblank
      rw [if_neg hblank, ← List.cons_append]
      cases hparam : takeParam? (c :: cs) with
      | some found =>
        obtain ⟨rfl, rfl⟩ : found = (token, rest) := by simpa [hparam] using h
        rw [takeParam?_append_colon more hparam hrest]
      | none =>
        rw [hparam] at h
        rw [takeParam?_colon_none more hparam]
        exact takeFlag?_append_colon more h

theorem readTokens?_append_colon {fuel : Nat} {cs : List Char} {tokens : List Token}
    (more : List Char) (h : readTokens? fuel cs = some (tokens, none)) :
    readTokens? (fuel + 1) (cs ++ ':' :: more) = some (tokens, some more) := by
  induction fuel generalizing cs tokens with
  | zero =>
    cases cs with
    | nil =>
      obtain rfl : tokens = [] := by simpa [readTokens?] using h.symm
      rfl
    | cons c cs => simp [readTokens?] at h
  | succ fuel ih =>
    cases cs with
    | nil =>
      obtain rfl : tokens = [] := by simpa [readTokens?] using h.symm
      rfl
    | cons c cs =>
      by_cases hc : c = ':'
      · simp [readTokens?, hc] at h
      · rw [readTokens?, if_neg hc] at h
        cases htoken : takeToken? (c :: cs) with
        | none => simp [htoken] at h
        | some found =>
          obtain ⟨token, rest⟩ := found
          simp only [htoken, Option.map_eq_some_iff] at h
          obtain ⟨⟨tokens', body⟩, htail, hall⟩ := h
          obtain ⟨rfl, rfl⟩ := Prod.mk.inj hall
          have hrest : ∀ q tail, isQuote q = true → rest ≠ q :: tail := fun q tail hq heq => by
            rw [heq, readTokens?_quote hq] at htail
            simp at htail
          have hfirst := takeToken?_append_colon more htoken hrest
          rw [List.cons_append] at hfirst ⊢
          rw [readTokens?, if_neg hc, hfirst]
          simp [ih htail]

lemma readTokens?_mono {fuel fuel' : Nat} {cs : List Char}
    {result : List Token × Option (List Char)}
    (h : readTokens? fuel cs = some result) (hle : fuel ≤ fuel') :
    readTokens? fuel' cs = some result := by
  induction fuel generalizing cs result fuel' with
  | zero =>
    cases cs with
    | nil => simpa [readTokens?] using h
    | cons c cs => simp [readTokens?] at h
  | succ fuel ih =>
    cases cs with
    | nil => simpa [readTokens?] using h
    | cons c cs =>
      obtain ⟨fuel', rfl⟩ : ∃ k, fuel' = k + 1 := ⟨fuel' - 1, by omega⟩
      rw [readTokens?] at h ⊢
      split
      · simp_all
      · rename_i hc
        rw [if_neg hc] at h
        cases htoken : takeToken? (c :: cs) with
        | none => simp [htoken] at h
        | some found =>
          simp only [htoken, Option.map_eq_some_iff] at h ⊢
          obtain ⟨tail, htail, hresult⟩ := h
          exact ⟨tail, ih htail (by omega), hresult⟩

/-- A header that can be read alone keeps its parameters and flags when a body follows it. -/
theorem Header.read?_append_colon {cs : List Char} {params : Fields String} {flags : List String}
    (h : Header.read? cs = some ⟨params, flags, none⟩) (more : List Char) :
    Header.read? (cs ++ ':' :: more) = some ⟨params, flags, some (String.ofList more)⟩ := by
  simp only [Header.read?, tokens?, Option.map_eq_some_iff] at h ⊢
  obtain ⟨⟨tokens, body⟩, hread, hheader⟩ := h
  simp only [Header.mk.injEq, Option.map_eq_none_iff] at hheader
  obtain ⟨rfl, rfl, rfl⟩ := hheader
  have hlength : cs.length + 1 ≤ (cs ++ ':' :: more).length := by simp
  exact ⟨_, readTokens?_mono (readTokens?_append_colon more hread) hlength, rfl⟩

end Pinboard.Markup
