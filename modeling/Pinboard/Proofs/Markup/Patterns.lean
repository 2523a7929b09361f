import Mathlib.Tactic
import Pinboard.Markup.Header

/-!
# Parameters and flags as patterns

A parameter and a flag of a header can be described by a pattern each. A pattern may match in
several ways: it takes as much as it can at first and goes back where it cannot go on. Tokens are
taken without going back, and they are what the patterns match first.
-/
namespace Pinboard.Markup

/-- A pattern for the front of a text. -/
inductive Pattern where
  /-- One character of a class. -/
  | one (p : Char → Bool)
  /-- Any number of characters of a class, more of them being preferred. -/
  | many (p : Char → Bool)
  | seq (first second : Pattern)
  /-- Two alternatives, the first one being preferred. -/
  | alt (first second : Pattern)
  /-- A part whose text is kept. -/
  | group (inner : Pattern)

/-- The texts of the groups of a match and what follows it. -/
structure Match where
  groups : List (List Char)
  rest : List Char
  deriving DecidableEq, Repr

/-- What can follow characters of a class, fewest characters first. -/
def remainders (p : Char → Bool) : List Char → List (List Char)
  | [] => [[]]
  | c :: cs => if p c then remainders p cs ++ [c :: cs] else [c :: cs]

namespace Pattern

/-- All matches at the front of a text in the order in which they are preferred. -/
def ways : Pattern → List Char → List Match
  | .one _, [] => []
  | .one p, c :: cs => if p c then [⟨[], cs⟩] else []
  | .many p, cs => (remainders p cs).map (⟨[], ·⟩)
  | .seq first second, cs => (first.ways cs).flatMap fun m =>
      (second.ways m.rest).map fun n => ⟨m.groups ++ n.groups, n.rest⟩
  | .alt first second, cs => first.ways cs ++ second.ways cs
  | .group inner, cs => (inner.ways cs).map fun m =>
      ⟨cs.take (cs.length - m.rest.length) :: m.groups, m.rest⟩

def first? (pattern : Pattern) (cs : List Char) : Option Match := (pattern.ways cs).head?

/-- The least number of characters of a match. -/
def width : Pattern → Nat
  | .one _ => 1
  | .many _ => 0
  | .seq first second => first.width + second.width
  | .alt first second => min first.width second.width
  | .group inner => inner.width

end Pattern

/-- A text between two quotes. -/
def quotedPattern (q : Char) : Pattern :=
  .seq (.one (· == q)) (.seq (.group (.many (· != q))) (.one (· == q)))

/-- A value between double quotes, between single ones or without quotes. -/
def valuePattern : Pattern :=
  .alt (quotedPattern '"') (.alt (quotedPattern '\'') (.group (.many isBareChar)))

/-- A key, an equals sign and a value. -/
def paramPattern : Pattern :=
  .seq (.group (.seq (.one isKeyStart) (.many isKeyChar))) (.seq (.one (· == '=')) valuePattern)

def flagPattern : Pattern := .group (.seq (.one isFlagChar) (.many isFlagChar))

/-! ## Matches -/

lemma length_le_of_mem_remainders {p : Char → Bool} {cs rest : List Char}
    (h : rest ∈ remainders p cs) : rest.length ≤ cs.length := by
  induction cs with
  | nil => simp_all [remainders]
  | cons c cs ih =>
    rw [remainders] at h
    split at h
    · rcases List.mem_append.mp h with h | h
      · exact (ih h).trans (Nat.le_succ _)
      · rw [List.mem_singleton.mp h]
    · rw [List.mem_singleton.mp h]

lemma Pattern.width_le {pattern : Pattern} {cs : List Char} {m : Match}
    (h : m ∈ pattern.ways cs) : m.rest.length + pattern.width ≤ cs.length := by
  induction pattern generalizing cs m with
  | one p =>
    cases cs with
    | nil => simp [ways] at h
    | cons c cs =>
      obtain ⟨-, rfl⟩ : p c = true ∧ m = ⟨[], cs⟩ := by simpa [ways] using h
      simp [width]
  | many p =>
    obtain ⟨rest, hrest, rfl⟩ := List.mem_map.mp h
    exact length_le_of_mem_remainders hrest
  | seq first second ihf ihs =>
    obtain ⟨m₁, hfirst, hsecond⟩ := List.mem_flatMap.mp h
    obtain ⟨m₂, hrest, rfl⟩ := List.mem_map.mp hsecond
    have hf := ihf hfirst
    have hs := ihs hrest
    simp only [width]
    omega
  | alt first second ihf ihs =>
    rcases List.mem_append.mp h with h | h
    · have hf := ihf h
      simp only [width]
      omega
    · have hs := ihs h
      simp only [width]
      omega
  | group inner ih =>
    obtain ⟨inside, hinside, rfl⟩ := List.mem_map.mp h
    have hi := ih hinside
    simpa only [width] using hi

lemma Pattern.length_lt_of_first? {pattern : Pattern} {cs : List Char} {m : Match}
    (hwidth : 0 < pattern.width) (h : pattern.first? cs = some m) :
    m.rest.length < cs.length := by
  have hle := Pattern.width_le (List.mem_of_mem_head? h)
  omega

/-! ## What matches first -/

/-- The longest match of a class comes first, and behind all others another character of the class
follows. -/
lemma flatMap_remainders {β : Type} {p : Char → Bool} {f : List Char → List β}
    (h : ∀ c rest, p c = true → f (c :: rest) = []) (cs : List Char) :
    (remainders p cs).flatMap f = f (cs.dropWhile p) := by
  induction cs with
  | nil => simp [remainders]
  | cons c cs ih =>
    rw [remainders, List.dropWhile_cons]
    split
    · rename_i hc
      rw [List.flatMap_append, ih, List.flatMap_singleton, h c cs hc, List.append_nil]
    · rw [List.flatMap_singleton]

lemma head?_remainders (p : Char → Bool) (cs : List Char) :
    (remainders p cs).head? = some (cs.dropWhile p) := by
  induction cs with
  | nil => rfl
  | cons c cs ih =>
    rw [remainders, List.dropWhile_cons]
    split
    · rw [List.head?_append, ih, Option.some_or]
    · rfl

/-- The characters up to what remains. -/
lemma take_dropWhile (p : Char → Bool) (cs : List Char) :
    cs.take (cs.length - (cs.dropWhile p).length) = cs.takeWhile p := by
  have hlength := congrArg List.length (List.takeWhile_append_dropWhile (p := p) (l := cs))
  rw [List.length_append] at hlength
  have hcount : cs.length - (cs.dropWhile p).length = (cs.takeWhile p).length := by omega
  rw [hcount]
  exact List.prefix_iff_eq_take.mp (List.takeWhile_prefix p) |>.symm

lemma cons_take_dropWhile (p : Char → Bool) (c : Char) (cs : List Char) :
    (c :: cs).take ((c :: cs).length - (cs.dropWhile p).length) = c :: cs.takeWhile p := by
  have hle := (List.dropWhile_suffix p (l := cs)).length_le
  rw [List.length_cons, Nat.succ_sub hle, List.take_succ_cons, take_dropWhile]

open Pattern

section Classes

variable {p : Char → Bool} {after : Pattern}
  (h : ∀ c rest, p c = true → after.ways (c :: rest) = [])
include h

/-- A pattern that cannot begin within a class takes up where the longest match of it ends. -/
lemma ways_many_seq (cs : List Char) :
    (seq (group (many p)) after).ways cs =
      (after.ways (cs.dropWhile p)).map fun m => ⟨cs.takeWhile p :: m.groups, m.rest⟩ := by
  simp only [ways, List.map_map, List.flatMap_map, Function.comp_def]
  rw [flatMap_remainders fun c rest hc => by rw [h c rest hc, List.map_nil], take_dropWhile]
  rfl

/-- So it does behind a character of another class. -/
lemma ways_one_many_seq (start : Char → Bool) (c : Char) (cs : List Char) :
    (seq (group (seq (one start) (many p))) after).ways (c :: cs) =
      if start c then
        (after.ways (cs.dropWhile p)).map fun m => ⟨(c :: cs.takeWhile p) :: m.groups, m.rest⟩
      else [] := by
  simp only [ways]
  split
  · simp only [List.flatMap_singleton, List.map_map, List.flatMap_map, Function.comp_def]
    rw [flatMap_remainders fun d rest hd => by rw [h d rest hd, List.map_nil], cons_take_dropWhile]
    rfl
  · rfl

end Classes

/-- Where a run without quotes ends, a quote stands. -/
lemma eq_of_dropWhile_ne {q d : Char} {cs rest : List Char}
    (h : cs.dropWhile (· != q) = d :: rest) : d = q := by
  have hstop := List.head?_dropWhile_not (· != q) cs
  rw [h] at hstop
  simpa using hstop

/-- A text between quotes ends at the first quote that could close it, if there is one. -/
lemma ways_quotedPattern (q c : Char) (cs : List Char) :
    (quotedPattern q).ways (c :: cs) =
      if c = q then
        match cs.dropWhile (· != q) with
        | [] => []
        | _ :: rest => [⟨[cs.takeWhile (· != q)], rest⟩]
      else [] := by
  have hopen : ∀ d rest, (d != q) = true → (one (· == q)).ways (d :: rest) = [] := by
    intro d rest hd
    exact if_neg (by simpa using hd)
  by_cases hc : c = q
  · have hfirst : (one (· == q)).ways (c :: cs) = [⟨[], cs⟩] := if_pos (by simpa using hc)
    rw [quotedPattern, ways, hfirst, List.flatMap_singleton, ways_many_seq hopen, if_pos hc]
    cases hdrop : cs.dropWhile (· != q) with
    | nil => rfl
    | cons d rest =>
      have hclose : (one (· == q)).ways (d :: rest) = [⟨[], rest⟩] :=
        if_pos (by simpa using eq_of_dropWhile_ne hdrop)
      simp [hclose]
  · have hfirst : (one (· == q)).ways (c :: cs) = [] := if_neg (by simpa using hc)
    rw [quotedPattern, ways, hfirst, if_neg hc]
    rfl

lemma head?_ways_bare (cs : List Char) :
    ((group (many isBareChar)).ways cs).head? =
      some ⟨[(takeBare cs).1.content], (takeBare cs).2⟩ := by
  simp only [ways, List.map_map, List.head?_map, head?_remainders]
  simp [takeBare, Value.content, take_dropWhile]

lemma first?_alt (first second : Pattern) (cs : List Char) :
    (alt first second).first? cs = (first.first? cs).or (second.first? cs) := List.head?_append ..

/-- The value that is taken is the first that matches. -/
lemma first?_valuePattern (cs : List Char) :
    valuePattern.first? cs = some ⟨[(takeValue cs).1.content], (takeValue cs).2⟩ := by
  have hbare := head?_ways_bare cs
  rw [valuePattern, first?_alt, first?_alt]
  simp only [first?, hbare]
  cases cs with
  | nil => rfl
  | cons q cs =>
    rw [ways_quotedPattern, ways_quotedPattern, takeValue]
    by_cases hdouble : q = '"'
    · subst hdouble
      rw [if_pos rfl, if_neg (by decide), if_pos (by decide)]
      cases cs.dropWhile (· != '"') with
      | nil => rfl
      | cons d rest => rfl
    by_cases hsingle : q = '\''
    · subst hsingle
      rw [if_neg (by decide), if_pos rfl, if_pos (by decide)]
      cases cs.dropWhile (· != '\'') with
      | nil => rfl
      | cons d rest => rfl
    · have hquote : ¬isQuote q = true := by simp [isQuote, hdouble, hsingle]
      rw [if_neg hdouble, if_neg hsingle, if_neg hquote]
      rfl

/-- What the pattern of a token keeps of it. -/
def Token.groups : Token → List (List Char)
  | .blank _ => []
  | .param key value => [key, value.content]
  | .flag word => [word]

/-- The parameter that is taken is the first that matches. -/
lemma first?_paramPattern (cs : List Char) :
    paramPattern.first? cs = (takeParam? cs).map fun (token, rest) => ⟨token.groups, rest⟩ := by
  have hequals : ∀ d rest, isKeyChar d = true →
      (seq (one (· == '=')) valuePattern).ways (d :: rest) = [] := by
    intro d rest hd
    have hne : (d == '=') = false := by
      rw [beq_eq_false_iff_ne]
      rintro rfl
      exact absurd hd (by decide)
    simp [ways, hne]
  cases cs with
  | nil => rfl
  | cons c cs =>
    rw [first?, paramPattern, ways_one_many_seq hequals, takeParam?]
    split
    · cases hdrop : cs.dropWhile isKeyChar with
      | nil => rfl
      | cons d rest =>
        by_cases hd : d = '='
        · subst hd
          have hvalue := first?_valuePattern rest
          rw [first?] at hvalue
          simp [ways, hvalue, Token.groups]
        · simp [ways, hd]
    · rfl

/-- So is the flag. -/
lemma first?_flagPattern (cs : List Char) :
    flagPattern.first? cs = (takeFlag? cs).map fun (token, rest) => ⟨token.groups, rest⟩ := by
  cases cs with
  | nil => rfl
  | cons c cs =>
    rw [takeFlag?]
    by_cases hc : isFlagChar c = true
    · rw [List.takeWhile_cons_of_pos hc, List.dropWhile_cons_of_pos hc]
      simp only [first?, flagPattern, ways, if_pos hc, List.flatMap_singleton, List.map_map,
        List.head?_map, head?_remainders]
      simp [Token.groups, ← cons_take_dropWhile]
    · rw [List.takeWhile_cons_of_neg hc]
      simp [first?, flagPattern, ways, hc]

end Pinboard.Markup
