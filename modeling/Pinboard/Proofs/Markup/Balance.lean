import Mathlib.Tactic
import Pinboard.Markup.Occurrence

/-!
# The count of markers

An occurrence ends where the count of markers, begun at one behind its opening marker, first returns
to zero. The count is stated here over the pieces of a text, markers and single characters, and the
search for the closing marker is shown to follow it.
-/
namespace Pinboard.Markup

/-- A piece of a text as the count sees it. -/
inductive Mark where
  | opening
  | closing
  | other (c : Char)
  deriving DecidableEq, Repr

namespace Mark

/-- The number of characters of a piece. -/
def width : Mark → Nat
  | .opening => 2
  | .closing => 2
  | .other _ => 1

/-- What a piece adds to the depth. -/
def weight : Mark → Int
  | .opening => 1
  | .closing => -1
  | .other _ => 0

end Mark

/-- The pieces of a text from left to right, two braces of a kind being taken together. -/
def marks : List Char → List Mark
  | '\x7b' :: '\x7b' :: rest => .opening :: marks rest
  | '\x7d' :: '\x7d' :: rest => .closing :: marks rest
  | c :: rest => .other c :: marks rest
  | [] => []

def depthAfter (depth : Int) (ms : List Mark) : Int := depth + (ms.map Mark.weight).sum

/-- The count over some pieces, begun at a depth, is zero for the first time after the closing
marker that stands behind `n` characters. -/
def Returns (depth : Int) (ms : List Mark) (n : Nat) : Prop :=
  ∃ before after, ms = before ++ .closing :: after ∧ (before.map Mark.width).sum = n ∧
    depthAfter depth (before ++ [.closing]) = 0 ∧
    ∀ front, front <+: before → depthAfter depth front ≠ 0

@[simp] lemma depthAfter_nil (depth : Int) : depthAfter depth [] = depth := by
  simp [depthAfter]

@[simp] lemma depthAfter_cons (depth : Int) (m : Mark) (ms : List Mark) :
    depthAfter depth (m :: ms) = depthAfter (depth + m.weight) ms := by
  simp [depthAfter, add_assoc]

@[simp] lemma not_returns_nil (depth : Int) (n : Nat) : ¬Returns depth [] n := by
  rintro ⟨before, after, h, -⟩
  simp at h

/-- The count either ends with its first piece or goes on behind it. -/
lemma returns_cons_iff {depth : Int} {m : Mark} {ms : List Mark} {n : Nat} :
    Returns depth (m :: ms) n ↔
      depth ≠ 0 ∧ ((m = .closing ∧ depth = 1 ∧ n = 0) ∨
        ∃ k, n = k + m.width ∧ Returns (depth + m.weight) ms k) := by
  constructor
  · rintro ⟨before, after, hms, hn, hzero, hfront⟩
    refine ⟨by simpa using hfront [] (List.nil_prefix), ?_⟩
    cases before with
    | nil =>
      obtain ⟨rfl, -⟩ : m = .closing ∧ ms = after := by simpa using hms
      simp only [List.nil_append, depthAfter_cons, Mark.weight, depthAfter_nil] at hzero
      exact .inl ⟨rfl, by omega, by simpa using hn.symm⟩
    | cons b before =>
      obtain ⟨rfl, rfl⟩ : m = b ∧ ms = before ++ .closing :: after := by simpa using hms
      refine .inr ⟨(before.map Mark.width).sum, ?_, before, after, rfl, rfl, ?_, ?_⟩
      · simp only [List.map_cons, List.sum_cons] at hn
        omega
      · simpa using hzero
      · intro front hf
        simpa using hfront (m :: front) (by simpa using hf)
  · rintro ⟨hd, ⟨rfl, rfl, rfl⟩ | ⟨k, rfl, before, after, rfl, rfl, hzero, hfront⟩⟩
    · refine ⟨[], ms, rfl, rfl, by simp [Mark.weight], ?_⟩
      intro front hf
      rw [List.prefix_nil.mp hf]
      simp
    · refine ⟨m :: before, after, rfl, by simp [add_comm], by simpa using hzero, ?_⟩
      intro front hf
      cases front with
      | nil => simpa using hd
      | cons b front =>
        obtain ⟨rfl, hin⟩ : b = m ∧ front <+: before := by simpa using hf
        simpa using hfront front hin

/-- A character that begins no marker is a piece of its own. -/
lemma marks_cons {c : Char} {rest : List Char}
    (ho : ∀ r, c = '\x7b' → rest = '\x7b' :: r → False)
    (hc : ∀ r, c = '\x7d' → rest = '\x7d' :: r → False) :
    marks (c :: rest) = .other c :: marks rest :=
  marks.eq_3 c rest ho hc

lemma not_returns_zero (ms : List Mark) (n : Nat) : ¬Returns 0 ms n := by
  rintro ⟨before, after, -, -, -, hfront⟩
  exact hfront [] List.nil_prefix (by simp)

/-- The search finds the closing marker with which the count returns to zero. -/
theorem closeAt?_eq_some_iff {depth : Nat} (hd : 1 ≤ depth) {cs : List Char} {n : Nat} :
    closeAt? depth cs = some n ↔ Returns depth (marks cs) n := by
  have hne : (depth : Int) ≠ 0 := by omega
  fun_induction closeAt? depth cs generalizing n with
  | case1 depth rest ih =>
    have hcast : ((depth + 1 : Nat) : Int) = depth + 1 := by omega
    simp only [Option.map_eq_some_iff, ih (by omega) (by omega), hcast, marks, returns_cons_iff,
      Mark.width, Mark.weight, reduceCtorEq, false_and, false_or]
    grind
  | case2 depth rest h =>
    obtain rfl : depth = 1 := by omega
    have hzero := not_returns_zero (marks rest)
    simp only [marks, returns_cons_iff, Mark.weight]
    grind
  | case3 depth rest h ih =>
    have hcast : ((depth - 1 : Nat) : Int) = depth + -1 := by omega
    have hone : (depth : Int) ≠ 1 := by omega
    simp only [Option.map_eq_some_iff, ih (by omega) (by omega), hcast, marks, returns_cons_iff,
      Mark.width, Mark.weight, hone, false_and, and_false, false_or]
    grind
  | case4 depth c rest ho hc ih =>
    simp only [Option.map_eq_some_iff, ih hd hne, marks_cons ho hc, returns_cons_iff, Mark.width,
      Mark.weight, reduceCtorEq, false_and, false_or, add_zero]
    grind
  | case5 depth => simp [marks]

lemma exists_cons_of_take {cs rest : List Char} {limit : Nat} {c : Char}
    (h : cs.take limit = c :: rest) : ∃ tail, cs = c :: tail := by
  cases cs with
  | nil => simp at h
  | cons d tail =>
    cases limit with
    | zero => simp at h
    | succ limit =>
      obtain ⟨rfl, -⟩ : d = c ∧ tail.take limit = rest := by simpa using h
      exact ⟨tail, rfl⟩

/-- A closing marker of a region is one of the text that ends within the region. -/
theorem closeAt?_take {depth limit : Nat} {cs : List Char} {n : Nat} :
    closeAt? depth (cs.take limit) = some n ↔ closeAt? depth cs = some n ∧ n + 2 ≤ limit := by
  fun_induction closeAt? depth cs generalizing limit n with
  | case1 depth rest ih =>
    match limit with
    | 0 => simp [closeAt?]
    | 1 => simp [closeAt?]
    | limit + 2 =>
      simp only [List.take_succ_cons, closeAt?, Option.map_eq_some_iff, ih]
      grind
  | case2 depth rest h =>
    match limit with
    | 0 => simp [closeAt?]
    | 1 => simp [closeAt?]
    | limit + 2 =>
      simp only [List.take_succ_cons, closeAt?, if_pos h]
      grind
  | case3 depth rest h ih =>
    match limit with
    | 0 => simp [closeAt?]
    | 1 => simp [closeAt?]
    | limit + 2 =>
      simp only [List.take_succ_cons, closeAt?, if_neg h, Option.map_eq_some_iff, ih]
      grind
  | case4 depth c rest ho hc ih =>
    match limit with
    | 0 => simp [closeAt?]
    | limit + 1 =>
      have ho' : ∀ r, c = '\x7b' → rest.take limit = '\x7b' :: r → False := fun r hb hr =>
        (exists_cons_of_take hr).elim fun tail => ho tail hb
      have hc' : ∀ r, c = '\x7d' → rest.take limit = '\x7d' :: r → False := fun r hb hr =>
        (exists_cons_of_take hr).elim fun tail => hc tail hb
      rw [List.take_succ_cons, closeAt?.eq_3 depth c _ ho' hc']
      simp only [Option.map_eq_some_iff, ih]
      grind
  | case5 depth => simp [closeAt?]

/-- A closing marker stands where the search ends. -/
lemma closeAt?_closing {depth n : Nat} {cs : List Char} (h : closeAt? depth cs = some n) :
    ∃ rest, cs.drop n = '\x7d' :: '\x7d' :: rest := by
  fun_induction closeAt? depth cs generalizing n with
  | case1 depth rest ih | case3 depth rest _ ih | case4 depth c rest _ _ ih =>
    obtain ⟨n, hn, rfl⟩ := Option.map_eq_some_iff.mp h
    simpa using ih hn
  | case2 depth rest hd =>
    obtain rfl : 0 = n := by simpa using h
    exact ⟨rest, rfl⟩
  | case5 depth => simp at h

/-- The closing marker stands inside the text. -/
lemma closeAt?_le {depth n : Nat} {cs : List Char} (h : closeAt? depth cs = some n) :
    n + 2 ≤ cs.length := by
  have htake : closeAt? depth (cs.take cs.length) = some n := by rwa [List.take_length]
  exact (closeAt?_take.mp htake).2

end Pinboard.Markup
