import Pinboard.Proofs.Markup.Scanning

/-!
# Nested occurrences

Two occurrences whose spellings do not begin with a brace never overlap: either one ends before the
other starts, or one lies between the markers of the other. So a search that goes on behind each
occurrence it finds meets all innermost occurrences or, if it does not look inwards, all outermost
ones, and no others.
-/
namespace Pinboard.Markup

/-- A count that began deeper returns to zero later, by a marker at least. -/
lemma closeAt?_lt_of_depth {depth depth' m n : Nat} {cs : List Char} (hdepth : 1 ≤ depth)
    (hlt : depth < depth') (hm : closeAt? depth cs = some m) (hn : closeAt? depth' cs = some n) :
    m + 2 ≤ n := by
  fun_induction closeAt? depth cs generalizing depth' m n with
  | case1 depth rest ih =>
    simp only [closeAt?, Option.map_eq_some_iff] at hm hn
    obtain ⟨m, hm, rfl⟩ := hm
    obtain ⟨n, hn, rfl⟩ := hn
    have := ih (by omega) (show depth + 1 < depth' + 1 by omega) hm hn
    omega
  | case2 depth rest h =>
    rw [closeAt?, if_neg (by omega), Option.map_eq_some_iff] at hn
    obtain ⟨n, hn, rfl⟩ := hn
    simp only [Option.some.injEq] at hm
    omega
  | case3 depth rest h ih =>
    rw [closeAt?, if_neg (by omega)] at hn
    simp only [Option.map_eq_some_iff] at hm hn
    obtain ⟨m, hm, rfl⟩ := hm
    obtain ⟨n, hn, rfl⟩ := hn
    have := ih (by omega) (show depth - 1 < depth' - 1 by omega) hm hn
    omega
  | case4 depth c rest ho hc ih =>
    rw [closeAt?.eq_3 depth' c rest ho hc] at hn
    simp only [Option.map_eq_some_iff] at hm hn
    obtain ⟨m, hm, rfl⟩ := hm
    obtain ⟨n, hn, rfl⟩ := hn
    have := ih hdepth hlt hm hn
    omega
  | case5 depth => simp at hm

/-- A count begun behind an opening marker inside the span of another count returns to zero inside
that span. A third brace may not follow the marker, since the outer count would pair the braces
differently. -/
lemma closeAt?_nested {depth n k n' : Nat} {cs rest : List Char} (hdepth : 1 ≤ depth)
    (hn : closeAt? depth cs = some n) (hk : k + 2 ≤ n)
    (hopen : cs.drop k = '\x7b' :: '\x7b' :: rest) (hthird : ∀ r, rest ≠ '\x7b' :: r)
    (hn' : closeAt? 1 rest = some n') : k + n' + 4 ≤ n := by
  fun_induction closeAt? depth cs generalizing k n with
  | case1 depth tail ih =>
    simp only [Option.map_eq_some_iff] at hn
    obtain ⟨n, hn, rfl⟩ := hn
    rcases k with _ | _ | k
    · obtain rfl : tail = rest := by simpa using hopen
      have := closeAt?_lt_of_depth le_rfl (show 1 < depth + 1 by omega) hn' hn
      omega
    · obtain rfl : tail = '\x7b' :: rest := by simpa using hopen
      rw [closeAt?.eq_3 _ _ _ (fun r _ hr => hthird r hr) (by simp),
        Option.map_eq_some_iff] at hn
      obtain ⟨n, hn, rfl⟩ := hn
      have := closeAt?_lt_of_depth le_rfl (show 1 < depth + 1 by omega) hn' hn
      omega
    · have := ih (by omega) hn (show k + 2 ≤ n by omega) (by simpa using hopen)
      omega
  | case2 depth tail h =>
    simp only [Option.some.injEq] at hn
    omega
  | case3 depth tail h ih =>
    simp only [Option.map_eq_some_iff] at hn
    obtain ⟨n, hn, rfl⟩ := hn
    rcases k with _ | _ | k
    · simp at hopen
    · simp at hopen
    · have := ih (by omega) hn (show k + 2 ≤ n by omega) (by simpa using hopen)
      omega
  | case4 depth c tail ho hc ih =>
    simp only [Option.map_eq_some_iff] at hn
    obtain ⟨n, hn, rfl⟩ := hn
    cases k with
    | zero =>
      obtain ⟨rfl, rfl⟩ : c = '\x7b' ∧ tail = '\x7b' :: rest := by simpa using hopen
      exact absurd rfl (ho rest rfl)
    | succ k =>
      have := ih hdepth hn (show k + 2 ≤ n by omega) (by simpa using hopen)
      omega
  | case5 depth => simp at hn

/-- A spelling that does not begin with an opening brace. -/
def Unbraced (spelling : String) : Prop := spelling.toList.head? ≠ some '\x7b'

instance : DecidablePred Unbraced := fun _ => inferInstanceAs (Decidable (_ ≠ _))

lemma IsPlain.unbraced {spelling : String} (h : IsPlain spelling) : Unbraced spelling :=
  fun hhead => (h _ (List.mem_of_mem_head? hhead)).2.2.1 rfl

/-- What follows on an opening marker does not begin with a third brace. -/
lemma SpelledAt.no_brace {spellings : List String} {cs : List Char} {name : String}
    (h : SpelledAt spellings cs name) (hname : Unbraced name) (rest : List Char) :
    cs ≠ '\x7b' :: rest := by
  rintro rfl
  obtain ⟨more, hmore⟩ := h.front
  have hends := h.ends
  cases hchars : name.toList with
  | nil =>
    have hzero : name.length = 0 := by rw [← String.length_toList, hchars, List.length_nil]
    rw [hzero, List.drop_zero] at hends
    rcases hends with ⟨c, tail, hcs, hc⟩ | ⟨tail, hcs⟩
    · obtain ⟨rfl, -⟩ := List.cons.inj hcs
      revert hc
      decide
    · simp at hcs
  | cons c name' =>
    rw [hchars] at hmore
    obtain ⟨rfl, -⟩ := List.cons.inj hmore
    exact hname (by rw [hchars, List.head?_cons])

section Span

variable {spellings : List String} {text : List Char} {last last' : Nat} {m m' : Occurrence}

lemma OccursIn.closing (h : OccursIn spellings text last m) :
    ∃ rest, text.drop (m.stop - 2) = '\x7d' :: '\x7d' :: rest := by
  obtain ⟨n, hn, hstop⟩ := h.closed
  obtain ⟨rest, hrest⟩ := closeAt?_closing ((closeAt?_eq_some_iff le_rfl).mpr hn)
  rw [List.drop_drop] at hrest
  exact ⟨rest, by rw [← hrest, hstop]; congr 1; omega⟩

/-- An opening marker inside a span stands behind the outer opening marker and ends before the outer
closing one. -/
lemma OccursIn.start_inside (hs : ∀ s ∈ spellings, Unbraced s) (h : OccursIn spellings text last m)
    (h' : OccursIn spellings text last' m') (hstart : m.start < m'.start)
    (hstop : m'.start < m.stop) : m.start + 2 ≤ m'.start ∧ m'.start + 4 ≤ m.stop := by
  have hfour := h.start_add_four_le
  obtain ⟨rest, hopen⟩ := h'.opened
  obtain ⟨tail, hclose⟩ := h.closing
  have hsecond : text.drop (m'.start + 1) = '\x7b' :: rest := by
    rw [← List.drop_drop, hopen]
    rfl
  constructor
  · by_contra hlt
    have hnext : m'.start + 1 = m.start + 2 := by omega
    rw [hnext] at hsecond
    exact h.spelled.no_brace (hs _ h.spelled.mem) rest hsecond
  · by_contra hlt
    obtain hthree | htwo | hone : m'.start + 1 = m.stop - 2 ∨ m'.start = m.stop - 2 ∨
        m'.start = m.stop - 2 + 1 := by omega
    · simp [hthree, hclose] at hsecond
    · simp [htwo, hclose] at hopen
    · rw [hone, ← List.drop_drop, hclose] at hopen
      simp at hopen

/-- Occurrences that share a character lie one between the markers of the other. -/
theorem OccursIn.nested (hs : ∀ s ∈ spellings, Unbraced s) (h : OccursIn spellings text last m)
    (h' : OccursIn spellings text last' m') (hstart : m.start < m'.start)
    (hstop : m'.start < m.stop) : m.start + 2 ≤ m'.start ∧ m'.stop + 2 ≤ m.stop := by
  obtain ⟨hbehind, hbefore⟩ := h.start_inside hs h' hstart hstop
  refine ⟨hbehind, ?_⟩
  obtain ⟨n, hn, hn_stop⟩ := h.closed
  obtain ⟨n', hn', hn'_stop⟩ := h'.closed
  obtain ⟨rest, hopen⟩ := h'.opened
  have hrest : text.drop (m'.start + 2) = rest := by rw [← List.drop_drop, hopen]; rfl
  have hinner : (text.drop (m.start + 2)).drop (m'.start - m.start - 2) =
      '\x7b' :: '\x7b' :: rest := by
    rw [List.drop_drop, ← hopen]
    congr 1
    omega
  have hthird : ∀ r, rest ≠ '\x7b' :: r := fun r =>
    hrest ▸ h'.spelled.no_brace (hs _ h'.spelled.mem) r
  rw [hrest] at hn'
  have := closeAt?_nested le_rfl ((closeAt?_eq_some_iff le_rfl).mpr hn) (by omega) hinner hthird
    ((closeAt?_eq_some_iff le_rfl).mpr hn')
  omega

end Span

/-! ## Successive searches -/

/-- What searches from a position on meet, each going on behind the occurrence found before. -/
inductive Meets (innermost : Bool) (spellings : List String) (text : List Char) :
    Nat → Occurrence → Prop
  | next {position : Nat} {m : Occurrence}
      (hfind : find? spellings innermost position text = some m) :
      Meets innermost spellings text position m
  | behind {position : Nat} {first m : Occurrence}
      (hfind : find? spellings innermost position text = some first)
      (rest : Meets innermost spellings text first.stop m) :
      Meets innermost spellings text position m

/-- No occurrence lies around this one. -/
def IsOutermost (occurs : Occurrence → Prop) (m : Occurrence) : Prop :=
  ∀ outer, occurs outer → outer.start + 2 ≤ m.start → outer.stop < m.stop + 2

/-- The occurrences that searches of a kind can give. -/
def IsExposed (innermost : Bool) (spellings : List String) (text : List Char) (m : Occurrence) :
    Prop :=
  if innermost then IsInnermost (Reads spellings text) m
  else IsOutermost (Reads spellings text text.length) m

/-- No occurrence reaches across a position. -/
def IsClear (spellings : List String) (text : List Char) (position : Nat) : Prop :=
  ∀ m, Reads spellings text text.length m → m.start < position → m.stop ≤ position

section Search

variable {spellings : List String} {innermost : Bool} {position : Nat} {text : List Char}
  {m m' : Occurrence}

lemma Meets.reads (h : Meets innermost spellings text position m) :
    Reads spellings text text.length m := by
  induction h with
  | next hfind => exact (find?_reads hfind).1
  | behind _ _ ih => exact ih

variable (hs : ∀ s ∈ spellings, Unbraced s)
include hs

/-- An innermost occurrence does not start on the way along a chain. -/
lemma not_isInnermost_of_chain {outer : Occurrence} (hm' : Reads spellings text text.length m')
    (houter : Reads spellings text text.length outer)
    (hchain : Relation.ReflTransGen (Inside (Reads spellings text)) outer m)
    (hfrom : outer.start ≤ m'.start) (hto : m'.start < m.start) :
    ¬IsInnermost (Reads spellings text) m' := by
  induction hchain using Relation.ReflTransGen.head_induction_on with
  | refl => omega
  | @head outer next hnext hrest ih =>
    obtain ⟨hread, hbehind, hleast⟩ := hnext
    have hfour := hread.1.start_add_four_le
    have hwithin := hread.1.within
    by_cases hle : next.start ≤ m'.start
    · exact ih (hread.within hread.1.stop_le) hle
    · by_cases hsame : outer.start = m'.start
      · obtain rfl := houter.eq_of_start hm' hsame
        intro hinner
        have := hinner next hread
        omega
      · obtain ⟨hlo, hhi⟩ := houter.1.nested hs hm'.1 (by omega) (by omega)
        have := hleast m' (hm'.within (by omega)) hlo
        omega

/-- A search passes over no exposed occurrence. -/
lemma find?_exposed_le (h : find? spellings innermost position text = some m)
    (hm' : Reads spellings text text.length m') (hexposed : IsExposed innermost spellings text m')
    (hle : position ≤ m'.start) : m' = m ∨ m.stop ≤ m'.start := by
  have hm := (find?_reads h).1
  rw [or_iff_not_imp_right]
  intro hlt
  rcases Nat.lt_trichotomy m'.start m.start with hbefore | hsame | hbehind
  · cases innermost with
    | false =>
      obtain ⟨-, -, hleast⟩ := find?_false_iff.mp h
      have := hleast m' hm' hle
      omega
    | true =>
      obtain ⟨outer, ⟨houter, -, hleast⟩, hchain, -⟩ := find?_true_iff.mp h
      exact absurd hexposed
        (not_isInnermost_of_chain hs hm' houter hchain (hleast m' hm' hle) hbefore)
  · exact hm'.eq_of_start hm hsame
  · obtain ⟨hlo, hhi⟩ := hm.1.nested hs hm'.1 hbehind (by omega)
    cases innermost with
    | false =>
      have := hexposed m hm hlo
      omega
    | true =>
      obtain ⟨outer, -, -, hinner⟩ := find?_true_iff.mp h
      have := hinner m' (hm'.within (by omega))
      omega

omit hs in
/-- What a search gives is exposed, if a search for outermost occurrences begins inside none. -/
lemma find?_isExposed (hclear : innermost = false → IsClear spellings text position)
    (h : find? spellings innermost position text = some m) :
    IsExposed innermost spellings text m := by
  cases innermost with
  | true =>
    obtain ⟨outer, -, -, hinner⟩ := find?_true_iff.mp h
    exact hinner
  | false =>
    obtain ⟨hm, hle, hleast⟩ := find?_false_iff.mp h
    intro outer houter hlo
    by_cases hbefore : outer.start < position
    · have := hclear rfl outer houter hbefore
      have := hm.1.start_add_four_le
      omega
    · have := hleast outer houter (by omega)
      omega

lemma find?_isClear (hclear : IsClear spellings text position)
    (h : find? spellings false position text = some m) : IsClear spellings text m.stop := by
  obtain ⟨hm, hle, hleast⟩ := find?_false_iff.mp h
  have hfour := hm.1.start_add_four_le
  intro m' hm' hlt
  by_cases hbefore : m'.start < position
  · have := hclear m' hm' hbefore
    omega
  · rcases (hleast m' hm' (by omega)).eq_or_lt with hsame | hbehind
    · rw [hm.eq_of_start hm' hsame]
    · have := hm.1.nested hs hm'.1 hbehind hlt
      omega

lemma Meets.isExposed (h : Meets innermost spellings text position m)
    (hclear : innermost = false → IsClear spellings text position) :
    IsExposed innermost spellings text m := by
  induction h with
  | next hfind => exact find?_isExposed hclear hfind
  | behind hfind _ ih =>
    refine ih fun hout => ?_
    subst hout
    exact find?_isClear hs (hclear rfl) hfind

/-- Searches meet each exposed occurrence before them. -/
lemma meets_of_isExposed (hm : Reads spellings text text.length m)
    (hexposed : IsExposed innermost spellings text m) {position : Nat} (hle : position ≤ m.start) :
    Meets innermost spellings text position m := by
  cases hfind : find? spellings innermost position text with
  | none =>
    have := find?_none_iff.mp hfind m hm
    omega
  | some first =>
    rcases find?_exposed_le hs hfind hm hexposed hle with rfl | hbehind
    · exact .next hfind
    · have hfurther := find?_bounds hfind
      exact .behind hfind (meets_of_isExposed hm hexposed hbehind)
termination_by m.start - position

/-- Searches of a whole text meet the exposed occurrences and no others. -/
theorem meets_iff :
    Meets innermost spellings text 0 m ↔
      Reads spellings text text.length m ∧ IsExposed innermost spellings text m := by
  refine ⟨fun h => ⟨h.reads, h.isExposed hs fun _ => ?_⟩,
    fun h => meets_of_isExposed hs h.1 h.2 (Nat.zero_le _)⟩
  exact fun _ _ hlt => absurd hlt (Nat.not_lt_zero _)

end Search

lemma hasMarker_of_drop {text : List Char} {i : Nat} {rest : List Char}
    (h : text.drop i = '\x7b' :: '\x7b' :: rest) : hasMarker text = true := by
  fun_induction hasMarker text generalizing i with
  | case1 tail => rfl
  | case2 c cs hno ih =>
    cases i with
    | zero =>
      obtain ⟨rfl, rfl⟩ : c = '\x7b' ∧ cs = '\x7b' :: rest := by simpa using h
      exact absurd rfl (hno rest rfl)
    | succ i => exact ih (by simpa using h)
  | case3 => simp at h

lemma OccursIn.hasMarker {spellings : List String} {text : List Char} {last : Nat} {m : Occurrence}
    (h : OccursIn spellings text last m) : hasMarker text = true := by
  obtain ⟨rest, hrest⟩ := h.opened
  exact hasMarker_of_drop hrest

/-- Nothing is found in a text without markers. -/
lemma find?_unmarked {spellings : List String} {innermost : Bool} {start : Nat}
    {text : List Char} (h : hasMarker text = false) :
    find? spellings innermost start text = none := by
  rw [Option.eq_none_iff_forall_ne_some]
  intro m hm
  have hmarked := (find?_reads hm).1.1.hasMarker
  simp [h] at hmarked

end Pinboard.Markup
