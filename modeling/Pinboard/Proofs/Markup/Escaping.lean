import Pinboard.Markup.Escape
import Pinboard.Proofs.Markup.Nesting

/-!
# Escaped data inside a text

Escaped data has no opening marker, so none lies inside it wherever it is put. Escaping looks at the
data alone, though. A single brace at one of its ends stays, and makes an opening marker together
with a brace of the text around it. These two seams are the only places where an occurrence can open
on a character of the data.
-/
namespace Pinboard

open Markup

/-! ## Pairs that are replaced -/

namespace Text

variable {x y : Char} {replacement : List Char}

lemma replacePair_cons {c : Char} (h : c ≠ x) (cs : List Char) :
    replacePair x y replacement (c :: cs) = c :: replacePair x y replacement cs := by
  cases cs with
  | nil => rfl
  | cons d rest => rw [replacePair, if_neg fun hpair => h hpair.1]

/-- A character that is not the second of the pair parts the text. -/
lemma replacePair_append_cons {c : Char} (h : c ≠ y) (cs rest : List Char) :
    replacePair x y replacement (cs ++ c :: rest) =
      replacePair x y replacement cs ++ replacePair x y replacement (c :: rest) := by
  fun_induction replacePair x y replacement cs with
  | case1 => rfl
  | case2 d => rw [List.singleton_append, replacePair, if_neg fun hpair => h hpair.2]; rfl
  | case3 d e more hpair ih =>
    rw [List.cons_append, List.cons_append, replacePair, if_pos hpair, ih, List.append_assoc]
  | case4 d e more hpair ih =>
    rw [List.cons_append, List.cons_append, replacePair, if_neg hpair, ← List.cons_append, ih,
      List.cons_append]

lemma replacePair_concat {c : Char} (h : c ≠ y) (cs : List Char) :
    replacePair x y replacement (cs ++ [c]) = replacePair x y replacement cs ++ [c] :=
  replacePair_append_cons h cs []

lemma replacePair_append_of_notMem {cs : List Char} (h : x ∉ cs) (rest : List Char) :
    replacePair x y replacement (cs ++ rest) = cs ++ replacePair x y replacement rest := by
  induction cs with
  | nil => rfl
  | cons c cs ih =>
    obtain ⟨hc, hcs⟩ := List.ne_and_not_mem_of_not_mem_cons h
    rw [List.cons_append, replacePair_cons hc.symm, ih hcs, List.cons_append]

/-- Nothing is replaced where the pair is not. -/
lemma replacePair_eq_self {cs : List Char} (h : ¬[x, y] <:+: cs) :
    replacePair x y replacement cs = cs := by
  fun_induction replacePair x y replacement cs with
  | case1 => rfl
  | case2 c => rfl
  | case3 c d rest hpair ih =>
    obtain ⟨rfl, rfl⟩ := hpair
    exact absurd (List.prefix_append [c, d] rest).isInfix h
  | case4 c d rest hpair ih =>
    rw [ih fun hrest => h (hrest.trans (List.suffix_cons c _).isInfix)]

variable (hne : replacement ≠ [])
include hne

lemma replacePair_ne_nil {cs : List Char} (h : cs ≠ []) :
    replacePair x y replacement cs ≠ [] := by
  fun_cases replacePair x y replacement cs with
  | case1 => exact h
  | case2 c => exact h
  | case3 c d rest hpair => exact List.append_ne_nil_of_left_ne_nil hne _
  | case4 c d rest hpair => exact List.cons_ne_nil _ _

/-- The first character stays unless a pair begins there. -/
lemma head?_replacePair (cs : List Char) :
    (replacePair x y replacement cs).head? = cs.head? ∨
      (replacePair x y replacement cs).head? = replacement.head? := by
  fun_cases replacePair x y replacement cs with
  | case1 => exact .inl rfl
  | case2 c => exact .inl rfl
  | case3 c d rest hpair => exact .inr (List.head?_append_of_ne_nil _ hne)
  | case4 c d rest hpair => exact .inl rfl

/-- The last character stays unless a pair ends there. -/
lemma getLast?_replacePair (cs : List Char) :
    (replacePair x y replacement cs).getLast? = cs.getLast? ∨
      (replacePair x y replacement cs).getLast? = replacement.getLast? := by
  fun_induction replacePair x y replacement cs with
  | case1 => exact .inl rfl
  | case2 c => exact .inl rfl
  | case3 c d rest hpair ih =>
    rcases eq_or_ne rest [] with rfl | hrest
    · exact .inr (by rw [replacePair, List.append_nil])
    · rw [List.getLast?_append_of_ne_nil _ (replacePair_ne_nil hne hrest)]
      simpa [List.getLast?_cons_of_ne_nil, hrest] using ih
  | case4 c d rest hpair ih =>
    have hkept : replacePair x y replacement (d :: rest) ≠ [] :=
      replacePair_ne_nil hne (List.cons_ne_nil _ _)
    simpa [List.getLast?_cons_of_ne_nil, hkept] using ih

omit hne in
lemma pair_infix_cons {z c : Char} {cs : List Char} :
    [z, z] <:+: c :: cs ↔ c = z ∧ cs.head? = some z ∨ [z, z] <:+: cs := by
  have hfront : [z, z] <+: c :: cs ↔ c = z ∧ cs.head? = some z := by
    rw [List.cons_prefix_cons, eq_comm]
    refine and_congr_right fun _ => ?_
    cases cs with
    | nil => simp
    | cons d cs => simp [List.cons_prefix_cons, eq_comm (a := z)]
  rw [List.infix_cons_iff, hfront]

omit hne in
lemma not_pair_infix_append {z : Char} {cs rest : List Char} (h : z ∉ cs)
    (hrest : ¬[z, z] <:+: rest) : ¬[z, z] <:+: cs ++ rest := by
  induction cs with
  | nil => exact hrest
  | cons c cs ih =>
    obtain ⟨hc, hcs⟩ := List.ne_and_not_mem_of_not_mem_cons h
    rw [List.cons_append, pair_infix_cons, not_or]
    exact ⟨fun hpair => hc hpair.1.symm, ih hcs⟩

/-- Replaced pairs leave no doubled character if there was none or the pairs are just those. -/
lemma not_pair_infix_replacePair {z : Char} (hfree : z ∉ replacement) {cs : List Char}
    (h : ¬[z, z] <:+: cs ∨ x = z ∧ y = z) : ¬[z, z] <:+: replacePair x y replacement cs := by
  fun_induction replacePair x y replacement cs with
  | case1 => simp
  | case2 c => exact fun hpair => absurd hpair.length_le (by simp)
  | case3 c d rest hpair ih =>
    refine not_pair_infix_append hfree (ih (h.imp_left fun h hrest => h ?_))
    exact hrest.trans ((List.suffix_cons d rest).trans (List.suffix_cons c _)).isInfix
  | case4 c d rest hpair ih =>
    have hrest := ih (h.imp_left fun h hrest => h (hrest.trans (List.suffix_cons c _).isInfix))
    rw [pair_infix_cons, not_or]
    refine ⟨?_, hrest⟩
    rintro ⟨rfl, hhead⟩
    rcases head?_replacePair hne (d :: rest) with hkept | hnew
    · obtain rfl : d = c := Option.some.inj (hkept.symm.trans hhead)
      rcases h with h | ⟨rfl, rfl⟩
      · exact h (List.prefix_append [d, d] rest).isInfix
      · exact hpair ⟨rfl, rfl⟩
    · exact hfree (List.mem_of_mem_head? (hnew.symm.trans hhead))

end Text

namespace Markup

/-- A marker begins at the front or behind the front. -/
lemma hasMarker_cons {c : Char} {cs : List Char} :
    hasMarker (c :: cs) = false ↔
      hasMarker cs = false ∧ ¬(c = '\x7b' ∧ cs.head? = some '\x7b') := by
  rw [hasMarker.eq_def]
  split
  · rename_i rest heq
    obtain ⟨rfl, rfl⟩ := List.cons.inj heq
    simp
  · rename_i d rest hno heq
    obtain ⟨rfl, rfl⟩ := List.cons.inj heq
    refine ⟨fun h => ⟨h, ?_⟩, And.left⟩
    rintro ⟨rfl, hhead⟩
    obtain ⟨rest, rfl⟩ := List.head?_eq_some_iff.mp hhead
    exact hno rest rfl rfl
  · rename_i heq
    cases heq

lemma hasMarker_append_of_notMem {cs : List Char} (h : '\x7b' ∉ cs) {rest : List Char}
    (hrest : hasMarker rest = false) : hasMarker (cs ++ rest) = false := by
  induction cs with
  | nil => exact hrest
  | cons c cs ih =>
    have hc : '\x7b' ≠ c := fun hsame => h (hsame ▸ List.mem_cons_self)
    exact hasMarker_cons.mpr
      ⟨ih fun hmem => h (List.mem_cons_of_mem _ hmem), fun hbrace => hc hbrace.1.symm⟩

lemma hasMarker_eq_false_iff {cs : List Char} :
    hasMarker cs = false ↔ ¬['\x7b', '\x7b'] <:+: cs := by
  induction cs with
  | nil => simp [hasMarker]
  | cons c cs ih => rw [hasMarker_cons, Text.pair_infix_cons, ih, not_or, and_comm]

section Escaped

variable {opening closing : List Char} (hopening : opening ≠ [] ∧ '\x7b' ∉ opening)
  (hclosing : closing ≠ [] ∧ '\x7b' ∉ closing)
include hopening hclosing

theorem hasMarker_escapeChars (cs : List Char) :
    hasMarker (escapeChars opening closing cs) = false :=
  hasMarker_eq_false_iff.mpr <| Text.not_pair_infix_replacePair hclosing.1 hclosing.2 <|
    .inl (Text.not_pair_infix_replacePair hopening.1 hopening.2 (.inr ⟨rfl, rfl⟩))

end Escaped

/-! ## Texts without markers -/

/-- No opening and no closing marker is in the text. -/
def MarkerFree (cs : List Char) : Prop :=
  ¬['\x7b', '\x7b'] <:+: cs ∧ ¬['\x7d', '\x7d'] <:+: cs

instance : DecidablePred MarkerFree := fun _ => inferInstanceAs (Decidable (_ ∧ _))

/-- What can stand for a marker: some characters, none of them a brace. -/
structure IsSubstitute (cs : List Char) : Prop where
  ne_nil : cs ≠ []
  opening_notMem : '\x7b' ∉ cs
  closing_notMem : '\x7d' ∉ cs

section MarkerFree

variable {opening closing : List Char}

lemma markerFree_escapeChars (hopening : IsSubstitute opening) (hclosing : IsSubstitute closing)
    (cs : List Char) : MarkerFree (escapeChars opening closing cs) where
  left := hasMarker_eq_false_iff.mp <| hasMarker_escapeChars
    ⟨hopening.ne_nil, hopening.opening_notMem⟩ ⟨hclosing.ne_nil, hclosing.opening_notMem⟩ cs
  right := Text.not_pair_infix_replacePair hclosing.ne_nil hclosing.closing_notMem (.inr ⟨rfl, rfl⟩)

lemma escapeChars_eq_self {cs : List Char} (h : MarkerFree cs) :
    escapeChars opening closing cs = cs := by
  rw [escapeChars, Text.replacePair_eq_self h.1, Text.replacePair_eq_self h.2]

lemma escapeWith_eq_self {opening closing s : String} (h : MarkerFree s.toList) :
    escapeWith opening closing s = s := by
  rw [escapeWith, escapeChars_eq_self h, String.ofList_toList]

/-- These substitutes take all markers out of a text, and change nothing else. -/
structure Escapes (opening closing : String) : Prop where
  markerFree : ∀ s, MarkerFree (escapeWith opening closing s).toList
  idempotent : ∀ s, escapeWith opening closing (escapeWith opening closing s) =
    escapeWith opening closing s
  eq_self : ∀ s, MarkerFree s.toList → escapeWith opening closing s = s

lemma escapes {opening closing : String} (hopening : IsSubstitute opening.toList)
    (hclosing : IsSubstitute closing.toList) : Escapes opening closing := by
  have hfree : ∀ s, MarkerFree (escapeWith opening closing s).toList := fun s => by
    rw [escapeWith, String.toList_ofList]
    exact markerFree_escapeChars hopening hclosing _
  exact ⟨hfree, fun s => escapeWith_eq_self (hfree s), fun _ => escapeWith_eq_self⟩

end MarkerFree

section Ends

variable {opening closing : List Char}

lemma escapeChars_cons {c : Char} (hc : c ≠ '\x7b' ∧ c ≠ '\x7d') (cs : List Char) :
    escapeChars opening closing (c :: cs) = c :: escapeChars opening closing cs := by
  rw [escapeChars, Text.replacePair_cons hc.1, Text.replacePair_cons hc.2, escapeChars]

/-- A character that is no brace parts the text. -/
lemma escapeChars_append_cons {c : Char} (hc : c ≠ '\x7b' ∧ c ≠ '\x7d') (cs rest : List Char) :
    escapeChars opening closing (cs ++ c :: rest) =
      escapeChars opening closing cs ++ c :: escapeChars opening closing rest := by
  rw [escapeChars, Text.replacePair_append_cons hc.1, Text.replacePair_cons hc.1,
    Text.replacePair_append_cons hc.2, Text.replacePair_cons hc.2, escapeChars, escapeChars]

lemma escapeChars_concat {c : Char} (hc : c ≠ '\x7b' ∧ c ≠ '\x7d') (cs : List Char) :
    escapeChars opening closing (cs ++ [c]) = escapeChars opening closing cs ++ [c] :=
  escapeChars_append_cons hc cs []

/-- A single opening brace stays. -/
lemma escapeChars_brace {c : Char} (hc : c ≠ '\x7b' ∧ c ≠ '\x7d') (cs : List Char) :
    escapeChars opening closing ('\x7b' :: c :: cs) =
      '\x7b' :: c :: escapeChars opening closing cs := by
  rw [escapeChars, Text.replacePair, if_neg fun hpair => hc.1 hpair.2,
    Text.replacePair_cons (by decide : '\x7b' ≠ '\x7d'), ← escapeChars, escapeChars_cons hc]

variable (opening) in
/-- A closing brace at the end stays or is replaced. -/
lemma getLast?_escapeChars (hclosing : closing ≠ []) (cs : List Char) :
    (escapeChars opening closing (cs ++ ['\x7d'])).getLast? = some '\x7d' ∨
      (escapeChars opening closing (cs ++ ['\x7d'])).getLast? = closing.getLast? := by
  rw [escapeChars, Text.replacePair_concat (by decide)]
  exact (Text.getLast?_replacePair hclosing _).imp_left fun h => h.trans List.getLast?_concat

end Ends

/-! ## The seams -/

/-- The opening marker of an occurrence shares a character with a stretch of the text. -/
def OpensIn (first last : Nat) (m : Occurrence) : Prop :=
  first < last ∧ m.start < last ∧ first < m.start + 2

/-- The opening marker of an occurrence is made of a brace of the data and a brace next to it. -/
def OpensAtSeam (front data back : List Char) (m : Occurrence) : Prop :=
  (m.start + 1 = front.length ∧ front.getLast? = some '\x7b' ∧ data.head? = some '\x7b') ∨
    (m.start + 1 = front.length + data.length ∧ data.getLast? = some '\x7b' ∧
      back.head? = some '\x7b')

lemma OccursIn.braces {spellings : List String} {text : List Char} {last : Nat} {m : Occurrence}
    (h : OccursIn spellings text last m) :
    text[m.start]? = some '\x7b' ∧ text[m.start + 1]? = some '\x7b' := by
  obtain ⟨rest, hrest⟩ := h.opened
  constructor
  · rw [← Nat.add_zero m.start, ← List.getElem?_drop, hrest]
    rfl
  · rw [← List.getElem?_drop, hrest]
    rfl

lemma hasMarker_of_getElem? {cs : List Char} {i : Nat} (hi : cs[i]? = some '\x7b')
    (hnext : cs[i + 1]? = some '\x7b') : hasMarker cs = true := by
  obtain ⟨hlt, hfirst⟩ := List.getElem?_eq_some_iff.mp hi
  obtain ⟨hlt', hsecond⟩ := List.getElem?_eq_some_iff.mp hnext
  have hopened : cs.drop i = '\x7b' :: '\x7b' :: cs.drop (i + 2) := by
    rw [List.drop_eq_getElem_cons hlt, List.drop_eq_getElem_cons hlt', hfirst, hsecond]
  exact hasMarker_of_drop hopened

section Seams

variable {front data back : List Char} {i : Nat}

lemma getElem?_front (h : i < front.length) : (front ++ data ++ back)[i]? = front[i]? := by
  rw [List.append_assoc, List.getElem?_append_left h]

lemma getElem?_data (h : i < data.length) :
    (front ++ data ++ back)[front.length + i]? = data[i]? := by
  rw [List.append_assoc, List.getElem?_append_right (Nat.le_add_right _ _),
    Nat.add_sub_cancel_left, List.getElem?_append_left h]

lemma getElem?_back : (front ++ data ++ back)[front.length + data.length + i]? = back[i]? := by
  rw [← List.length_append, List.getElem?_append_right (Nat.le_add_right _ _),
    Nat.add_sub_cancel_left]

/-- An occurrence that opens on a character of data without markers opens at one of its seams. -/
theorem OccursIn.opensIn_iff {spellings : List String} {last : Nat} {m : Occurrence}
    (hdata : Markup.hasMarker data = false)
    (h : OccursIn spellings (front ++ data ++ back) last m) :
    OpensIn front.length (front.length + data.length) m ↔ OpensAtSeam front data back m := by
  obtain ⟨hfirst, hsecond⟩ := h.braces
  constructor
  · rintro ⟨hsome, hbefore, hbehind⟩
    rcases lt_or_ge m.start front.length with houtside | hinside
    · have hseam : m.start + 1 = front.length := by omega
      rw [getElem?_front houtside] at hfirst
      rw [hseam, ← Nat.add_zero front.length, getElem?_data (by omega)] at hsecond
      refine .inl ⟨hseam, ?_, by rwa [List.head?_eq_getElem?]⟩
      rwa [List.getLast?_eq_getElem?, ← hseam, Nat.add_sub_cancel]
    · obtain ⟨i, hi⟩ := Nat.exists_eq_add_of_le hinside
      rw [hi, getElem?_data (by omega)] at hfirst
      rcases Nat.lt_or_ge (i + 1) data.length with hwithin | hend
      · rw [hi, Nat.add_assoc, getElem?_data hwithin] at hsecond
        exact absurd (hasMarker_of_getElem? hfirst hsecond) (by simp [hdata])
      · have hseam : m.start + 1 = front.length + data.length := by omega
        rw [hseam, ← Nat.add_zero (front.length + data.length), getElem?_back] at hsecond
        refine .inr ⟨hseam, ?_, by rwa [List.head?_eq_getElem?]⟩
        rwa [List.getLast?_eq_getElem?, show data.length - 1 = i by omega]
  · rintro (⟨hseam, -, hhead⟩ | ⟨hseam, hlast, -⟩)
    · have : 0 < data.length := List.length_pos_iff.mpr (by rintro rfl; simp at hhead)
      exact ⟨by omega, by omega, by omega⟩
    · have : 0 < data.length := List.length_pos_iff.mpr (by rintro rfl; simp at hlast)
      exact ⟨by omega, by omega, by omega⟩

/-- A spelling begins with the character behind its opening marker, unless that ends a name. -/
lemma SpelledAt.head?_eq {spellings : List String} {c : Char} {cs : List Char} {name : String}
    (h : SpelledAt spellings (c :: cs) name) (hc : ¬EndsName (c :: cs)) :
    name.toList.head? = some c := by
  obtain ⟨more, hmore⟩ := h.front
  cases hname : name.toList with
  | nil =>
    have hzero : name.length = 0 := by rw [← String.length_toList, hname, List.length_nil]
    have hends := h.ends
    rw [hzero, List.drop_zero] at hends
    exact absurd hends hc
  | cons d name' =>
    rw [hname, List.cons_append] at hmore
    rw [List.head?_cons, (List.cons.inj hmore).1]

/-- An occurrence that opens at the front seam takes its spelling from the data. -/
lemma OccursIn.name_at_front {spellings : List String} {last : Nat} {m : Occurrence}
    {c d : Char} {data : List Char}
    (h : OccursIn spellings (front ++ (c :: d :: data) ++ back) last m)
    (hstart : m.start + 1 = front.length) (hd : ∀ rest, ¬EndsName (d :: rest)) :
    m.name.toList.head? = some d := by
  have hspelled := h.spelled
  have hbehind : (front ++ (c :: d :: data) ++ back).drop (m.start + 2) = d :: (data ++ back) := by
    rw [show m.start + 2 = front.length + 1 by omega, List.append_assoc, ← List.drop_drop,
      List.drop_left]
    rfl
  rw [hbehind] at hspelled
  exact hspelled.head?_eq (hd _)

end Seams

end Markup
end Pinboard
