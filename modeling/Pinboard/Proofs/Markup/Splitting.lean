import Pinboard.Proofs.Markup.Arguments
import Pinboard.Proofs.Markup.Balance

/-!
# Cuts of a body

Where a body is cut is stated here over its markers and single characters, part by part, and without
the splitter: no part but the last leaves a marker open or holds a colon outside markers, and
neither does the last one hold such a colon as long as there may be more parts. A body has one such
cut for each number of parts that is asked for, and this is how it is split.
-/
namespace Pinboard.Markup

/-- What a piece makes of the number of open markers. A closing marker that closes nothing is passed
over. -/
def Mark.count (depth : Nat) : Mark → Nat
  | .opening => depth + 1
  | .closing => depth - 1
  | .other _ => depth

/-- How many markers are open after some pieces. -/
def openAfter (depth : Nat) (ms : List Mark) : Nat := ms.foldl Mark.count depth

@[simp] lemma openAfter_nil (depth : Nat) : openAfter depth [] = depth := rfl

@[simp] lemma openAfter_cons (depth : Nat) (m : Mark) (ms : List Mark) :
    openAfter depth (m :: ms) = openAfter (m.count depth) ms := rfl

/-- A colon stands where no marker is open. -/
def HasColon (depth : Nat) (ms : List Mark) : Prop :=
  ∃ before after, ms = before ++ .other ':' :: after ∧ openAfter depth before = 0

@[simp] lemma not_hasColon_nil (depth : Nat) : ¬HasColon depth [] := by
  rintro ⟨before, after, h, -⟩
  simp at h

lemma hasColon_cons {depth : Nat} {m : Mark} {ms : List Mark} :
    HasColon depth (m :: ms) ↔ (m = .other ':' ∧ depth = 0) ∨ HasColon (m.count depth) ms := by
  constructor
  · rintro ⟨before, after, hms, hopen⟩
    cases before with
    | nil => exact .inl ⟨(List.cons.inj hms).1, hopen⟩
    | cons b before =>
      obtain ⟨rfl, rfl⟩ := List.cons.inj hms
      exact .inr ⟨before, after, rfl, hopen⟩
  · rintro (⟨rfl, hdepth⟩ | ⟨before, after, rfl, hopen⟩)
    · exact ⟨[], ms, rfl, hdepth⟩
    · exact ⟨m :: before, after, rfl, hopen⟩

/-- A text cut at colons into at most `count` parts. All parts but the last close their markers and
hold no colon outside them; nor does the last one hold such a colon if there may be more parts. -/
structure IsCut (count : Nat) (text : List Char) (parts : List (List Char)) : Prop where
  one_le : 1 ≤ parts.length
  le_count : parts.length ≤ count
  joined : [':'].intercalate parts = text
  closed : ∀ part ∈ parts.dropLast, openAfter 0 (marks part) = 0
  uncut : ∀ part ∈ parts.dropLast, ¬HasColon 0 (marks part)
  last_uncut : parts.length < count → ∀ part ∈ parts.getLast?, ¬HasColon 0 (marks part)

/-! ## Arguments and pieces -/

/-- A character that opens and closes no marker. -/
lemma argumentDepth?_cons {c : Char} {rest : List Char}
    (hopen : ∀ more, c = '{' → rest = '{' :: more → False)
    (hclose : ∀ more, c = '}' → rest = '}' :: more → False) (depth : Nat) :
    argumentDepth? depth (c :: rest) =
      if c = ':' ∧ depth = 0 then none else argumentDepth? depth rest :=
  argumentDepth?.eq_4 depth c rest hopen hclose

/-- A closing brace outside markers makes no difference. -/
lemma argumentDepth?_brace (cs : List Char) :
    argumentDepth? 0 ('}' :: cs) = argumentDepth? 0 cs := by
  cases cs with
  | nil => rfl
  | cons c cs =>
    by_cases hc : c = '}'
    · rw [hc, argumentDepth?, if_pos rfl]
    · rw [argumentDepth?_cons (by simp) (by simpa using hc), if_neg (by simp)]

/-- Whether a text is one argument can be told from its pieces, closing markers being taken whole
also where they close nothing. -/
lemma argumentDepth?_eq_some_iff {depth d : Nat} {cs : List Char} :
    argumentDepth? depth cs = some d ↔
      ¬HasColon depth (marks cs) ∧ openAfter depth (marks cs) = d := by
  induction cs using marks.induct generalizing depth with
  | case1 rest ih =>
    rw [argumentDepth?, marks, ih, hasColon_cons]
    simp [Mark.count]
  | case2 rest ih =>
    rw [argumentDepth?, marks, hasColon_cons, openAfter_cons]
    split
    · rename_i hdepth
      rw [hdepth, argumentDepth?_brace, ih]
      simp [Mark.count]
    · rw [ih]
      simp [Mark.count]
  | case3 c rest hopen hclose ih =>
    rw [argumentDepth?_cons hopen hclose, marks_cons hopen hclose, hasColon_cons, openAfter_cons]
    split
    · rename_i hcolon
      simp [hcolon]
    · rename_i hcolon
      rw [ih, Mark.count, Mark.other.injEq, or_iff_right hcolon]
  | case4 => simp [argumentDepth?, marks]

lemma isArgument_iff {cs : List Char} :
    IsArgument cs ↔ openAfter 0 (marks cs) = 0 ∧ ¬HasColon 0 (marks cs) :=
  argumentDepth?_eq_some_iff.trans and_comm

/-- A text with a colon outside its markers has one argument up to the first of them. -/
lemma exists_argument_before {depth : Nat} {cs : List Char} (h : argumentDepth? depth cs = none) :
    ∃ part rest, cs = part ++ ':' :: rest ∧ argumentDepth? depth part = some 0 := by
  fun_induction argumentDepth? depth cs with
  | case1 depth => cases h
  | case2 depth rest ih =>
    obtain ⟨part, rest, rfl, hpart⟩ := ih h
    exact ⟨'{' :: '{' :: part, rest, rfl, by rwa [argumentDepth?]⟩
  | case3 rest ih =>
    obtain ⟨part, rest', hcs, hpart⟩ := ih h
    exact ⟨'}' :: part, rest', by rw [hcs, List.cons_append], by rwa [argumentDepth?_brace]⟩
  | case4 depth rest hdepth ih =>
    obtain ⟨part, rest, rfl, hpart⟩ := ih h
    exact ⟨'}' :: '}' :: part, rest, rfl, by rwa [argumentDepth?, if_neg hdepth]⟩
  | case5 depth c rest hopen hclose hcut =>
    obtain ⟨rfl, rfl⟩ := hcut
    exact ⟨[], rest, rfl, rfl⟩
  | case6 depth c rest hopen hclose hcut ih =>
    obtain ⟨part, rest, rfl, hpart⟩ := ih h
    refine ⟨c :: part, rest, rfl, ?_⟩
    rw [argumentDepth?_cons, if_neg hcut, hpart]
    · exact fun more hc hmore => hopen (more ++ ':' :: rest) hc (by rw [hmore, List.cons_append])
    · exact fun more hc hmore => hclose (more ++ ':' :: rest) hc (by rw [hmore, List.cons_append])

/-! ## Cuts -/

/-- A text in which no colon stands outside markers stays whole. -/
lemma splitAt_uncut {depth : Nat} {cs : List Char} (h : ¬HasColon depth (marks cs)) (cuts : Nat) :
    splitAt cuts depth cs = [cs] := by
  have hdepth := argumentDepth?_eq_some_iff.mpr ⟨h, rfl⟩
  clear h
  generalize openAfter depth (marks cs) = d at hdepth
  fun_induction argumentDepth? depth cs with
  | case1 depth => rfl
  | case2 depth rest ih => rw [splitAt, ih hdepth]; rfl
  | case3 rest ih => rw [splitAt, if_pos rfl, ih hdepth]; rfl
  | case4 depth rest hopen ih => rw [splitAt, if_neg hopen, ih hdepth]; rfl
  | case5 depth c rest hopen hclose hcut => cases hdepth
  | case6 depth c rest hopen hclose hcut ih =>
    rw [splitAt_cons hopen hclose, if_neg hcut, ih hdepth]
    rfl

/-- So does one that is not to be cut. -/
lemma splitAt_zero (depth : Nat) (cs : List Char) : splitAt 0 depth cs = [cs] := by
  generalize hcuts : 0 = cuts
  fun_induction splitAt cuts depth cs with
  | case1 | case5 => rfl
  | case2 cuts depth rest ih | case3 cuts rest ih | case4 cuts depth rest _ ih
  | case7 cuts depth c rest _ _ _ ih =>
    rw [ih hcuts]
    rfl
  | case6 => cases hcuts

lemma isCut_singleton {count : Nat} {text part : List Char} :
    IsCut count text [part] ↔
      1 ≤ count ∧ part = text ∧ (1 < count → ¬HasColon 0 (marks part)) := by
  constructor
  · intro h
    exact ⟨h.le_count, by simpa using h.joined, fun hlt => h.last_uncut hlt part rfl⟩
  · rintro ⟨hcount, rfl, huncut⟩
    refine ⟨le_rfl, hcount, by simp, by simp, by simp, fun hlt last hlast => ?_⟩
    cases hlast
    exact huncut hlt

/-- A cut into two parts or more is one argument, a colon and a cut of the rest. -/
lemma isCut_cons {count : Nat} {text part next : List Char} {parts : List (List Char)} :
    IsCut (count + 1) text (part :: next :: parts) ↔
      IsArgument part ∧ ∃ rest, part ++ ':' :: rest = text ∧ IsCut count rest (next :: parts) := by
  have hjoined : [':'].intercalate (part :: next :: parts) =
      part ++ ':' :: [':'].intercalate (next :: parts) := by simp [List.intercalate]
  rw [isArgument_iff]
  constructor
  · intro h
    have hlength := h.le_count
    simp only [List.length_cons, Nat.add_le_add_iff_right] at hlength
    refine ⟨⟨h.closed part (by simp), h.uncut part (by simp)⟩, _, hjoined ▸ h.joined, ?_⟩
    refine ⟨by simp, by simpa using hlength, rfl, fun p hp => h.closed p ?_,
      fun p hp => h.uncut p ?_, fun hlt p hp => h.last_uncut ?_ p ?_⟩
    · exact List.mem_cons_of_mem _ hp
    · exact List.mem_cons_of_mem _ hp
    · simpa using hlt
    · rwa [List.getLast?_cons_cons]
  · rintro ⟨⟨hclosed, huncut⟩, rest, rfl, h⟩
    refine ⟨by simp, by simpa using h.le_count, hjoined.trans (by rw [h.joined]), ?_, ?_,
      fun hlt p hp => h.last_uncut ?_ p ?_⟩
    · rw [List.dropLast_cons_cons]
      exact List.forall_mem_cons.mpr ⟨hclosed, h.closed⟩
    · rw [List.dropLast_cons_cons]
      exact List.forall_mem_cons.mpr ⟨huncut, h.uncut⟩
    · simpa using hlt
    · rwa [List.getLast?_cons_cons] at hp

/-- A text is split as it is cut. -/
lemma IsCut.splitAt_eq {cuts : Nat} {text : List Char} {parts : List (List Char)}
    (h : IsCut (cuts + 1) text parts) : splitAt cuts 0 text = parts := by
  induction parts generalizing cuts text with
  | nil => exact absurd h.one_le (by simp)
  | cons part parts ih =>
    cases parts with
    | nil =>
      obtain ⟨-, rfl, huncut⟩ := isCut_singleton.mp h
      cases cuts with
      | zero => exact splitAt_zero 0 part
      | succ cuts => exact splitAt_uncut (huncut (by omega)) _
    | cons next parts =>
      obtain ⟨hpart, rest, rfl, hrest⟩ := isCut_cons.mp h
      cases cuts with
      | zero => exact absurd hrest.le_count (by simp)
      | succ cuts =>
        calc splitAt (cuts + 1) 0 (part ++ ':' :: rest)
          _ = prepend part (splitAt (cuts + 1) 0 (':' :: rest)) :=
            splitAt_append hpart (.inr ⟨rest, rfl⟩) _
          _ = prepend part ([] :: splitAt cuts 0 rest) := by
            rw [splitAt_cons (by simp) (by simp), if_pos ⟨rfl, rfl⟩]
          _ = part :: next :: parts := by rw [ih hrest, prepend, List.append_nil]

/-- A text can be cut into up to any number of parts. -/
lemma exists_isCut (cuts : Nat) (text : List Char) : ∃ parts, IsCut (cuts + 1) text parts := by
  induction cuts generalizing text with
  | zero => exact ⟨[text], isCut_singleton.mpr ⟨le_rfl, rfl, fun h => absurd h (lt_irrefl 1)⟩⟩
  | succ cuts ih =>
    cases hdepth : argumentDepth? 0 text with
    | some d =>
      have huncut := (argumentDepth?_eq_some_iff.mp hdepth).1
      exact ⟨[text], isCut_singleton.mpr ⟨by omega, rfl, fun _ => huncut⟩⟩
    | none =>
      obtain ⟨part, rest, rfl, hpart⟩ := exists_argument_before hdepth
      obtain ⟨parts, hcut⟩ := ih rest
      cases parts with
      | nil => exact absurd hcut.one_le (by simp)
      | cons next parts => exact ⟨_, isCut_cons.mpr ⟨hpart, rest, rfl, hcut⟩⟩

/-- Splitting a body into at most a number of arguments gives a cut of it, the only one that there
is. -/
theorem splitArguments_eq_iff {count : Nat} (hcount : 1 ≤ count) (body : String)
    (parts : List String) :
    splitArguments body count = parts ↔ IsCut count body.toList (parts.map String.toList) := by
  obtain ⟨cuts, rfl⟩ : ∃ cuts, count = cuts + 1 := ⟨count - 1, by omega⟩
  have hsplit : splitArguments body (cuts + 1) = parts ↔
      splitAt cuts 0 body.toList = parts.map String.toList := by
    rw [splitArguments, Nat.add_sub_cancel]
    constructor
    · rintro rfl
      simp
    · intro h
      simp [h]
  rw [hsplit]
  constructor
  · intro h
    obtain ⟨cut, hcut⟩ := exists_isCut cuts body.toList
    rwa [← h, hcut.splitAt_eq]
  · exact IsCut.splitAt_eq

/-- A body with overlapping braces, closing markers that close nothing and one that stays open. -/
def ruggedBody : String := "a\x7d\x7d\x7d:\x7b\x7b\x7bb:c\x7d\x7d\x7d\x7d\x7d:\x7b\x7bd:e"

theorem splitArguments_eq_iff_rugged :
    1 ≤ 4 ∧ splitArguments ruggedBody 4 =
      ["a\x7d\x7d\x7d", "\x7b\x7b\x7bb:c\x7d\x7d\x7d\x7d\x7d", "\x7b\x7bd:e"] ∧
    IsCut 4 ruggedBody.toList ((splitArguments ruggedBody 4).map String.toList) := by
  have hcount : 1 ≤ 4 := by decide
  exact ⟨hcount, by decide +kernel, (splitArguments_eq_iff hcount ruggedBody _).mp rfl⟩

end Pinboard.Markup
