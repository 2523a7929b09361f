import Pinboard.Proofs.Json.RoundTrip
import Pinboard.Proofs.Markup.Escaping

/-!
# Escaped JSON

Markers are replaced in the text of a JSON value, after it was written. A brace is written as it is,
so a marker inside a string of the value is replaced as it would have been before, and where no two
braces of the structure meet nothing else is. What is read from the text is the value with every
string escaped.
-/
namespace Pinboard

open Markup

/-! ## Strings inside a value -/

namespace Json

mutual

/-- Change every string of a value, also those deep inside. Keys stay. -/
def mapStrings (f : String → String) : Json → Json
  | .str s => .str (f s)
  | .arr items => .arr (mapItems f items)
  | .obj fields => .obj (mapFields f fields)
  | v => v

def mapItems (f : String → String) : List Json → List Json
  | [] => []
  | v :: items => mapStrings f v :: mapItems f items

def mapFields (f : String → String) : List (String × Json) → List (String × Json)
  | [] => []
  | (k, v) :: fields => (k, mapStrings f v) :: mapFields f fields

end

variable {f : String → String}

lemma mapItems_eq (items : List Json) : mapItems f items = items.map (mapStrings f) := by
  induction items with
  | nil => rfl
  | cons v items ih => rw [mapItems, ih, List.map_cons]

lemma mapFields_eq (fields : List (String × Json)) :
    mapFields f fields = fields.map fun (k, v) => (k, mapStrings f v) := by
  induction fields with
  | nil => rfl
  | cons field fields ih => rw [mapFields, ih, List.map_cons]

/-- Strings may be changed without harm to reading. -/
lemma IsPlain.mapStrings {v : Json} (h : IsPlain v) : IsPlain (v.mapStrings f) := by
  induction h with
  | null => exact .null
  | bool b => exact .bool b
  | int hi => exact .int hi
  | str s => exact .str (f s)
  | arr hitems ih =>
    rw [Json.mapStrings, mapItems_eq]
    exact .arr (by simpa using ih)
  | @obj fields hkeys hfields ih =>
    rw [Json.mapStrings, mapFields_eq]
    refine .obj ?_ (List.forall_mem_map.mpr ih)
    rw [List.map_map]
    exact hkeys

/-! ## Written characters -/

/-- The characters are written as they are. -/
def WrittenAsIs (cs : List Char) : Prop := ∀ c ∈ cs, escapedChar c = [c]

instance : DecidablePred WrittenAsIs := fun cs => List.decidableBAll _ cs

lemma digitChar_ne {d : Nat} (hd : d < 16) {brace : Char}
    (h : brace = '\x7b' ∨ brace = '\x7d') : brace ≠ d.digitChar := by
  intro hsame
  have hnone : hexValue? brace = none := by rcases h with rfl | rfl <;> rfl
  rw [hsame, hexValue?_digitChar hd] at hnone
  cases hnone

lemma brace_notMem_unitEscape {n : Nat} (hn : n < 0x10000) {brace : Char}
    (h : brace = '\x7b' ∨ brace = '\x7d') : brace ∉ unitEscape n := by
  have hslash : brace ∉ ['\\', 'u'] := by rcases h with rfl | rfl <;> decide
  rw [unitEscape, Number.hexDigits_eq, Number.filled_four (by decide) (by simpa using hn)]
  simp only [List.mem_cons, List.not_mem_nil, or_false, not_or] at hslash ⊢
  exact ⟨hslash.1, hslash.2, digitChar_ne (by omega) h, digitChar_ne (by omega) h,
    digitChar_ne (by omega) h, digitChar_ne (by omega) h⟩

/-- A brace is in what is written for itself and for no other character. -/
lemma brace_notMem_escapedChar {brace c : Char} (h : brace = '\x7b' ∨ brace = '\x7d')
    (hc : c ≠ brace) : brace ∉ escapedChar c := by
  have hvalid := toNat_lt c
  have hpairs : ∀ letter ∈ ['"', '\\', 'n', 'r', 't', 'b', 'f'], brace ∉ ['\\', letter] := by
    rcases h with rfl | rfl <;> simp
  unfold escapedChar
  split_ifs with h₁ h₂ h₃ h₄ h₅ h₆ h₇ h₈ h₉
  · exact hpairs _ (by simp)
  · exact hpairs _ (by simp)
  · exact hpairs _ (by simp)
  · exact hpairs _ (by simp)
  · exact hpairs _ (by simp)
  · exact hpairs _ (by simp)
  · exact hpairs _ (by simp)
  · simpa using hc.symm
  · exact brace_notMem_unitEscape h₉ h
  · rw [List.mem_append, not_or]
    exact ⟨brace_notMem_unitEscape (by omega) h, brace_notMem_unitEscape (by omega) h⟩

lemma escapedChar_ne_nil (c : Char) : escapedChar c ≠ [] := by
  unfold escapedChar
  split_ifs <;> exact List.cons_ne_nil _ _

end Json

namespace Text

variable {x : Char} {replacement : List Char} {write : Char → List Char}

/-- Doubled characters may be replaced before the text is written or afterwards, if each of them and
its replacement are written as they are and others never with such a character. -/
lemma replacePair_flatMap (hx : write x = [x])
    (hreplacement : replacement.flatMap write = replacement)
    (hothers : ∀ c, c ≠ x → write c ≠ [] ∧ x ∉ write c) (cs : List Char) :
    replacePair x x replacement (cs.flatMap write) =
      (replacePair x x replacement cs).flatMap write := by
  fun_induction replacePair x x replacement cs with
  | case1 => rfl
  | case2 c =>
    rw [List.flatMap_singleton]
    by_cases hc : c = x
    · rw [hc, hx, replacePair]
    · exact replacePair_eq_self fun hpair => (hothers c hc).2 (hpair.subset List.mem_cons_self)
  | case3 c d rest hpair ih =>
    obtain ⟨rfl, rfl⟩ := hpair
    rw [List.flatMap_cons, List.flatMap_cons, hx, List.singleton_append, List.singleton_append,
      replacePair, if_pos ⟨rfl, rfl⟩, ih, List.flatMap_append, hreplacement]
  | case4 c d rest hpair ih =>
    rw [@List.flatMap_cons _ _ c, @List.flatMap_cons _ _ c, ← ih]
    by_cases hc : c = x
    · subst hc
      have hd : d ≠ c := fun hd => hpair ⟨rfl, hd⟩
      -- What is written for the next character begins with another one.
      obtain ⟨e, es, he⟩ := List.exists_cons_of_ne_nil (hothers d hd).1
      have hne : e ≠ c := fun hsame =>
        (hothers d hd).2 (by rw [he, hsame]; exact List.mem_cons_self)
      rw [hx, List.flatMap_cons, he, List.singleton_append, List.cons_append, replacePair,
        if_neg fun hpair => hne hpair.2]
      rfl
    · exact replacePair_append_of_notMem (hothers c hc).2 _

end Text

namespace Json

section Escaped

variable {opening closing : List Char}

lemma flatMap_eq_self {cs : List Char} (h : WrittenAsIs cs) : cs.flatMap escapedChar = cs := by
  induction cs with
  | nil => rfl
  | cons c cs ih =>
    rw [List.flatMap_cons, h c List.mem_cons_self, ih fun d hd => h d (List.mem_cons_of_mem _ hd),
      List.singleton_append]

/-- The markers of a string are the markers of its written form. -/
lemma escapeChars_flatMap (hopening : WrittenAsIs opening) (hclosing : WrittenAsIs closing)
    (cs : List Char) :
    escapeChars opening closing (cs.flatMap escapedChar) =
      (escapeChars opening closing cs).flatMap escapedChar := by
  have hothers : ∀ brace, brace = '\x7b' ∨ brace = '\x7d' → ∀ c, c ≠ brace →
      escapedChar c ≠ [] ∧ brace ∉ escapedChar c := fun brace h c hc =>
    ⟨escapedChar_ne_nil c, brace_notMem_escapedChar h hc⟩
  rw [escapeChars, escapeChars,
    Text.replacePair_flatMap rfl (flatMap_eq_self hopening) (hothers _ (.inl rfl)),
    Text.replacePair_flatMap rfl (flatMap_eq_self hclosing) (hothers _ (.inr rfl))]

end Escaped

/-! ## Braces of the structure -/

/-- What can stand for a marker inside a written string: characters that are written as they are. -/
structure IsWritable (substitute : String) : Prop extends IsSubstitute substitute.toList where
  written : WrittenAsIs substitute.toList

/-- A value in which no object has an object as its last value or a marker in a key. Its text has
no two braces side by side but those in its strings. -/
inductive BracesApart : Json → Prop
  | null : BracesApart .null
  | bool (b : Bool) : BracesApart (.bool b)
  | int (i : Int) : BracesApart (.int i)
  | str (s : String) : BracesApart (.str s)
  | arr {items : List Json} (h : ∀ v ∈ items, BracesApart v) : BracesApart (.arr items)
  | obj {fields : List (String × Json)} (hkeys : ∀ f ∈ fields, MarkerFree f.1.toList)
      (hflat : ∀ f ∈ fields, f.2.fields? = none) (h : ∀ f ∈ fields, BracesApart f.2) :
      BracesApart (.obj fields)

/-- A text that ends with no brace. -/
def EndsUnbraced (cs : List Char) : Prop :=
  ∃ before c, cs = before ++ [c] ∧ c ≠ '\x7b' ∧ c ≠ '\x7d'

lemma EndsUnbraced.append {cs : List Char} (h : EndsUnbraced cs) (before : List Char) :
    EndsUnbraced (before ++ cs) := by
  obtain ⟨front, c, rfl, hc⟩ := h
  exact ⟨before ++ front, c, (List.append_assoc _ _ _).symm, hc⟩

lemma EndsUnbraced.of_notMem {cs : List Char} (hne : cs ≠ [])
    (h : '\x7b' ∉ cs ∧ '\x7d' ∉ cs) : EndsUnbraced cs := by
  refine ⟨cs.dropLast, cs.getLast hne, (List.dropLast_append_getLast hne).symm, ?_, ?_⟩
  · exact fun hlast => h.1 (hlast ▸ List.getLast_mem hne)
  · exact fun hlast => h.2 (hlast ▸ List.getLast_mem hne)

lemma braces_notMem_intChars (i : Int) : '\x7b' ∉ intChars i ∧ '\x7d' ∉ intChars i := by
  have hdigits : ∀ brace, Char.isDigit brace = false → brace ≠ '-' → brace ∉ intChars i := by
    intro brace hbrace hminus hmem
    have hdigit : ∀ {n}, brace ∈ Number.digits n → False := fun hmem => by
      simp [Number.isDigit_of_mem_digits hmem] at hbrace
    unfold intChars at hmem
    split_ifs at hmem
    · exact (List.mem_cons.mp hmem).elim hminus hdigit
    · exact hdigit hmem
  exact ⟨hdigits _ (by decide) (by decide), hdigits _ (by decide) (by decide)⟩

lemma BracesApart.endsUnbraced {v : Json} (h : BracesApart v) (hflat : v.fields? = none) :
    EndsUnbraced (chars v) := by
  cases h with
  | null => exact .of_notMem (by decide) (by decide)
  | bool b => cases b <;> exact .of_notMem (by decide) (by decide)
  | int i =>
    obtain ⟨c, cs, hcons, -⟩ := intChars_eq_cons i
    exact .of_notMem (by rw [chars, hcons]; exact List.cons_ne_nil _ _) (braces_notMem_intChars i)
  | str s => exact ⟨_, '"', rfl, by decide, by decide⟩
  | arr h => exact ⟨_, ']', rfl, by decide, by decide⟩
  | obj => cases hflat

lemma endsUnbraced_fieldChars {f : String × Json} {fields : List (String × Json)}
    (h : ∀ g ∈ f :: fields, EndsUnbraced (chars g.2)) :
    EndsUnbraced (fieldChars (f :: fields)) := by
  induction fields generalizing f with
  | nil =>
    have hvalue := (h f List.mem_cons_self).append (stringChars f.1 ++ [':', ' '])
    simpa [fieldChars] using hvalue
  | cons g fields ih =>
    have hrest := (ih fun k hk => h k (List.mem_cons_of_mem _ hk)).append
      (stringChars f.1 ++ ':' :: ' ' :: chars f.2 ++ [',', ' '])
    simpa [fieldChars] using hrest

section Written

variable {opening closing : String} (hopening : IsWritable opening) (hclosing : IsWritable closing)

/-- A closing brace behind another character stays. -/
lemma escapeChars_closed {cs : List Char} (h : EndsUnbraced cs) :
    escapeChars opening.toList closing.toList (cs ++ ['\x7d']) =
      escapeChars opening.toList closing.toList cs ++ ['\x7d'] := by
  obtain ⟨before, c, rfl, hc⟩ := h
  have hbrace : escapeChars opening.toList closing.toList ['\x7d'] = ['\x7d'] := rfl
  rw [List.append_assoc, List.singleton_append, escapeChars_append_cons hc, escapeChars_concat hc,
    hbrace, List.append_assoc, List.singleton_append]

include hopening hclosing

lemma escapeChars_stringChars (s : String) :
    escapeChars opening.toList closing.toList (stringChars s) =
      stringChars (escapeWith opening closing s) := by
  rw [stringChars, List.cons_append, escapeChars_cons (by decide), escapeChars_concat (by decide),
    escapeChars_flatMap hopening.written hclosing.written, stringChars, escapeWith,
    String.toList_ofList, List.cons_append]

/-- The text of a value is escaped as the value is. -/
def EscapesInside (opening closing : String) (v : Json) : Prop :=
  escapeChars opening.toList closing.toList (chars v) =
    chars (v.mapStrings (escapeWith opening closing))

omit hopening hclosing in
lemma escapeChars_itemChars {items : List Json}
    (h : ∀ v ∈ items, EscapesInside opening closing v) :
    escapeChars opening.toList closing.toList (itemChars items) =
      itemChars (mapItems (escapeWith opening closing) items) := by
  induction items with
  | nil => rfl
  | cons v items ih =>
    have hv := h v List.mem_cons_self
    have hrest := ih fun w hw => h w (List.mem_cons_of_mem _ hw)
    cases items with
    | nil => exact hv
    | cons w items =>
      rw [mapItems] at hrest
      rw [itemChars, escapeChars_append_cons (by decide), escapeChars_cons (by decide), hv, hrest,
        mapItems, mapItems, itemChars]

lemma escapeChars_entry {f : String × Json} (hkey : MarkerFree f.1.toList)
    (h : EscapesInside opening closing f.2) :
    escapeChars opening.toList closing.toList (stringChars f.1 ++ ':' :: ' ' :: chars f.2) =
      stringChars f.1 ++ ':' :: ' ' :: chars (f.2.mapStrings (escapeWith opening closing)) := by
  rw [escapeChars_append_cons (by decide), escapeChars_cons (by decide),
    escapeChars_stringChars hopening hclosing, escapeWith_eq_self hkey, h]

lemma escapeChars_fieldChars {fields : List (String × Json)}
    (hkeys : ∀ f ∈ fields, MarkerFree f.1.toList)
    (h : ∀ f ∈ fields, EscapesInside opening closing f.2) :
    escapeChars opening.toList closing.toList (fieldChars fields) =
      fieldChars (mapFields (escapeWith opening closing) fields) := by
  induction fields with
  | nil => rfl
  | cons f fields ih =>
    have hentry := escapeChars_entry hopening hclosing (hkeys f List.mem_cons_self)
      (h f List.mem_cons_self)
    have hrest := ih (fun g hg => hkeys g (List.mem_cons_of_mem _ hg))
      fun g hg => h g (List.mem_cons_of_mem _ hg)
    cases fields with
    | nil => exact hentry
    | cons g fields =>
      rw [mapFields] at hrest
      rw [fieldChars, escapeChars_append_cons (by decide), escapeChars_cons (by decide), hentry,
        hrest, mapFields, mapFields, fieldChars]

theorem BracesApart.escapesInside {v : Json} (h : BracesApart v) :
    EscapesInside opening closing v := by
  induction h with
  | null => exact escapeChars_eq_self ⟨by decide, by decide⟩
  | bool b => cases b <;> exact escapeChars_eq_self ⟨by decide, by decide⟩
  | int i =>
    obtain ⟨hopen, hclose⟩ := braces_notMem_intChars i
    exact escapeChars_eq_self ⟨fun hpair => hopen (hpair.subset List.mem_cons_self),
      fun hpair => hclose (hpair.subset List.mem_cons_self)⟩
  | str s => exact escapeChars_stringChars hopening hclosing s
  | arr hitems ih =>
    rw [EscapesInside, mapStrings, chars, chars, List.cons_append, escapeChars_cons (by decide),
      escapeChars_concat (by decide), escapeChars_itemChars ih, List.cons_append]
  | @obj fields hkeys hflat hfields ih =>
    cases fields with
    | nil => exact escapeChars_eq_self ⟨by decide, by decide⟩
    | cons f fields =>
      have hends := endsUnbraced_fieldChars fun g hg => (hfields g hg).endsUnbraced (hflat g hg)
      have hinside := escapeChars_fieldChars hopening hclosing hkeys ih
      obtain ⟨cs, hcs⟩ : ∃ cs, fieldChars (f :: fields) = '"' :: cs := by
        obtain ⟨k, v⟩ := f
        cases fields <;> exact ⟨_, rfl⟩
      rw [EscapesInside, mapStrings, chars, chars, ← hinside, List.cons_append, List.cons_append,
        ← escapeChars_closed hends, hcs, List.cons_append, escapeChars_brace (by decide),
        escapeChars_cons (by decide)]

/-- Markers in the text of a value may be replaced in its strings instead. -/
theorem BracesApart.escapeWith_print {v : Json} (h : BracesApart v) :
    escapeWith opening closing v.print = (v.mapStrings (escapeWith opening closing)).print := by
  rw [escapeWith, print, String.toList_ofList, h.escapesInside hopening hclosing, print]

end Written

end Json

end Pinboard
