import Pinboard.Context
import Pinboard.Proofs.Digits
import Pinboard.Proofs.Fields
import Pinboard.Proofs.Text.Numerals

/-!
# Assembled contexts

The values of a context are those of the environment and the caller's, and no blank text is among
them. A value of the caller that counts as present takes precedence over the environment's, one
that counts as absent makes no difference.
-/
namespace Pinboard

/-! ## Texts of values -/

namespace Text

lemma isBlankText_eq_false_iff {s : String} :
    isBlankText s = false ↔ ∃ c ∈ s.toList, isBlank c = false := by
  simp [isBlankText]

lemma isBlankText_ofList_cons {c : Char} (h : isBlank c = false) (cs : List Char) :
    isBlankText (String.ofList (c :: cs)) = false :=
  isBlankText_eq_false_iff.mpr ⟨c, by simp, h⟩

end Text

namespace Number

lemma isBlankText_intText (i : Int) : Text.isBlankText (intText i) = false := by
  obtain ⟨c, cs, hcons⟩ := List.exists_cons_of_ne_nil (digits_ne_nil i.natAbs)
  have hc : c ∈ digits i.natAbs := by rw [hcons]; exact List.mem_cons_self
  refine Text.isBlankText_eq_false_iff.mpr
    ⟨c, ?_, Text.isBlank_of_isDigit (isDigit_of_mem_digits hc)⟩
  unfold intText
  split_ifs <;> simp [natText, hc]

namespace Binary64

/-- A number is written with a point or an exponent. -/
lemma mem_unsignedText (x : DecimalDigits) : '.' ∈ unsignedText x ∨ 'e' ∈ unsignedText x := by
  simp only [unsignedText]
  split_ifs <;> simp

lemma isBlankText_text (x : Binary64) : Text.isBlankText x.text = false := by
  cases x with
  | nan => decide
  | infinite s => cases s <;> decide
  | finite s m q =>
    let body := if m = 0 then ['0', '.', '0']
      else unsignedText (dropZeros 400 (shortestDigits m q))
    obtain ⟨c, hc, hblank⟩ : ∃ c ∈ body, Text.isBlank c = false := by
      by_cases hm : m = 0
      · exact ⟨'0', by simp [body, hm], by decide⟩
      · rcases mem_unsignedText (dropZeros 400 (shortestDigits m q)) with h | h
        · exact ⟨'.', by simpa [body, hm] using h, by decide⟩
        · exact ⟨'e', by simpa [body, hm] using h, by decide⟩
    have htext : (text (.finite s m q)).toList = if s then '-' :: body else body :=
      String.toList_ofList
    refine Text.isBlankText_eq_false_iff.mpr ⟨c, ?_, hblank⟩
    rw [htext]
    split_ifs
    · exact List.mem_cons_of_mem _ hc
    · exact hc

end Binary64

end Number

namespace Json

lemma isBlankText_shown (v : Json) : Text.isBlankText v.shown = false := by
  cases v with
  | null => decide
  | bool b => cases b <;> decide
  | int i => exact Number.isBlankText_intText i
  | real x => exact x.isBlankText_text
  | str s =>
    have hquote : Text.isBlank (Text.quoteFor s.toList) = false := by
      unfold Text.quoteFor
      split_ifs <;> decide
    exact Text.isBlankText_ofList_cons hquote _
  | arr items =>
    exact Text.isBlankText_eq_false_iff.mpr ⟨'[', by simp [shown], by decide⟩
  | obj fields =>
    exact Text.isBlankText_eq_false_iff.mpr ⟨'\x7b', by simp [shown], by decide⟩

/-- What counts as present is shown by more than blanks. -/
lemma isBlankText_display {v : Json} (h : Context.isNullish v = false) :
    Text.isBlankText v.display = false := by
  cases v with
  | str s => exact h
  | _ => exact isBlankText_shown _

end Json

/-! ## Merged values -/

namespace Fields

variable {α : Type}

lemma mem_set {fields : Fields α} {key : String} {value : α} {f : String × α}
    (h : f ∈ fields.set key value) : f ∈ fields ∨ f = (key, value) := by
  induction fields with
  | nil => exact .inr (List.mem_singleton.mp h)
  | cons g fields ih => grind [set]

/-- Merged fields come from either side. -/
lemma mem_merge {fields new : Fields α} {f : String × α} (h : f ∈ fields.merge new) :
    f ∈ fields ∨ f ∈ new := by
  induction new generalizing fields with
  | nil => exact .inl h
  | cons g new ih =>
    rcases ih (show f ∈ (fields.set g.1 g.2).merge new from h) with hset | hnew
    · exact (mem_set hset).imp_right fun hsame => by rw [hsame]; exact List.mem_cons_self
    · exact .inr (List.mem_cons_of_mem _ hnew)

/-- A key has its last new value, or else the one it had. -/
lemma get?_merge_eq (fields new : Fields α) (key : String) :
    (fields.merge new).get? key = ((ofList new).get? key).or (fields.get? key) := by
  induction new using List.reverseRec with
  | nil => rfl
  | append_singleton new f ih =>
    obtain ⟨k, v⟩ := f
    have hmerged : fields.merge (new ++ [(k, v)]) = (fields.merge new).set k v := by simp [merge]
    rw [hmerged, ofList_concat, get?_set, get?_set, ih]
    split_ifs <;> rfl

end Fields

/-! ## Values of a context -/

namespace Environment

/-- What the environment shows under a name: a reading that is not there is empty. -/
def shown (e : Environment) (name : String) : String :=
  ((Fields.get? name e.readings).join).getD ""

lemma mem_flatten {e : Environment} {f : String × String} (h : f ∈ e.flatten) :
    (f.1, some f.2) ∈ e.readings ∧ Text.isBlankText f.2 = false := by
  obtain ⟨⟨name, reading⟩, hmem, hpresent⟩ := List.mem_filterMap.mp h
  cases reading with
  | none => cases hpresent
  | some s =>
    simp only [presentReading] at hpresent
    split at hpresent
    · cases hpresent
    · obtain rfl := Option.some.inj hpresent
      exact ⟨hmem, Bool.eq_false_iff.mpr ‹_›⟩

/-- What is flattened is what is shown. -/
lemma shown_eq {e : Environment} {name value : String} (h : e.flatten.get? name = some value) :
    e.shown name = value := by
  have hnames : (Fields.keys e.readings).Nodup := by
    show ["clipboardText", "selectedText", "selectedFiles", "currentAppName", "currentAppPath",
      "currentDirectory", "currentURL", "currentTabName", "currentTrack"].Nodup
    decide
  have hreading := Fields.get?_of_mem hnames (mem_flatten (Fields.mem_of_get? h)).1
  rw [shown, hreading]
  rfl

end Environment

namespace Context

/-- What the caller gives under a name, if that counts as present. -/
def callerValue? (extras : Fields Json) (name : String) : Option String :=
  Fields.get? name (gatherValues none extras)

variable (environment : Option Environment) {extras : Fields Json} {name : String}

lemma get?_gatherValues (extras : Fields Json) (name : String) :
    (gatherValues environment extras).get? name =
      (callerValue? extras name).or
        (((environment.map Environment.flatten).getD []).get? name) :=
  Fields.get?_merge_eq _ _ name

variable {environment} in
/-- Each value is one of the environment's or one of the caller's. -/
lemma mem_gatherValues {f : String × String} (h : f ∈ gatherValues environment extras) :
    f ∈ (environment.map Environment.flatten).getD [] ∨
      ∃ v, (f.1, v) ∈ extras ∧ isNullish v = false ∧ f.2 = v.display := by
  refine (Fields.mem_merge h).imp_right fun hnew => ?_
  obtain ⟨⟨key, v⟩, hv, rfl⟩ := List.mem_map.mp hnew
  obtain ⟨hmem, hpresent⟩ := List.mem_filter.mp hv
  exact ⟨v, hmem, by simpa using hpresent, rfl⟩

/-- The caller's values under distinct names are all given. -/
lemma callerValue?_eq_some (hnames : extras.keys.Nodup) {v : Json} (h : (name, v) ∈ extras)
    (hpresent : isNullish v = false) : callerValue? extras name = some v.display := by
  let given : Fields String :=
    (extras.filter fun f => !isNullish f.2).map fun f => (f.1, f.2.display)
  have hkeys : given.keys.Nodup := by
    have hsame : given.keys = (extras.filter fun f => !isNullish f.2).map (·.1) :=
      List.map_map
    rw [hsame]
    exact hnames.sublist (List.filter_sublist.map _)
  have hmem : (name, v.display) ∈ given :=
    List.mem_map.mpr ⟨(name, v), List.mem_filter.mpr ⟨h, by simpa using hpresent⟩, rfl⟩
  calc callerValue? extras name = (Fields.ofList given).get? name := rfl
    _ = given.get? name := by rw [Fields.ofList_eq_self hkeys]
    _ = some v.display := Fields.get?_of_mem hkeys hmem

lemma callerValue?_eq_none (h : ∀ v, (name, v) ∈ extras → isNullish v = true) :
    callerValue? extras name = none := by
  rw [Option.eq_none_iff_forall_ne_some]
  intro value hvalue
  obtain ⟨v, hv, hpresent, -⟩ :=
    (mem_gatherValues (Fields.mem_of_get? hvalue)).resolve_left (by simp)
  rw [h v hv] at hpresent
  cases hpresent

/-- The values of a context that was assembled from an environment and a caller's values. -/
structure Gathers (environment : Option Environment) (extras : Fields Json)
    (values : Fields String) : Prop where
  nonblank : ∀ f ∈ values, Text.isBlankText f.2 = false
  /-- What counts as present takes precedence. -/
  overridden : ∀ name v, (name, v) ∈ extras → isNullish v = false →
    values.get? name = some v.display
  /-- What counts as absent hides nothing. -/
  kept : ∀ name, (∀ v, (name, v) ∈ extras → isNullish v = true) →
    values.get? name = ((environment.map Environment.flatten).getD []).get? name

theorem gathers_gatherValues (hnames : extras.keys.Nodup) :
    Gathers environment extras (gatherValues environment extras) where
  nonblank f hf := by
    rcases mem_gatherValues hf with hambient | ⟨v, -, hpresent, hvalue⟩
    · cases environment with
      | none => cases hambient
      | some e => exact (Environment.mem_flatten hambient).2
    · rw [hvalue]
      exact Json.isBlankText_display hpresent
  overridden name v hv hpresent := by
    rw [get?_gatherValues, callerValue?_eq_some hnames hv hpresent]
    rfl
  kept name hnullish := by
    rw [get?_gatherValues, callerValue?_eq_none hnullish]
    rfl

end Context

end Pinboard
