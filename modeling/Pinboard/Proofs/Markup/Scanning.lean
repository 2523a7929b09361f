import Pinboard.Proofs.Markup.Balance

/-!
# What the scanner finds

An occurrence is stated here by what stands in the text: its opening marker, a spelling with a
boundary behind it, the closing marker by the count of markers, and a header that can be read. The
scanner gives the leftmost one of a region or, on its way inwards, the last of a chain of leftmost
ones between the markers of the one before.
-/
namespace Pinboard.Markup

/-- A spelling without characters that can end or begin something else. -/
def IsPlain (spelling : String) : Prop :=
  ∀ c ∈ spelling.toList, Text.isBlank c = false ∧ c ≠ ':' ∧ c ≠ '\x7b' ∧ c ≠ '\x7d'

instance : DecidablePred IsPlain := fun spelling => List.decidableBAll _ spelling.toList

/-- A blank, a colon or a closing marker stands at the front. -/
def EndsName (cs : List Char) : Prop :=
  (∃ c rest, cs = c :: rest ∧ (Text.isBlank c = true ∨ c = ':')) ∨
    ∃ rest, cs = '\x7d' :: '\x7d' :: rest

/-- One of some spellings stands at the front, with a boundary behind it. -/
structure SpelledAt (spellings : List String) (cs : List Char) (name : String) : Prop where
  mem : name ∈ spellings
  front : name.toList <+: cs
  ends : EndsName (cs.drop name.length)

/-- The characters of a text from one position up to another. -/
def slice (text : List Char) (first last : Nat) : List Char := (text.drop first).take (last - first)

/-- An occurrence of one of some spellings in a text, ending at or before `last`. -/
structure OccursIn (spellings : List String) (text : List Char) (last : Nat) (m : Occurrence) :
    Prop where
  opened : ∃ rest, text.drop m.start = '\x7b' :: '\x7b' :: rest
  spelled : SpelledAt spellings (text.drop (m.start + 2)) m.name
  /-- The count of markers first returns to zero right before the end. -/
  closed : ∃ n, Returns 1 (marks (text.drop (m.start + 2))) n ∧ m.stop = m.start + n + 4
  within : m.stop ≤ last
  /-- What stands between the spelling and the closing marker. -/
  header : Header.read? (slice text (m.start + 2 + m.name.length) (m.stop - 2)) =
    some ⟨m.params, m.flags, m.body⟩
  text_eq : m.text = String.ofList (slice text m.start m.stop)
  direct : m.callArgs = none

/-- An occurrence whose spelling is the longest that fits, which is how a text is read. -/
def Reads (spellings : List String) (text : List Char) (last : Nat) (m : Occurrence) : Prop :=
  OccursIn spellings text last m ∧
    ∀ name, SpelledAt spellings (text.drop (m.start + 2)) name → name.length ≤ m.name.length

/-- The occurrence of a kind that starts first at or after a position. -/
def Leftmost (occurs : Occurrence → Prop) (first : Nat) (m : Occurrence) : Prop :=
  occurs m ∧ first ≤ m.start ∧ ∀ m', occurs m' → first ≤ m'.start → m.start ≤ m'.start

/-- The leftmost occurrence that lies between the markers of another. -/
def Inside (occurs : Nat → Occurrence → Prop) (m inner : Occurrence) : Prop :=
  Leftmost (occurs (m.stop - 2)) (m.start + 2) inner

/-- No occurrence lies between the markers. -/
def IsInnermost (occurs : Nat → Occurrence → Prop) (m : Occurrence) : Prop :=
  ∀ inner, occurs (m.stop - 2) inner → inner.start < m.start + 2

/-! ## Spellings -/

lemma isBoundary_iff {cs : List Char} : isBoundary cs = true ↔ EndsName cs := by
  unfold isBoundary EndsName
  split
  · simp
  · rename_i c rest h
    constructor
    · intro hc
      exact .inl ⟨c, rest, rfl, by simpa using hc⟩
    · rintro (⟨c', rest', hcs, hc⟩ | ⟨rest', hcs⟩)
      · obtain ⟨rfl, rfl⟩ : c = c' ∧ rest = rest' := by simpa using hcs
        simpa using hc
      · obtain ⟨rfl, rfl⟩ : c = '\x7d' ∧ rest = '\x7d' :: rest' := by simpa using hcs
        exact absurd rfl (h rest' rfl)
  · simp

lemma spellingFits_iff {spellings : List String} {cs : List Char} {name : String} :
    name ∈ spellings.filter (spellingFits cs) ↔ SpelledAt spellings cs name := by
  simp only [List.mem_filter, spellingFits, Bool.and_eq_true, List.isPrefixOf_iff_prefix,
    isBoundary_iff]
  exact ⟨fun ⟨hm, hf, he⟩ => ⟨hm, hf, he⟩, fun ⟨hm, hf, he⟩ => ⟨hm, hf, he⟩⟩

/-- The fold over candidates keeps one that no candidate exceeds in length. -/
lemma foldl_longer {names : List String} {best : Option String} {name : String}
    (h : names.foldl longer best = some name) :
    (name ∈ names ∨ best = some name) ∧ (∀ other ∈ names, other.length ≤ name.length) ∧
      ∀ other, best = some other → other.length ≤ name.length := by
  induction names generalizing best with
  | nil => simp_all
  | cons first names ih =>
    obtain ⟨hmem, hlen, hbest⟩ := ih h
    cases best with
    | none =>
      simp only [longer, Option.some.injEq] at hmem hbest
      simp only [List.mem_cons]
      grind
    | some b =>
      simp only [longer] at hmem hbest
      simp only [List.mem_cons]
      grind

lemma foldl_longer_isSome {names : List String} {best : Option String}
    (h : best.isSome = true ∨ names ≠ []) : (names.foldl longer best).isSome = true := by
  induction names generalizing best with
  | nil => simpa using h
  | cons first names ih =>
    refine ih (.inl ?_)
    cases best <;> simp [longer]
    split <;> simp

/-- The spelling that the scanner takes is the longest that fits. -/
lemma spellingAt?_eq_some_iff {spellings : List String} {cs : List Char} {name : String} :
    spellingAt? spellings cs = some name ↔ SpelledAt spellings cs name ∧
      ∀ other, SpelledAt spellings cs other → other.length ≤ name.length := by
  simp only [← spellingFits_iff, spellingAt?]
  constructor
  · intro h
    obtain ⟨hmem, hlen, -⟩ := foldl_longer h
    exact ⟨by simpa using hmem, hlen⟩
  · rintro ⟨hmem, hlen⟩
    have hsome : ((spellings.filter (spellingFits cs)).foldl longer none).isSome = true :=
      foldl_longer_isSome (.inr (List.ne_nil_of_mem hmem))
    obtain ⟨found, hfound⟩ := Option.isSome_iff_exists.mp hsome
    obtain ⟨hfmem, hflen, -⟩ := foldl_longer hfound
    have hf := spellingFits_iff.mp (by simpa using hfmem)
    have hn := spellingFits_iff.mp hmem
    have hsame : found.toList.length = name.toList.length := by
      simp only [String.length_toList]
      exact Nat.le_antisymm (hlen found (by simpa using hfmem)) (hflen name hmem)
    have heq : found.toList = name.toList :=
      (List.prefix_of_prefix_length_le hf.front hn.front hsame.le).eq_of_length hsame
    rw [hfound, String.toList_inj.mp heq]

/-- A plain spelling in the text does not reach beyond one with a boundary behind it. -/
lemma SpelledAt.length_le {spellings : List String} {cs : List Char} {s t : String}
    (h : SpelledAt spellings cs s) (ht : IsPlain t) (hf : t.toList <+: cs) :
    t.length ≤ s.length := by
  by_contra hlt
  obtain ⟨more, rfl⟩ := hf
  have hlt' : s.length < t.toList.length := by rw [String.length_toList]; omega
  have hdrop : (t.toList ++ more).drop s.length =
      t.toList[s.length] :: (t.toList.drop (s.length + 1) ++ more) := by
    rw [List.drop_append_of_le_length hlt'.le, List.drop_eq_getElem_cons hlt', List.cons_append]
  obtain ⟨hblank, hcolon, -, hclose⟩ := ht _ (List.getElem_mem hlt')
  have hends := h.ends
  rw [hdrop] at hends
  rcases hends with ⟨c, rest, hcs, hc⟩ | ⟨rest, hcs⟩
  · obtain ⟨rfl, -⟩ := List.cons.inj hcs
    rcases hc with hc | hc
    · simp [hblank] at hc
    · exact hcolon hc
  · exact hclose (List.cons.inj hcs).1

/-- Only one plain spelling fits at a place. -/
lemma SpelledAt.unique {spellings spellings' : List String} {cs : List Char} {s t : String}
    (hs : IsPlain s) (ht : IsPlain t) (h : SpelledAt spellings cs s)
    (h' : SpelledAt spellings' cs t) : s = t := by
  have hle := h.length_le ht h'.front
  have hge := h'.length_le hs h.front
  have hsame : s.toList.length = t.toList.length := by
    simp only [String.length_toList]
    omega
  exact String.toList_inj.mp
    ((List.prefix_of_prefix_length_le h.front h'.front hsame.le).eq_of_length hsame)

lemma reads_iff_occursIn {spellings : List String} (hs : ∀ s ∈ spellings, IsPlain s)
    {text : List Char} {last : Nat} {m : Occurrence} :
    Reads spellings text last m ↔ OccursIn spellings text last m := by
  refine ⟨fun h => h.1, fun h => ⟨h, fun name hn => ?_⟩⟩
  exact h.spelled.length_le (hs name hn.mem) hn.front

/-! ## Occurrences from their opening markers on -/

lemma slice_eq_drop_take {text rest : List Char} {start n k : Nat}
    (h : text.drop (start + 2) = rest) :
    slice text (start + 2 + k) (start + n + 4 - 2) = (rest.take n).drop k := by
  rw [slice, ← List.drop_drop, h, List.drop_take]
  congr 1
  omega

/-- What the scanner reads at an opening marker is what stands there. -/
lemma openedAt?_sound {spellings : List String} {text : List Char} {start limit : Nat} {o : Opened}
    (h : openedAt? spellings limit (text.drop start) = some o) :
    Reads spellings text (start + limit) (o.toOccurrence start (text.drop start)) := by
  unfold openedAt? at h
  split at h
  · rename_i rest hdrop
    have hrest : text.drop (start + 2) = rest := by rw [← List.drop_drop, hdrop]; rfl
    split at h
    · rename_i name inside hname hinside
      obtain ⟨header, hheader, rfl⟩ := Option.map_eq_some_iff.mp h
      obtain ⟨hspelled, hlongest⟩ := spellingAt?_eq_some_iff.mp hname
      obtain ⟨hclose, hlimit⟩ := closeAt?_take.mp hinside
      refine ⟨⟨⟨rest, hdrop⟩, by rwa [Opened.toOccurrence, hrest], ⟨inside, ?_, rfl⟩, ?_, ?_, ?_,
        rfl⟩, by rwa [Opened.toOccurrence, hrest]⟩
      · rw [Opened.toOccurrence, hrest]
        exact (closeAt?_eq_some_iff le_rfl).mp hclose
      · simp only [Opened.toOccurrence]
        omega
      · simp only [Opened.toOccurrence]
        rw [slice_eq_drop_take hrest]
        exact hheader
      · simp only [Opened.toOccurrence, slice]
        congr 2
        omega
    · simp at h
  · simp at h

/-- What stands at an opening marker is read by the scanner. -/
lemma openedAt?_complete {spellings : List String} {text : List Char} {last : Nat} {m : Occurrence}
    (h : Reads spellings text last m) :
    ∃ o, openedAt? spellings (last - m.start) (text.drop m.start) = some o ∧
      m = o.toOccurrence m.start (text.drop m.start) := by
  obtain ⟨⟨⟨rest, hdrop⟩, hspelled, ⟨n, hn, hstop⟩, hwithin, hheader, htext, hdirect⟩, hlongest⟩ :=
    h
  have hrest : text.drop (m.start + 2) = rest := by rw [← List.drop_drop, hdrop]; rfl
  rw [hrest] at hspelled hlongest hn
  have hname : spellingAt? spellings rest = some m.name :=
    spellingAt?_eq_some_iff.mpr ⟨hspelled, hlongest⟩
  have hclose : closeAt? 1 (rest.take (last - m.start - 2)) = some n :=
    closeAt?_take.mpr ⟨(closeAt?_eq_some_iff le_rfl).mpr hn, by omega⟩
  rw [hstop, slice_eq_drop_take hrest] at hheader
  refine ⟨⟨m.name, ⟨m.params, m.flags, m.body⟩, n⟩, ?_, ?_⟩
  · simp [openedAt?, hdrop, hname, hclose, hheader]
  · cases m
    simp only [Opened.toOccurrence, Occurrence.mk.injEq]
    simp only at hstop htext hdirect
    refine ⟨?_, trivial, by omega, trivial, trivial, trivial, trivial, hdirect⟩
    rw [htext, slice, hstop]
    congr 2
    omega

lemma Reads.within {spellings : List String} {text : List Char} {last last' : Nat}
    {m : Occurrence} (h : Reads spellings text last m) (hle : m.stop ≤ last') :
    Reads spellings text last' m :=
  ⟨{ h.1 with within := hle }, h.2⟩

/-- Two occurrences that start at one place are the same. -/
lemma Reads.eq_of_start {spellings : List String} {text : List Char} {last last' : Nat}
    {m m' : Occurrence} (h : Reads spellings text last m) (h' : Reads spellings text last' m')
    (hstart : m.start = m'.start) : m = m' := by
  have hw : Reads spellings text (max last last') m :=
    h.within (h.1.within.trans (le_max_left _ _))
  have hw' : Reads spellings text (max last last') m' :=
    h'.within (h'.1.within.trans (le_max_right _ _))
  obtain ⟨o, ho, hm⟩ := openedAt?_complete hw
  obtain ⟨o', ho', hm'⟩ := openedAt?_complete hw'
  rw [hstart, ho', Option.some.injEq] at ho
  rw [hm, hm', ho, hstart]

/-! ## The scan of a region -/

/-- What a scan from `first` on may give: nothing if no occurrence starts there, else the leftmost
one or, inwards, the last of the chain that it begins. -/
def Found (occurs : Nat → Occurrence → Prop) (innermost : Bool) (first last : Nat) :
    Option Occurrence → Prop
  | none => ∀ m, occurs last m → m.start < first
  | some m => ∃ outer, Leftmost (occurs last) first outer ∧
      if innermost then Relation.ReflTransGen (Inside occurs) outer m ∧ IsInnermost occurs m
      else m = outer

lemma OccursIn.start_add_four_le {spellings : List String} {text : List Char} {last : Nat}
    {m : Occurrence}
    (h : OccursIn spellings text last m) : m.start + 4 ≤ m.stop := by
  obtain ⟨n, -, hn⟩ := h.closed
  omega

lemma OccursIn.stop_le {spellings : List String} {text : List Char} {last : Nat} {m : Occurrence}
    (h : OccursIn spellings text last m) : m.stop ≤ text.length := by
  obtain ⟨n, hn, hstop⟩ := h.closed
  have hle := closeAt?_le ((closeAt?_eq_some_iff le_rfl).mpr hn)
  rw [List.length_drop] at hle
  omega

lemma leftmost_of_start {occurs : Occurrence → Prop} {m : Occurrence} (h : occurs m) :
    Leftmost occurs m.start m :=
  ⟨h, le_rfl, fun _ _ hle => hle⟩

/-- A place where no occurrence starts may be passed over. -/
lemma Found.of_succ {occurs : Nat → Occurrence → Prop} {innermost : Bool} {first last : Nat}
    {found : Option Occurrence} (h : Found occurs innermost (first + 1) last found)
    (hnone : ∀ m, occurs last m → m.start ≠ first) : Found occurs innermost first last found := by
  cases found with
  | none =>
    intro m hm
    have hlt := h m hm
    have hne := hnone m hm
    omega
  | some m =>
    obtain ⟨outer, ⟨hocc, hfirst, hleast⟩, hchain⟩ := h
    refine ⟨outer, ⟨hocc, by omega, fun m' hm' hle => hleast m' hm' ?_⟩, hchain⟩
    have hne := hnone m' hm'
    omega

theorem scan_found {spellings : List String} {innermost : Bool} {start limit : Nat}
    {text cs : List Char} (hcs : text.drop start = cs) :
    Found (Reads spellings text) innermost start (start + limit)
      (scan spellings innermost start limit cs) := by
  fun_induction scan spellings innermost start limit cs with
  | case1 start limit c d rest hlimit =>
    intro m hm
    have hlt := hm.1.start_add_four_le
    have hw := hm.1.within
    omega
  | case2 start limit c d rest hlimit o ho nested hnested ih =>
    obtain ⟨hin, hnested⟩ : innermost = true ∧ scan spellings innermost (start + 2) o.inside rest =
        some nested := by
      split at hnested
      · exact ⟨‹_›, hnested⟩
      · simp at hnested
    have hread := openedAt?_sound (hcs.symm ▸ ho)
    have hrest : text.drop (start + 2) = rest := by rw [← List.drop_drop, hcs]; rfl
    have hfound := ih hrest
    rw [hnested] at hfound
    obtain ⟨inner, hinner, hchain⟩ := hfound
    rw [if_pos hin] at hchain
    refine ⟨_, leftmost_of_start hread, ?_⟩
    rw [if_pos hin]
    refine ⟨.head ?_ hchain.1, hchain.2⟩
    have hstop : start + o.inside + 4 - 2 = start + 2 + o.inside := by omega
    simpa only [Inside, Opened.toOccurrence, hstop] using hinner
  | case3 start limit c d rest hlimit o ho hnested ih =>
    have hread := openedAt?_sound (hcs.symm ▸ ho)
    have hrest : text.drop (start + 2) = rest := by rw [← List.drop_drop, hcs]; rfl
    rw [← hcs]
    refine ⟨_, leftmost_of_start hread, ?_⟩
    split
    · rename_i hin
      rw [if_pos hin] at hnested
      have hfound := ih hrest
      rw [hnested] at hfound
      have hstop : start + o.inside + 4 - 2 = start + 2 + o.inside := by omega
      refine ⟨.refl, ?_⟩
      simpa only [IsInnermost, Opened.toOccurrence, hstop, Found] using hfound
    · rfl
  | case4 start limit c d rest hlimit ho ih =>
    have hrest : text.drop (start + 1) = d :: rest := by rw [← List.drop_drop, hcs]; rfl
    have hlast : start + 1 + (limit - 1) = start + limit := by omega
    have hnone : ∀ m, Reads spellings text (start + limit) m → m.start ≠ start := by
      rintro m hm rfl
      obtain ⟨o, hread, -⟩ := openedAt?_complete hm
      rw [Nat.add_sub_cancel_left, hcs, ho] at hread
      simp at hread
    have hfound := ih hrest
    rw [hlast] at hfound
    exact hfound.of_succ hnone
  | case5 cs start limit hshort =>
    intro m hm
    by_contra hge
    obtain ⟨tail, htail⟩ := hm.1.opened
    have hlen := congrArg List.length htail
    simp only [List.length_drop, List.length_cons] at hlen
    have hcslen := congrArg List.length hcs
    rw [List.length_drop] at hcslen
    match cs with
    | [] => simp at hcslen; omega
    | [c] => simp at hcslen; omega
    | c :: d :: rest => exact hshort c d rest rfl

/-- A region that reaches beyond the text holds what the text holds. -/
lemma reads_length_iff {spellings : List String} {text : List Char} {last : Nat} {m : Occurrence}
    (h : text.length ≤ last) :
    Reads spellings text last m ↔ Reads spellings text text.length m :=
  ⟨fun hm => hm.within hm.1.stop_le, fun hm => hm.within (hm.1.stop_le.trans h)⟩

theorem find?_found (spellings : List String) (innermost : Bool) (start : Nat) (text : List Char) :
    Found (Reads spellings text) innermost start text.length
      (find? spellings innermost start text) := by
  have hfound : Found (Reads spellings text) innermost start (start + (text.length - start))
      (scan spellings innermost start (text.length - start) (text.drop start)) := scan_found rfl
  have hregion : Reads spellings text (start + (text.length - start)) =
      Reads spellings text text.length :=
    funext fun m => propext (reads_length_iff (by omega))
  unfold find?
  generalize scan spellings innermost start (text.length - start) (text.drop start) = found
    at hfound ⊢
  cases found with
  | none =>
    intro m hm
    exact hfound m (by rwa [hregion])
  | some m =>
    obtain ⟨outer, houter, hchain⟩ := hfound
    exact ⟨outer, by rwa [hregion] at houter, hchain⟩

/-- All links of a chain are read in the text, behind where it begins. -/
lemma chain_reads {spellings : List String} {text : List Char} {outer m : Occurrence}
    (houter : Reads spellings text text.length outer)
    (h : Relation.ReflTransGen (Inside (Reads spellings text)) outer m) :
    Reads spellings text text.length m ∧ outer.start ≤ m.start := by
  induction h with
  | refl => exact ⟨houter, le_rfl⟩
  | tail _ hinside ih =>
    obtain ⟨hread, hle, -⟩ := hinside
    exact ⟨hread.within hread.1.stop_le, by omega⟩

/-- What the scanner gives stands in the text, at or after where it was searched from. -/
theorem find?_reads {spellings : List String} {innermost : Bool} {start : Nat} {text : List Char}
    {m : Occurrence} (h : find? spellings innermost start text = some m) :
    Reads spellings text text.length m ∧ start ≤ m.start := by
  obtain ⟨outer, houter, hchain⟩ := h ▸ find?_found spellings innermost start text
  cases innermost with
  | false =>
    obtain rfl : m = outer := by simpa using hchain
    exact ⟨houter.1, houter.2.1⟩
  | true =>
    obtain ⟨hread, hle⟩ := chain_reads houter.1 (by simpa using hchain.1)
    exact ⟨hread, houter.2.1.trans hle⟩

lemma find?_bounds {spellings : List String} {innermost : Bool} {start : Nat} {text : List Char}
    {m : Occurrence} (h : find? spellings innermost start text = some m) :
    start + 4 ≤ m.stop ∧ m.stop ≤ text.length := by
  obtain ⟨hread, hle⟩ := find?_reads h
  have hlt := hread.1.start_add_four_le
  exact ⟨by omega, hread.1.within⟩

/-! ## One answer for each search -/

section Unique

variable {occurs : Nat → Occurrence → Prop}
  (hunique : ∀ last last' m m', occurs last m → occurs last' m' → m.start = m'.start → m = m')
include hunique

lemma Leftmost.unique {first last : Nat} {m m' : Occurrence} (h : Leftmost (occurs last) first m)
    (h' : Leftmost (occurs last) first m') : m = m' :=
  hunique last last m m' h.1 h'.1
    (Nat.le_antisymm (h.2.2 m' h'.1 h'.2.1) (h'.2.2 m h.1 h.2.1))

/-- A chain inwards has one end. -/
lemma chain_end_unique {outer m m' : Occurrence}
    (h : Relation.ReflTransGen (Inside occurs) outer m) (hm : IsInnermost occurs m)
    (h' : Relation.ReflTransGen (Inside occurs) outer m') (hm' : IsInnermost occurs m') :
    m = m' := by
  have hstuck : ∀ a b, IsInnermost occurs a → Relation.ReflTransGen (Inside occurs) a b →
      a = b := by
    intro a b ha hab
    rcases hab.cases_head with rfl | ⟨c, hac, -⟩
    · rfl
    · have hlt := ha c hac.1
      have hle := hac.2.1
      omega
  have hright : Relator.RightUnique (Inside occurs) := fun a b c hab hac =>
    Leftmost.unique hunique hab hac
  rcases h.total_of_right_unique hright h' with hmm | hmm
  · exact hstuck m m' hm hmm
  · exact (hstuck m' m hm' hmm).symm

lemma Found.eq_some_iff {innermost : Bool} {first last : Nat} {found : Option Occurrence}
    (h : Found occurs innermost first last found) {m : Occurrence} :
    found = some m ↔ Found occurs innermost first last (some m) := by
  constructor
  · rintro rfl
    exact h
  · rintro ⟨outer, houter, hchain⟩
    cases found with
    | none =>
      have hlt := h outer houter.1
      have hle := houter.2.1
      omega
    | some m' =>
      obtain ⟨outer', houter', hchain'⟩ := h
      obtain rfl := Leftmost.unique hunique houter houter'
      split at hchain
      · rename_i hin
        rw [if_pos hin] at hchain'
        rw [chain_end_unique hunique hchain.1 hchain.2 hchain'.1 hchain'.2]
      · rename_i hin
        rw [if_neg hin] at hchain'
        rw [hchain, hchain']

end Unique

lemma Found.eq_none_iff {occurs : Nat → Occurrence → Prop} {innermost : Bool} {first last : Nat}
    {found : Option Occurrence} (h : Found occurs innermost first last found) :
    found = none ↔ ∀ m, occurs last m → m.start < first := by
  constructor
  · rintro rfl
    exact h
  · intro hnone
    cases found with
    | none => rfl
    | some m =>
      obtain ⟨outer, houter, -⟩ := h
      have hlt := hnone outer houter.1
      have hle := houter.2.1
      omega

section Search

variable {spellings : List String} {text : List Char} {start : Nat} {m : Occurrence}

lemma find?_false_iff : find? spellings false start text = some m ↔
    Leftmost (Reads spellings text text.length) start m := by
  rw [(find?_found spellings false start text).eq_some_iff fun _ _ _ _ => Reads.eq_of_start]
  simp [Found]

lemma find?_true_iff : find? spellings true start text = some m ↔
    ∃ outer, Leftmost (Reads spellings text text.length) start outer ∧
      Relation.ReflTransGen (Inside (Reads spellings text)) outer m ∧
      IsInnermost (Reads spellings text) m := by
  rw [(find?_found spellings true start text).eq_some_iff fun _ _ _ _ => Reads.eq_of_start]
  simp [Found]

lemma find?_none_iff {innermost : Bool} : find? spellings innermost start text = none ↔
    ∀ m, Reads spellings text text.length m → m.start < start :=
  (find?_found spellings innermost start text).eq_none_iff

end Search

/-- The scanner misses and invents nothing: from a position on it finds the leftmost occurrence or,
inwards, the last of the chain that begins there; it finds none only where there is none; and what
it gives is what stands in the text. -/
theorem find?_exact {spellings : List String} (hs : ∀ s ∈ spellings, IsPlain s)
    (text : List Char) (start : Nat) :
    (∀ m, find? spellings false start text = some m ↔
      Leftmost (OccursIn spellings text text.length) start m) ∧
    (∀ m, find? spellings true start text = some m ↔
      ∃ outer, Leftmost (OccursIn spellings text text.length) start outer ∧
        Relation.ReflTransGen (Inside (OccursIn spellings text)) outer m ∧
        IsInnermost (OccursIn spellings text) m) ∧
    (∀ innermost, find? spellings innermost start text = none ↔
      ∀ m, OccursIn spellings text text.length m → m.start < start) ∧
    ∀ innermost m, find? spellings innermost start text = some m →
      OccursIn spellings text text.length m ∧ start ≤ m.start := by
  have hreads : Reads spellings text = OccursIn spellings text :=
    funext fun last => funext fun m => propext (reads_iff_occursIn hs)
  rw [← hreads]
  exact ⟨fun m => find?_false_iff, fun m => find?_true_iff, fun innermost => find?_none_iff,
    fun innermost m hm => find?_reads hm⟩

/-- A third brace before a nested opening marker does not hide it. -/
theorem find?_exact_third_brace : (∀ s ∈ ["d"], IsPlain s) ∧
    ∃ outer,
      Leftmost (OccursIn ["d"] "\x7b\x7bd:\x7b\x7b\x7bd\x7d\x7d\x7d\x7d".toList 12) 0 outer ∧
      Relation.ReflTransGen
        (Inside (OccursIn ["d"] "\x7b\x7bd:\x7b\x7b\x7bd\x7d\x7d\x7d\x7d".toList)) outer
        ⟨"\x7b\x7bd\x7d\x7d", 5, 10, "d", [], [], none, none⟩ := by
  have hplain : ∀ s ∈ ["d"], IsPlain s := by decide
  obtain ⟨-, hinward, -, -⟩ :=
    find?_exact hplain "\x7b\x7bd:\x7b\x7b\x7bd\x7d\x7d\x7d\x7d".toList 0
  obtain ⟨outer, houter, hchain, -⟩ :=
    (hinward ⟨"\x7b\x7bd\x7d\x7d", 5, 10, "d", [], [], none, none⟩).mp rfl
  exact ⟨hplain, outer, houter, hchain⟩

end Pinboard.Markup
