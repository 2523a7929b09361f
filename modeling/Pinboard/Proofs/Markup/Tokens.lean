import Mathlib.Data.List.TakeWhile
import Pinboard.Proofs.Markup.Patterns
import Pinboard.Proofs.Markup.Rendering

/-!
# The grammar of headers

The tokens of a header from left to right. At each place a blank is preferred to a colon, which ends
the header, a colon to a parameter and a parameter to a flag; keys, values and flags are as long as
they can be. Every header is cut into tokens in just one way, up to its end, to its body or to a
place where no token fits, and it is read so.
-/
namespace Pinboard.Markup

/-- The longest front of a text among those of a kind. -/
def Longest (kind : List Char → Prop) (text front : List Char) : Prop :=
  (front <+: text ∧ kind front) ∧
    ∀ other, other <+: text → kind other → other.length ≤ front.length

/-- All characters belong to a class. -/
def RunOf (p : Char → Bool) (cs : List Char) : Prop := ∀ c ∈ cs, p c = true

/-- A quote stands at the front and is closed later on. -/
def QuotedBy (q : Char) (text : List Char) : Prop :=
  ∃ content rest, q ∉ content ∧ text = q :: (content ++ q :: rest)

/-- The value at the front of a text, with what follows it: between double quotes, else between
single ones, else the longest run of characters that need no quotes, which may be empty. -/
inductive ValueAt : List Char → Value → List Char → Prop
  | double {content rest : List Char} (h : '"' ∉ content) :
      ValueAt ('"' :: (content ++ '"' :: rest)) (.quoted '"' content) rest
  | single {content rest : List Char} (h : '\'' ∉ content) :
      ValueAt ('\'' :: (content ++ '\'' :: rest)) (.quoted '\'' content) rest
  | bare {run rest : List Char} (hdouble : ¬QuotedBy '"' (run ++ rest))
      (hsingle : ¬QuotedBy '\'' (run ++ rest))
      (hrun : Longest (RunOf isBareChar) (run ++ rest) run) :
      ValueAt (run ++ rest) (.bare run) rest

/-- The parameter at the front of a text: the longest key that an equals sign follows, and the value
behind the sign. -/
inductive ParamAt : List Char → Token → List Char → Prop
  | intro {key after rest : List Char} {value : Value}
      (hkey : Longest (fun key' => isKey key' = true ∧ key' ++ ['='] <+: key ++ '=' :: after)
        (key ++ '=' :: after) key)
      (hvalue : ValueAt after value rest) :
      ParamAt (key ++ '=' :: after) (.param key value) rest

/-- The flag at the front of a text. -/
inductive FlagAt : List Char → Token → List Char → Prop
  | intro {word rest : List Char} (hne : word ≠ [])
      (hword : Longest (RunOf isFlagChar) (word ++ rest) word) :
      FlagAt (word ++ rest) (.flag word) rest

/-- The token at the front of a text: a blank, else a parameter, else a flag. -/
inductive TokenAt : List Char → Token → List Char → Prop
  | blank {c : Char} {rest : List Char} (hblank : Text.isBlank c = true) :
      TokenAt (c :: rest) (.blank c) rest
  | param {c : Char} {cs rest : List Char} {token : Token} (hblank : Text.isBlank c = false)
      (hparam : ParamAt (c :: cs) token rest) :
      TokenAt (c :: cs) token rest
  | flag {c : Char} {cs rest : List Char} {token : Token} (hblank : Text.isBlank c = false)
      (hparam : ∀ token rest, ¬ParamAt (c :: cs) token rest) (hflag : FlagAt (c :: cs) token rest) :
      TokenAt (c :: cs) token rest

/-- How the tokens of a header end. -/
inductive Ending where
  /-- Nothing is left. -/
  | whole
  /-- A colon stands before a body. -/
  | body (text : List Char)
  /-- No token fits. -/
  | stuck (text : List Char)
  deriving DecidableEq, Repr

/-- The characters behind the tokens. -/
def Ending.chars : Ending → List Char
  | .whole => []
  | .body text => ':' :: text
  | .stuck text => text

/-- The body, or that there is none, unless the header is stuck. -/
def Ending.body? : Ending → Option (Option (List Char))
  | .whole => some none
  | .body text => some (some text)
  | .stuck _ => none

/-- The tokens of a header up to its end, to the colon before its body or to where it is stuck. -/
inductive Tokenised : List Char → List Token → Ending → Prop
  | whole : Tokenised [] [] .whole
  | body (text : List Char) : Tokenised (':' :: text) [] (.body text)
  | token {c : Char} {cs rest : List Char} {token : Token} {tokens : List Token} {ending : Ending}
      (hcolon : c ≠ ':') (htoken : TokenAt (c :: cs) token rest)
      (hrest : Tokenised rest tokens ending) :
      Tokenised (c :: cs) (token :: tokens) ending
  | stuck {c : Char} {cs : List Char} (hcolon : c ≠ ':')
      (hnone : ∀ token rest, ¬TokenAt (c :: cs) token rest) :
      Tokenised (c :: cs) [] (.stuck (c :: cs))

/-! ## Runs -/

lemma runOf_takeWhile (p : Char → Bool) (cs : List Char) : RunOf p (cs.takeWhile p) :=
  fun _ hc => List.mem_takeWhile_imp hc

lemma longest_takeWhile (p : Char → Bool) (text : List Char) :
    Longest (RunOf p) text (text.takeWhile p) := by
  refine ⟨⟨List.takeWhile_prefix p, runOf_takeWhile p text⟩, ?_⟩
  rintro other ⟨more, rfl⟩ hother
  rw [List.takeWhile_append_of_pos hother, List.length_append]
  omega

lemma longest_unique {kind : List Char → Prop} {text front front' : List Char}
    (h : Longest kind text front) (h' : Longest kind text front') : front = front' := by
  have hlength : front.length = front'.length :=
    Nat.le_antisymm (h'.2 front h.1.1 h.1.2) (h.2 front' h'.1.1 h'.1.2)
  exact (List.prefix_of_prefix_length_le h.1.1 h'.1.1 hlength.le).eq_of_length hlength

/-- A text is cut at the end of its longest run. -/
lemma longest_append_iff {p : Char → Bool} {run rest : List Char} :
    Longest (RunOf p) (run ++ rest) run ↔
      (run ++ rest).takeWhile p = run ∧ (run ++ rest).dropWhile p = rest := by
  constructor
  · intro h
    have hrun := longest_unique (longest_takeWhile p (run ++ rest)) h
    refine ⟨hrun, ?_⟩
    have hall := List.takeWhile_append_dropWhile (p := p) (l := run ++ rest)
    rwa [hrun, List.append_cancel_left_eq] at hall
  · rintro ⟨hrun, -⟩
    have h := longest_takeWhile p (run ++ rest)
    rwa [hrun] at h

/-! ## Values -/

lemma quotedBy_of_dropWhile {q d : Char} {cs rest : List Char}
    (h : cs.dropWhile (· != q) = d :: rest) : QuotedBy q (q :: cs) := by
  obtain rfl := (eq_of_dropWhile_ne h).symm
  refine ⟨cs.takeWhile (· != q), rest, fun hq => ?_, ?_⟩
  · simpa using runOf_takeWhile (· != q) cs q hq
  · have hall := List.takeWhile_append_dropWhile (p := (· != q)) (l := cs)
    rw [h] at hall
    rw [hall]

lemma takeValue_bare {text : List Char} (hdouble : ¬QuotedBy '"' text)
    (hsingle : ¬QuotedBy '\'' text) : takeValue text = takeBare text := by
  cases text with
  | nil => rfl
  | cons q cs =>
    rw [takeValue]
    split
    · rename_i hq
      split
      · rename_i hdrop
        have hquoted := quotedBy_of_dropWhile hdrop
        obtain rfl | rfl : q = '"' ∨ q = '\'' := by simpa [isQuote] using hq
        · exact absurd hquoted hdouble
        · exact absurd hquoted hsingle
      · rfl
    · rfl

lemma valueAt_iff {text rest : List Char} {value : Value} :
    ValueAt text value rest ↔ takeValue text = (value, rest) := by
  constructor
  · intro h
    cases h with
    | double hcontent => exact takeValue_quoted rfl hcontent rest
    | single hcontent => exact takeValue_quoted rfl hcontent rest
    | bare hdouble hsingle hrun =>
      obtain ⟨hrun, hrest⟩ := longest_append_iff.mp hrun
      rw [takeValue_bare hdouble hsingle, takeBare, hrun, hrest]
  · intro h
    by_cases hdouble : QuotedBy '"' text
    · obtain ⟨content, more, hcontent, rfl⟩ := hdouble
      obtain ⟨rfl, rfl⟩ := Prod.mk.inj ((takeValue_quoted rfl hcontent more).symm.trans h)
      exact .double hcontent
    by_cases hsingle : QuotedBy '\'' text
    · obtain ⟨content, more, hcontent, rfl⟩ := hsingle
      obtain ⟨rfl, rfl⟩ := Prod.mk.inj ((takeValue_quoted rfl hcontent more).symm.trans h)
      exact .single hcontent
    · rw [takeValue_bare hdouble hsingle, takeBare] at h
      obtain ⟨rfl, rfl⟩ := Prod.mk.inj h
      have hall := List.takeWhile_append_dropWhile (p := isBareChar) (l := text)
      rw [← hall] at hdouble hsingle
      have hvalue := ValueAt.bare hdouble hsingle (by rw [hall]; exact longest_takeWhile _ _)
      rwa [hall] at hvalue

/-! ## Parameters and flags -/

/-- Keys hold no equals sign, so a key that one follows is all that stands before it. -/
lemma key_of_front {c : Char} {cs key : List Char} (hkey : isKey key = true)
    (hfront : key ++ ['='] <+: c :: cs) :
    isKeyStart c = true ∧ key = c :: cs.takeWhile isKeyChar ∧
      ∃ after, cs.dropWhile isKeyChar = '=' :: after := by
  cases key with
  | nil => cases hkey
  | cons k ks =>
    obtain ⟨more, hmore⟩ := hfront
    obtain ⟨rfl, hcs⟩ := List.cons.inj hmore
    simp only [isKey, Bool.and_eq_true, List.all_eq_true] at hkey
    have hstop : isKeyChar '=' = false := by decide
    have hcs : ks ++ '=' :: more = cs := by simpa using hcs
    rw [← hcs, List.takeWhile_append_of_pos hkey.2, List.dropWhile_append_of_pos hkey.2]
    simp [hstop, hkey.1]

lemma longest_key {c : Char} {cs after : List Char} (hstart : isKeyStart c = true)
    (hafter : cs.dropWhile isKeyChar = '=' :: after) :
    Longest (fun key => isKey key = true ∧ key ++ ['='] <+: c :: cs) (c :: cs)
      (c :: cs.takeWhile isKeyChar) := by
  have hall : cs.takeWhile isKeyChar ++ '=' :: after = cs := by
    rw [← hafter]
    exact List.takeWhile_append_dropWhile
  refine ⟨⟨⟨'=' :: after, ?_⟩, ?_, ⟨after, ?_⟩⟩, fun other _ hother => ?_⟩
  · rw [List.cons_append, hall]
  · simp only [isKey, hstart, Bool.true_and, List.all_eq_true]
    exact runOf_takeWhile isKeyChar cs
  · rw [List.append_assoc, List.cons_append, List.singleton_append, hall]
  · rw [(key_of_front hother.1 hother.2).2.1]

lemma takeParam?_eq_some_iff {text rest : List Char} {token : Token} :
    takeParam? text = some (token, rest) ↔ ParamAt text token rest := by
  constructor
  · intro h
    cases text with
    | nil => cases h
    | cons c cs =>
      rw [takeParam?] at h
      split at h
      · rename_i hstart
        split at h
        · rename_i after hafter
          obtain ⟨rfl, rfl⟩ := Prod.mk.inj (Option.some.inj h)
          have hlongest := longest_key hstart hafter
          have htext : c :: cs = (c :: cs.takeWhile isKeyChar) ++ '=' :: after := by
            rw [List.cons_append, ← hafter, List.takeWhile_append_dropWhile]
          rw [htext] at hlongest ⊢
          exact .intro hlongest (valueAt_iff.mpr rfl)
        · cases h
      · cases h
  · rintro ⟨hkey, hvalue⟩
    rename_i key after value
    have hkind := hkey.1.2.1
    cases key with
    | nil => cases hkind
    | cons c ks =>
      simp only [isKey, Bool.and_eq_true, List.all_eq_true] at hkind
      obtain ⟨hstart, hinside⟩ := hkind
      have hstop : isKeyChar '=' = false := by decide
      simp [takeParam?, hstart, List.takeWhile_append_of_pos hinside,
        List.dropWhile_append_of_pos hinside, hstop, valueAt_iff.mp hvalue]

lemma takeFlag?_eq_some_iff {text rest : List Char} {token : Token} :
    takeFlag? text = some (token, rest) ↔ FlagAt text token rest := by
  have hall := List.takeWhile_append_dropWhile (p := isFlagChar) (l := text)
  constructor
  · intro h
    rw [takeFlag?] at h
    split at h
    · cases h
    · rename_i hne
      obtain ⟨rfl, rfl⟩ := Prod.mk.inj (Option.some.inj h)
      have hflag := FlagAt.intro hne (by rw [hall]; exact longest_takeWhile isFlagChar text)
      rwa [hall] at hflag
  · rintro ⟨hne, hword⟩
    rename_i word
    obtain ⟨hrun, hrest⟩ := longest_append_iff.mp hword
    rw [takeFlag?, hrun, hrest]
    cases word with
    | nil => exact absurd rfl hne
    | cons c cs => rfl

/-! ## Tokens -/

lemma takeToken?_eq_some_iff {text rest : List Char} {token : Token} :
    takeToken? text = some (token, rest) ↔ TokenAt text token rest := by
  cases text with
  | nil => exact ⟨fun h => (nomatch h), fun h => (nomatch h)⟩
  | cons c cs =>
    rw [takeToken?]
    constructor
    · intro h
      split at h
      · rename_i hblank
        obtain ⟨rfl, rfl⟩ := Prod.mk.inj (Option.some.inj h)
        exact .blank hblank
      · rename_i hblank
        have hblank := Bool.eq_false_iff.mpr hblank
        split at h
        · rename_i found hparam
          obtain rfl : found = (token, rest) := Option.some.inj h
          exact .param hblank (takeParam?_eq_some_iff.mp hparam)
        · rename_i hnone
          refine .flag hblank (fun token' rest' hparam => ?_) (takeFlag?_eq_some_iff.mp h)
          cases hnone.symm.trans (takeParam?_eq_some_iff.mpr hparam)
    · intro h
      cases h with
      | blank hblank => rw [if_pos hblank]
      | param hblank hparam => simp [hblank, takeParam?_eq_some_iff.mpr hparam]
      | flag hblank hparam hflag =>
        have hnone : takeParam? (c :: cs) = none :=
          Option.eq_none_iff_forall_ne_some.mpr fun found hsome =>
            hparam found.1 found.2 (takeParam?_eq_some_iff.mp hsome)
        simp [hblank, hnone, takeFlag?_eq_some_iff.mpr hflag]

lemma takeToken?_eq_none_iff {text : List Char} :
    takeToken? text = none ↔ ∀ token rest, ¬TokenAt text token rest := by
  rw [Option.eq_none_iff_forall_ne_some, Prod.forall]
  exact forall₂_congr fun token rest => not_congr takeToken?_eq_some_iff

/-- Where no token fits, an equals sign or a quote stands. -/
lemma head_of_takeToken? {c : Char} {cs : List Char} (hcolon : c ≠ ':')
    (h : takeToken? (c :: cs) = none) : c = '=' ∨ isQuote c = true := by
  rw [takeToken?] at h
  split at h
  · cases h
  rename_i hblank
  split at h
  · cases h
  rw [takeFlag?] at h
  split at h
  · rename_i hword
    have hflag : isFlagChar c = false := by
      rw [Bool.eq_false_iff]
      intro hc
      rw [List.takeWhile_cons_of_pos hc] at hword
      cases hword
    by_contra hother
    simp only [not_or, Bool.not_eq_true] at hother
    simp [isFlagChar, isBareChar, hblank, hcolon, hother] at hflag
  · cases h

/-- A token takes something. -/
lemma length_lt_of_takeToken? {text rest : List Char} {token : Token}
    (h : takeToken? text = some (token, rest)) : rest.length < text.length := by
  cases text with
  | nil => cases h
  | cons c cs =>
    rw [takeToken?] at h
    split at h
    · obtain ⟨-, rfl⟩ := Prod.mk.inj (Option.some.inj h)
      exact Nat.lt_succ_self _
    · split at h
      · rename_i found hparam
        obtain rfl : found = (token, rest) := Option.some.inj h
        have hfirst := first?_paramPattern (c :: cs)
        rw [hparam] at hfirst
        exact Pattern.length_lt_of_first? (by decide) hfirst
      · have hfirst := first?_flagPattern (c :: cs)
        rw [h] at hfirst
        exact Pattern.length_lt_of_first? (by decide) hfirst

/-! ## Characters of tokens -/

lemma ValueAt.chars {text rest : List Char} {value : Value} (h : ValueAt text value rest) :
    value.chars ++ rest = text := by
  cases h <;> simp [Value.chars]

lemma ParamAt.chars {text rest : List Char} {token : Token} (h : ParamAt text token rest) :
    token.chars ++ rest = text := by
  cases h with
  | intro hkey hvalue => simp [Token.chars, hvalue.chars]

lemma FlagAt.chars {text rest : List Char} {token : Token} (h : FlagAt text token rest) :
    token.chars ++ rest = text := by
  cases h
  rfl

lemma TokenAt.chars {text rest : List Char} {token : Token} (h : TokenAt text token rest) :
    token.chars ++ rest = text := by
  cases h with
  | blank => rfl
  | param _ hparam => exact hparam.chars
  | flag _ _ hflag => exact hflag.chars

/-- A colon in a token is one of a value between quotes. -/
def ColonQuoted (token : Token) : Prop :=
  ':' ∈ token.chars → ∃ key q content, token = .param key (.quoted q content) ∧ ':' ∉ key

lemma colon_notMem_key {key : List Char} (h : isKey key = true) : ':' ∉ key := by
  cases key with
  | nil => simp
  | cons c cs =>
    simp only [isKey, Bool.and_eq_true, List.all_eq_true] at h
    intro hmem
    rcases List.mem_cons.mp hmem with rfl | hmem
    · exact absurd h.1 (by decide)
    · exact absurd (h.2 ':' hmem) (by decide)

lemma ParamAt.colonQuoted {text rest : List Char} {token : Token} (h : ParamAt text token rest) :
    ColonQuoted token := by
  intro hcolon
  cases h with
  | @intro key after _ value hkey hvalue =>
    have hfree := colon_notMem_key hkey.1.2.1
    cases hvalue with
    | double | single => exact ⟨_, _, _, rfl, hfree⟩
    | bare _ _ hrun =>
      rcases List.mem_append.mp hcolon with hmem | hmem
      · exact absurd hmem hfree
      · rcases List.mem_cons.mp hmem with heq | hmem
        · cases heq
        · exact absurd (hrun.1.2 ':' hmem) (by decide)

lemma FlagAt.colonQuoted {text rest : List Char} {token : Token} (h : FlagAt text token rest) :
    ColonQuoted token := by
  intro hcolon
  cases h with
  | intro _ hword => exact absurd (hword.1.2 ':' hcolon) (by decide)

lemma TokenAt.colonQuoted {text rest : List Char} {token : Token} (h : TokenAt text token rest) :
    ColonQuoted token := by
  cases h with
  | blank hblank =>
    intro hcolon
    obtain rfl := List.mem_singleton.mp hcolon
    exact absurd hblank (by decide)
  | param _ hparam => exact hparam.colonQuoted
  | flag _ _ hflag => exact hflag.colonQuoted

/-! ## Cuts into tokens -/

lemma tokenised_nil_iff {tokens : List Token} {ending : Ending} :
    Tokenised [] tokens ending ↔ tokens = [] ∧ ending = .whole := by
  constructor
  · intro h
    cases h
    exact ⟨rfl, rfl⟩
  · rintro ⟨rfl, rfl⟩
    exact .whole

lemma tokenised_colon_iff {text : List Char} {tokens : List Token} {ending : Ending} :
    Tokenised (':' :: text) tokens ending ↔ tokens = [] ∧ ending = .body text := by
  constructor
  · intro h
    cases h with
    | body => exact ⟨rfl, rfl⟩
    | token hcolon | stuck hcolon => exact absurd rfl hcolon
  · rintro ⟨rfl, rfl⟩
    exact .body text

/-- A header is stuck at once or goes on behind its first token. -/
lemma tokenised_cons_iff {c : Char} {cs : List Char} {tokens : List Token} {ending : Ending}
    (hcolon : c ≠ ':') :
    Tokenised (c :: cs) tokens ending ↔
      (takeToken? (c :: cs) = none ∧ tokens = [] ∧ ending = .stuck (c :: cs)) ∨
      ∃ token rest tokens', takeToken? (c :: cs) = some (token, rest) ∧ tokens = token :: tokens' ∧
        Tokenised rest tokens' ending := by
  constructor
  · intro h
    cases h with
    | body => exact absurd rfl hcolon
    | token _ htoken hrest =>
      exact .inr ⟨_, _, _, takeToken?_eq_some_iff.mpr htoken, rfl, hrest⟩
    | stuck _ hnone => exact .inl ⟨takeToken?_eq_none_iff.mpr hnone, rfl, rfl⟩
  · rintro (⟨hnone, rfl, rfl⟩ | ⟨token, rest, tokens', hsome, rfl, hrest⟩)
    · exact .stuck hcolon (takeToken?_eq_none_iff.mp hnone)
    · exact .token hcolon (takeToken?_eq_some_iff.mp hsome) hrest

end Pinboard.Markup
