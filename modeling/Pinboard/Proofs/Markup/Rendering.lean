import Pinboard.Proofs.Fields
import Pinboard.Proofs.Markup.Arguments
import Pinboard.Proofs.Markup.Headers
import Pinboard.Proofs.Text.Numerals

/-!
# Calls that are written out

The text of a call is read back as that call: its parameters token by token, each value up to the
quote that it stands between, and what follows the first colon behind them as the body. Only the
markers in the arguments can end the call early, which is asked about the text as a whole.
-/
namespace Pinboard.Markup

/-- A key starts with a letter or an underscore. -/
def isKey : List Char → Bool
  | [] => false
  | c :: cs => isKeyStart c && cs.all isKeyChar

/-- The text can stand before an equals sign. -/
def IsKey (key : String) : Prop := isKey key.toList = true

instance : DecidablePred IsKey := fun key => inferInstanceAs (Decidable (isKey key.toList = true))

/-- One kind of quotes at least does not occur in the value. -/
def IsQuotable (value : String) : Prop := '"' ∉ value.toList ∨ '\'' ∉ value.toList

instance : DecidablePred IsQuotable :=
  fun value => inferInstanceAs (Decidable ('"' ∉ value.toList ∨ '\'' ∉ value.toList))

/-- The closing marker that balances the opening one of a call is the last one of its text. -/
def ClosesLast (text : String) : Prop := Returns 1 (marks (text.toList.drop 2)) (text.length - 4)

instance : DecidablePred ClosesLast := fun text =>
  decidable_of_iff (closeAt? 1 (text.toList.drop 2) = some (text.length - 4))
    (closeAt?_eq_some_iff le_rfl)

/-! ## Parameters -/

/-- The quote that a value is written between. -/
def quoteOf (value : String) : Char := if value.toList.contains '"' then '\'' else '"'

/-- A value as it is written. -/
def valueOf (value : String) : Value := .quoted (quoteOf value) value.toList

/-- Parameters as they are written, a blank before each. -/
def tokensOf (params : Fields String) : List Token :=
  params.flatMap fun (key, value) => [.blank ' ', .param key.toList (valueOf value)]

@[simp] lemma tokensOf_nil : tokensOf [] = [] := rfl

@[simp] lemma tokensOf_cons (p : String × String) (params : Fields String) :
    tokensOf (p :: params) =
      .blank ' ' :: .param p.1.toList (valueOf p.2) :: tokensOf params := rfl

lemma filterMap_param?_tokensOf (params : Fields String) :
    (tokensOf params).filterMap Token.param? = params := by
  induction params with
  | nil => rfl
  | cons p params ih => simp [Token.param?, valueOf, Value.content, List.filterMap_cons, ih]

lemma filterMap_flag?_tokensOf (params : Fields String) :
    (tokensOf params).filterMap Token.flag? = [] := by
  induction params with
  | nil => rfl
  | cons p params ih => simpa [Token.flag?] using ih

lemma length_le_chars_tokensOf (params : Fields String) :
    2 * params.length ≤ ((tokensOf params).flatMap Token.chars).length := by
  induction params with
  | nil => simp
  | cons p params ih =>
    simp only [tokensOf_cons, List.flatMap_cons, List.length_append, Token.chars, List.length_cons,
      List.length_nil]
    omega

lemma isQuote_quoteOf (value : String) : isQuote (quoteOf value) = true := by
  unfold quoteOf
  split <;> decide

lemma quoteOf_notMem {value : String} (h : IsQuotable value) : quoteOf value ∉ value.toList := by
  unfold quoteOf
  split
  · rename_i hdouble
    exact h.resolve_left (not_not_intro (List.contains_iff_mem.mp hdouble))
  · rename_i hdouble
    exact fun hmem => hdouble (List.contains_iff_mem.mpr hmem)

lemma toList_renderValue (value : String) : (renderValue value).toList = (valueOf value).chars := by
  unfold renderValue valueOf quoteOf
  split <;> simp [Value.chars]

lemma toList_renderParams (params : Fields String) :
    (renderParams params).toList = (tokensOf params).flatMap Token.chars := by
  induction params with
  | nil => rfl
  | cons p params ih =>
    obtain ⟨key, value⟩ := p
    have hjoin : renderParams ((key, value) :: params) =
        " " ++ key ++ "=" ++ renderValue value ++ renderParams params := by
      simp [renderParams]
    rw [hjoin]
    simp [ih, toList_renderValue, Token.chars]

/-- A value between quotes ends at the second one. -/
lemma takeValue_quoted {q : Char} {cs : List Char} (hq : isQuote q = true) (h : q ∉ cs)
    (rest : List Char) : takeValue (q :: (cs ++ q :: rest)) = (.quoted q cs, rest) := by
  have hinside : ∀ c ∈ cs, (c != q) = true := fun c hc => bne_iff_ne.mpr fun heq => h (heq ▸ hc)
  simp [takeValue, hq, List.takeWhile_append_of_pos hinside, List.dropWhile_append_of_pos hinside]

lemma IsKey.exists_cons {key : String} (h : IsKey key) :
    ∃ c cs, key.toList = c :: cs ∧ isKeyStart c = true ∧ ∀ d ∈ cs, isKeyChar d = true := by
  unfold IsKey at h
  cases hkey : key.toList with
  | nil => simp [hkey, isKey] at h
  | cons c cs => exact ⟨c, cs, rfl, by simpa [hkey, isKey] using h⟩

lemma isBlank_of_isKeyStart {c : Char} (h : isKeyStart c = true) : Text.isBlank c = false := by
  have hcases : (decide (c.val ≥ 'A'.val ∧ c.val ≤ 'Z'.val) ||
      (decide (c.val ≥ 'a'.val) && decide (c.val ≤ 'z'.val)) || c == '_') = true := h
  have hrange : 65 ≤ c.toNat ∧ c.toNat ≤ 122 := by
    simp only [Bool.or_eq_true, Bool.and_eq_true, decide_eq_true_eq, beq_iff_eq, GE.ge,
      UInt32.le_iff_toNat_le] at hcases
    rcases hcases with (⟨hlow, hhigh⟩ | ⟨hlow, hhigh⟩) | rfl
    · exact ⟨hlow, hhigh.trans (by decide)⟩
    · exact ⟨le_trans (by decide) hlow, hhigh⟩
    · decide
  exact Text.isBlank_of_letter hrange.1 hrange.2

/-- A parameter that is written out is one token. -/
lemma takeToken?_param {key value : String} (hkey : IsKey key) (hvalue : IsQuotable value)
    (rest : List Char) :
    takeToken? ((Token.param key.toList (valueOf value)).chars ++ rest) =
      some (.param key.toList (valueOf value), rest) := by
  obtain ⟨c, cs, hcons, hstart, hinside⟩ := hkey.exists_cons
  have hchars : (Token.param key.toList (valueOf value)).chars ++ rest =
      c :: (cs ++ '=' :: quoteOf value :: (value.toList ++ quoteOf value :: rest)) := by
    simp [Token.chars, valueOf, Value.chars, hcons]
  have hequals : isKeyChar '=' = false := by decide
  have hquoted := takeValue_quoted (isQuote_quoteOf value) (quoteOf_notMem hvalue) rest
  rw [hchars, hcons, takeToken?, if_neg (by simp [isBlank_of_isKeyStart hstart])]
  simp [takeParam?, hstart, List.takeWhile_append_of_pos hinside,
    List.dropWhile_append_of_pos hinside, hequals, hquoted, valueOf]

lemma readTokens?_of_takeToken? {cs rest : List Char} {token : Token}
    (hcolon : ∀ tail, cs ≠ ':' :: tail) (h : takeToken? cs = some (token, rest)) (fuel : Nat) :
    readTokens? (fuel + 1) cs =
      (readTokens? fuel rest).map fun (tokens, body) => (token :: tokens, body) := by
  cases cs with
  | nil => simp [takeToken?] at h
  | cons c cs =>
    have hc : c ≠ ':' := fun heq => hcolon cs (by rw [heq])
    rw [readTokens?, if_neg hc, h]

lemma readTokens?_tokensOf {params : Fields String}
    (h : ∀ p ∈ params, IsKey p.1 ∧ IsQuotable p.2) :
    readTokens? (2 * params.length) ((tokensOf params).flatMap Token.chars) =
      some (tokensOf params, none) := by
  induction params with
  | nil => rfl
  | cons p params ih =>
    obtain ⟨key, value⟩ := p
    obtain ⟨hkey, hvalue⟩ := h (key, value) List.mem_cons_self
    obtain ⟨c, cs, hcons, hstart, -⟩ := hkey.exists_cons
    have hrest := ih fun q hq => h q (List.mem_cons_of_mem _ hq)
    have hparam := takeToken?_param hkey hvalue ((tokensOf params).flatMap Token.chars)
    have hblank : ∀ rest, takeToken? (' ' :: rest) = some (.blank ' ', rest) := fun _ => rfl
    have hcolon : ∀ tail, (Token.param key.toList (valueOf value)).chars ++
        (tokensOf params).flatMap Token.chars ≠ ':' :: tail := by
      intro tail heq
      rw [Token.chars, hcons] at heq
      rw [(List.cons.inj heq).1] at hstart
      exact absurd hstart (by decide)
    calc readTokens? (2 * params.length + 1 + 1) (' ' ::
          ((Token.param key.toList (valueOf value)).chars ++
            (tokensOf params).flatMap Token.chars))
      _ = (readTokens? (2 * params.length + 1) ((Token.param key.toList (valueOf value)).chars ++
            (tokensOf params).flatMap Token.chars)).map fun (tokens, body) =>
          (.blank ' ' :: tokens, body) := readTokens?_of_takeToken? (by simp) (hblank _) _
      _ = some (tokensOf ((key, value) :: params), none) := by
        rw [readTokens?_of_takeToken? hcolon hparam, hrest]
        rfl

/-- The parameters of a call are read back from what is written of them. -/
lemma read?_renderParams {params : Fields String} (h : ∀ p ∈ params, IsKey p.1 ∧ IsQuotable p.2)
    (hkeys : (params.map Prod.fst).Nodup) :
    Header.read? (renderParams params).toList = some ⟨params, [], none⟩ := by
  have hread : tokens? (renderParams params).toList = some (tokensOf params, none) := by
    rw [toList_renderParams]
    exact readTokens?_mono (readTokens?_tokensOf h) (length_le_chars_tokensOf params)
  simp [Header.read?, hread, filterMap_param?_tokensOf, filterMap_flag?_tokensOf,
    Fields.ofList_eq_self hkeys]

/-! ## The text of a call -/

/-- What is written of a body. -/
def bodyChars : Option String → List Char
  | none => []
  | some body => ':' :: body.toList

lemma toList_render (name : String) (args : List String) (params : Fields String) :
    (render name args params).toList =
      '\x7b' :: '\x7b' :: (name.toList ++ ((renderParams params).toList ++
        bodyChars (Occurrence.ofCall name args params).body ++ ['\x7d', '\x7d'])) := by
  cases args with
  | nil => simp [render, Occurrence.ofCall, bodyChars, openMarker, closeMarker]
  | cons a args => simp [render, Occurrence.ofCall, bodyChars, openMarker, closeMarker]

lemma read?_renderParams_body {params : Fields String}
    (h : ∀ p ∈ params, IsKey p.1 ∧ IsQuotable p.2) (hkeys : (params.map Prod.fst).Nodup)
    (body : Option String) :
    Header.read? ((renderParams params).toList ++ bodyChars body) = some ⟨params, [], body⟩ := by
  cases body with
  | none => simpa [bodyChars] using read?_renderParams h hkeys
  | some body =>
    simpa [bodyChars] using Header.read?_append_colon (read?_renderParams h hkeys) body.toList

/-- The name of a call ends where its parameters, its body or the closing marker begins. -/
lemma endsName_header (params : Fields String) (body : Option String) :
    EndsName ((renderParams params).toList ++ bodyChars body ++ ['\x7d', '\x7d']) := by
  rw [toList_renderParams]
  cases params with
  | nil =>
    cases body with
    | none => exact .inr ⟨[], rfl⟩
    | some body => exact .inl ⟨':', _, rfl, .inr rfl⟩
  | cons p params => exact .inl ⟨' ', _, rfl, .inl (by decide)⟩

/-- A call as it is found again in its own text, where its arguments are not kept. -/
def written (name : String) (args : List String) (params : Fields String) : Occurrence :=
  { Occurrence.ofCall name args params with callArgs := none }

lemma reads_render {name : String} {args : List String} {params : Fields String}
    (h : ∀ p ∈ params, IsKey p.1 ∧ IsQuotable p.2) (hkeys : (params.map Prod.fst).Nodup)
    (hcloses : ClosesLast (render name args params)) :
    Reads [name] (render name args params).toList (render name args params).toList.length
      (written name args params) := by
  have hlist := toList_render name args params
  have hstop : (written name args params).stop = (render name args params).toList.length :=
    String.length_toList.symm
  have hname : ((render name args params).toList.drop (0 + 2)).drop name.length =
      (renderParams params).toList ++ bodyChars (Occurrence.ofCall name args params).body ++
        ['\x7d', '\x7d'] := by
    rw [hlist]
    exact List.drop_left' String.length_toList
  have hspelled : SpelledAt [name] ((render name args params).toList.drop (0 + 2)) name := by
    refine ⟨List.mem_singleton_self name, ?_, ?_⟩
    · rw [hlist]
      exact List.prefix_append _ _
    · rw [hname]
      exact endsName_header params _
  have hheader : slice (render name args params).toList (0 + 2 + name.length)
        ((render name args params).toList.length - 2) =
      (renderParams params).toList ++ bodyChars (Occurrence.ofCall name args params).body := by
    rw [slice, ← List.drop_drop, hname]
    refine List.take_left' ?_
    simp only [hlist, List.length_cons, List.length_append, String.length_toList, List.length_nil]
    omega
  have hlength : 4 ≤ (render name args params).length := by
    rw [← String.length_toList, hlist]
    simp only [List.length_cons, List.length_append, List.length_nil]
    omega
  refine ⟨⟨⟨_, hlist⟩, hspelled, ⟨_, hcloses, ?_⟩, hstop.le, ?_, ?_, rfl⟩, ?_⟩
  · show (render name args params).length = 0 + ((render name args params).length - 4) + 4
    omega
  · rw [hstop]
    exact hheader ▸ read?_renderParams_body h hkeys _
  · rw [hstop]
    simp [written, Occurrence.ofCall, slice]
  · intro other hother
    rw [List.mem_singleton.mp hother.mem]
    exact le_rfl

/-- A call has kept its arguments. -/
lemma arguments_length {name : String} {args : List String} {params : Fields String}
    (h : args ≠ []) : (Occurrence.ofCall name args params).arguments args.length = args := by
  match args with
  | [] => exact absurd rfl h
  | [a] => simp [Occurrence.arguments, Occurrence.ofCall, Text.join]
  | a :: b :: args => simp [Occurrence.arguments, Occurrence.ofCall]

/-- A rendered call is found in its own text, all of it, as the call that was rendered: with its
name, its parameters, no flags and its arguments as one body, if it has any. Its text is split into
the arguments of the call where each of them is one argument; the call itself has kept them. -/
theorem find?_rendered (name : String) (args : List String) (params : Fields String) :
    ((∀ p ∈ params, IsKey p.1 ∧ IsQuotable p.2) → (params.map Prod.fst).Nodup →
      ClosesLast (render name args params) →
        find? [name] false 0 (render name args params).toList =
          some (written name args params) ∧
        (written name args params).flags = [] ∧
        ((written name args params).body = none ↔ args = []) ∧
        ((∀ a ∈ args, IsArgument a.toList) → ∀ count,
          (written name args params).arguments count =
            (Occurrence.ofCall name args params).arguments count)) ∧
    (args ≠ [] → (Occurrence.ofCall name args params).arguments args.length = args) := by
  refine ⟨fun h hkeys hcloses => ⟨?_, rfl, ?_, fun hargs count => ?_⟩, fun hne => ?_⟩
  · exact find?_false_iff.mpr (leftmost_of_start (reads_render h hkeys hcloses))
  · cases args <;> simp [written, Occurrence.ofCall]
  · exact (arguments_kept rfl rfl hargs count).symm
  · exact arguments_length hne

/-- Values with either kind of quotes. -/
def quotedParams : Fields String := [("group", "say \"a: b\""), ("note-1", "it's \x7b")]

/-- An argument that is a call itself and one that is empty. -/
def nestedArgs : List String := ["\x7b\x7bdate:%d\x7d\x7d", ""]

theorem find?_rendered_nested_call :
    (∀ p ∈ quotedParams, IsKey p.1 ∧ IsQuotable p.2) ∧ (quotedParams.map Prod.fst).Nodup ∧
    ClosesLast (render "movePin" nestedArgs quotedParams) ∧
    (∀ a ∈ nestedArgs, IsArgument a.toList) ∧
    find? ["movePin"] false 0 (render "movePin" nestedArgs quotedParams).toList =
      some (written "movePin" nestedArgs quotedParams) ∧
    (written "movePin" nestedArgs quotedParams).arguments 2 = nestedArgs := by
  have hparams : ∀ p ∈ quotedParams, IsKey p.1 ∧ IsQuotable p.2 := by decide +kernel
  have hkeys : (quotedParams.map Prod.fst).Nodup := by decide
  have hcloses : ClosesLast (render "movePin" nestedArgs quotedParams) := by decide +kernel
  have hargs : ∀ a ∈ nestedArgs, IsArgument a.toList := by decide +kernel
  obtain ⟨hread, hkept⟩ := find?_rendered "movePin" nestedArgs quotedParams
  obtain ⟨hfound, -, -, hsplit⟩ := hread hparams hkeys hcloses
  exact ⟨hparams, hkeys, hcloses, hargs, hfound, (hsplit hargs 2).trans (hkept (by decide))⟩

end Pinboard.Markup
