import Pinboard.Proofs.Fields
import Pinboard.Proofs.Markup.Tokens

/-!
# How headers are read

Every header is cut into tokens in just one way, up to its end, to its body or to a place where no
token fits, and what is read of it is what these tokens say. The same comes of trying the patterns
of parameters and flags one after the other.
-/
namespace Pinboard.Markup

/-! ## Cutting by patterns -/

/-- The header that the patterns of parameters and flags cut, begun with what was read before. They
are tried where neither a blank nor a colon stands. -/
def Header.cut? (header : Header) : List Char → Option Header
  | [] => some header
  | c :: cs =>
    if Text.isBlank c then header.cut? cs
    else if c = ':' then some { header with body := some (String.ofList cs) }
    else
      match _hparam : paramPattern.first? (c :: cs) with
      | some ⟨[key, value], rest⟩ =>
        let params := header.params.set (String.ofList key) (String.ofList value)
        { header with params := params }.cut? rest
      | _ =>
        match _hflag : flagPattern.first? (c :: cs) with
        | some ⟨[word], rest⟩ =>
          { header with flags := header.flags ++ [String.ofList word] }.cut? rest
        | _ => none
termination_by cs => cs.length
decreasing_by
  · exact Nat.lt_succ_self _
  · exact Pattern.length_lt_of_first? (by decide) _hparam
  · exact Pattern.length_lt_of_first? (by decide) _hflag

/-- A header with one token more. -/
def Header.push (header : Header) : Token → Header
  | .blank _ => header
  | .param key value =>
    { header with params := header.params.set (String.ofList key) (String.ofList value.content) }
  | .flag word => { header with flags := header.flags ++ [String.ofList word] }

/-- A header with the tokens behind it and a body. -/
def Header.complete (header : Header) (tokens : List Token) (body : Option (List Char)) : Header :=
  { tokens.foldl Header.push header with body := body.map String.ofList }

lemma takeParam?_eq_param {cs rest : List Char} {token : Token}
    (h : takeParam? cs = some (token, rest)) : ∃ key value, token = .param key value := by
  cases takeParam?_eq_some_iff.mp h
  exact ⟨_, _, rfl⟩

lemma takeFlag?_eq_flag {cs rest : List Char} {token : Token}
    (h : takeFlag? cs = some (token, rest)) : ∃ word, token = .flag word := by
  cases takeFlag?_eq_some_iff.mp h
  exact ⟨_, rfl⟩

section Cut

variable {c : Char} {cs : List Char} (hblank : ¬Text.isBlank c = true) (hcolon : c ≠ ':')
  (header : Header)
include hblank hcolon

lemma Header.cut?_param {token : Token} {rest : List Char}
    (h : takeParam? (c :: cs) = some (token, rest)) :
    header.cut? (c :: cs) = (header.push token).cut? rest := by
  obtain ⟨key, value, rfl⟩ := takeParam?_eq_param h
  have hfirst := first?_paramPattern (c :: cs)
  rw [h] at hfirst
  rw [Header.cut?, if_neg hblank, if_neg hcolon]
  split
  · rename_i k v rest' heq
    obtain ⟨hgroups, rfl⟩ := Match.mk.inj (Option.some.inj (heq.symm.trans hfirst))
    obtain ⟨rfl, rfl⟩ : k = key ∧ v = value.content := by simpa [Token.groups] using hgroups
    rfl
  · rename_i hother
    exact absurd hfirst (hother key value.content rest)

lemma Header.cut?_flag (hparam : takeParam? (c :: cs) = none) :
    header.cut? (c :: cs) =
      (takeFlag? (c :: cs)).bind fun (token, rest) => (header.push token).cut? rest := by
  have hfirst := first?_paramPattern (c :: cs)
  have hsecond := first?_flagPattern (c :: cs)
  rw [hparam] at hfirst
  rw [Header.cut?, if_neg hblank, if_neg hcolon]
  split
  · rename_i heq
    cases heq.symm.trans hfirst
  · cases hflag : takeFlag? (c :: cs) with
    | none =>
      rw [hflag] at hsecond
      split
      · rename_i heq
        cases heq.symm.trans hsecond
      · rfl
    | some found =>
      obtain ⟨token, rest⟩ := found
      obtain ⟨word, rfl⟩ := takeFlag?_eq_flag hflag
      rw [hflag] at hsecond
      split
      · rename_i w rest' heq
        obtain ⟨hgroups, rfl⟩ := Match.mk.inj (Option.some.inj (heq.symm.trans hsecond))
        obtain rfl : w = word := by simpa [Token.groups] using hgroups
        rfl
      · rename_i hother
        exact absurd hsecond (hother word rest)

end Cut

/-- The patterns take one token where no colon stands. -/
lemma Header.cut?_cons {c : Char} {cs : List Char} (hcolon : c ≠ ':') (header : Header) :
    header.cut? (c :: cs) =
      (takeToken? (c :: cs)).bind fun (token, rest) => (header.push token).cut? rest := by
  by_cases hblank : Text.isBlank c = true
  · rw [Header.cut?, takeToken?, if_pos hblank, if_pos hblank]
    rfl
  · rw [takeToken?, if_neg hblank]
    cases hparam : takeParam? (c :: cs) with
    | some found => exact header.cut?_param hblank hcolon hparam
    | none => exact header.cut?_flag hblank hcolon hparam

@[simp] lemma Header.body_push (header : Header) (token : Token) :
    (header.push token).body = header.body := by
  cases token <;> rfl

lemma Header.foldl_push (header : Header) (tokens : List Token) :
    tokens.foldl Header.push header =
      { params := header.params.merge (tokens.filterMap Token.param?)
        flags := header.flags ++ tokens.filterMap Token.flag?
        body := header.body } := by
  induction tokens generalizing header with
  | nil => simp [Fields.merge]
  | cons token tokens ih =>
    rw [List.foldl_cons, ih]
    cases token with
    | blank c => rfl
    | param key value => rfl
    | flag word => simp [Header.push, Token.flag?, Token.param?, List.filterMap_cons]

/-! ## Headers -/

namespace Tokenised

variable {cs : List Char} {tokens : List Token} {ending : Ending}

lemma chars (h : Tokenised cs tokens ending) :
    tokens.flatMap Token.chars ++ ending.chars = cs := by
  induction h with
  | whole | body | stuck => rfl
  | token _ htoken _ ih => rw [List.flatMap_cons, List.append_assoc, ih, htoken.chars]

lemma colonQuoted (h : Tokenised cs tokens ending) : ∀ token ∈ tokens, ColonQuoted token := by
  induction h with
  | whole | body | stuck => simp
  | token _ htoken _ ih => exact List.forall_mem_cons.mpr ⟨htoken.colonQuoted, ih⟩

/-- A header is stuck before an equals sign or a quote. -/
lemma stuck_at (h : Tokenised cs tokens ending) {rest : List Char} (hstuck : ending = .stuck rest) :
    ∃ c more, rest = c :: more ∧ (c = '=' ∨ isQuote c = true) := by
  induction h with
  | whole | body => cases hstuck
  | token _ _ _ ih => exact ih hstuck
  | stuck hcolon hnone =>
    cases hstuck
    exact ⟨_, _, rfl, head_of_takeToken? hcolon (takeToken?_eq_none_iff.mpr hnone)⟩

lemma readTokens?_eq (h : Tokenised cs tokens ending) {fuel : Nat} (hfuel : cs.length ≤ fuel) :
    readTokens? fuel cs = ending.body?.map fun body => (tokens, body) := by
  induction h generalizing fuel with
  | whole => cases fuel <;> rfl
  | body text =>
    cases fuel with
    | zero => cases hfuel
    | succ fuel => rw [readTokens?, if_pos rfl]; rfl
  | token hcolon htoken _ ih =>
    have htake := takeToken?_eq_some_iff.mpr htoken
    have hlt := length_lt_of_takeToken? htake
    cases fuel with
    | zero => cases hfuel
    | succ fuel =>
      rw [readTokens?, if_neg hcolon, htake]
      dsimp only
      rw [ih (Nat.le_of_lt_succ (lt_of_lt_of_le hlt hfuel)), Option.map_map]
      rfl
  | stuck hcolon hnone =>
    cases fuel with
    | zero => cases hfuel
    | succ fuel =>
      rw [readTokens?, if_neg hcolon, takeToken?_eq_none_iff.mpr hnone]
      rfl

lemma cut?_eq (h : Tokenised cs tokens ending) {header : Header} (hbody : header.body = none) :
    header.cut? cs = ending.body?.map (header.complete tokens) := by
  induction h generalizing header with
  | whole =>
    obtain ⟨params, flags, body⟩ := header
    obtain rfl : body = none := hbody
    rw [Header.cut?]
    rfl
  | body text =>
    rw [Header.cut?, if_neg (by decide), if_pos rfl]
    rfl
  | token hcolon htoken _ ih =>
    rw [Header.cut?_cons hcolon, takeToken?_eq_some_iff.mpr htoken, Option.bind_some]
    exact ih (by rw [Header.body_push, hbody])
  | stuck hcolon hnone =>
    rw [Header.cut?_cons hcolon, takeToken?_eq_none_iff.mpr hnone]
    rfl

lemma read?_eq (h : Tokenised cs tokens ending) :
    Header.read? cs = ending.body?.map (Header.complete ⟨[], [], none⟩ tokens) := by
  rw [Header.read?, tokens?, h.readTokens?_eq le_rfl, Option.map_map]
  congr 1
  funext body
  simp [Header.complete, Header.foldl_push, Fields.ofList]

end Tokenised

/-- Every header is cut into tokens in one way. -/
lemma exists_tokenised (cs : List Char) :
    ∃ tokens ending, ∀ tokens' ending',
      Tokenised cs tokens' ending' ↔ tokens' = tokens ∧ ending' = ending := by
  induction hlength : cs.length using Nat.strong_induction_on generalizing cs with
  | _ n ih =>
  cases cs with
  | nil => exact ⟨[], .whole, fun _ _ => tokenised_nil_iff⟩
  | cons c cs =>
    by_cases hcolon : c = ':'
    · rw [hcolon]
      exact ⟨[], .body cs, fun _ _ => tokenised_colon_iff⟩
    cases htake : takeToken? (c :: cs) with
    | none =>
      refine ⟨[], .stuck (c :: cs), fun tokens' ending' => ?_⟩
      rw [tokenised_cons_iff hcolon, htake]
      simp
    | some found =>
      obtain ⟨token, rest⟩ := found
      have hlt := length_lt_of_takeToken? htake
      obtain ⟨tokens, ending, honly⟩ := ih rest.length (hlength ▸ hlt) rest rfl
      refine ⟨token :: tokens, ending, fun tokens' ending' => ?_⟩
      rw [tokenised_cons_iff hcolon, htake]
      constructor
      · rintro (⟨hnone, -⟩ | ⟨token', rest', tokens', hsome, rfl, hrest⟩)
        · cases hnone
        · obtain ⟨rfl, rfl⟩ := Prod.mk.inj (Option.some.inj hsome)
          obtain ⟨rfl, rfl⟩ := (honly tokens' ending').mp hrest
          exact ⟨rfl, rfl⟩
      · rintro ⟨rfl, rfl⟩
        exact .inr ⟨token, rest, tokens, rfl, rfl, (honly tokens ending').mpr ⟨rfl, rfl⟩⟩

/-- A header holds what its tokens say: the keys of the parameters in the order in which they first
come, each with its last value, all flags, and the body. -/
structure Header.Collects (header : Header) (tokens : List Token) (body : Option (List Char)) :
    Prop where
  keys : header.params.keys = ((tokens.filterMap Token.param?).map Prod.fst).eraseDups
  last : ∀ key, header.params.get? key = Fields.get? key (tokens.filterMap Token.param?).reverse
  flags : header.flags = tokens.filterMap Token.flag?
  body : header.body = body.map String.ofList

lemma Header.collects_complete (tokens : List Token) (body : Option (List Char)) :
    (Header.complete ⟨[], [], none⟩ tokens body).Collects tokens body := by
  rw [Header.complete, Header.foldl_push]
  exact ⟨Fields.keys_ofList _, Fields.get?_ofList _, List.nil_append _, rfl⟩

/-- Every header is cut into tokens in one way, and these make up the whole of it with the colon and
the body that may follow, or with what is left where no token fits, which is before an equals sign
or a quote. In the latter case nothing is read of the header; else it is read as what its tokens say
and the body behind the first colon that is not part of a value. Trying the patterns of parameters
and flags comes to the same. -/
theorem Header.read?_tokenised (cs : List Char) :
    ∃ tokens ending,
      (∀ tokens' ending', Tokenised cs tokens' ending' ↔ tokens' = tokens ∧ ending' = ending) ∧
      tokens.flatMap Token.chars ++ ending.chars = cs ∧
      (∀ token ∈ tokens, ColonQuoted token) ∧
      (∀ rest, ending = .stuck rest → ∃ c more, rest = c :: more ∧ (c = '=' ∨ isQuote c = true)) ∧
      (Header.read? cs = none ↔ ∃ rest, ending = .stuck rest) ∧
      (∀ body, ending.body? = some body →
        ∃ header, Header.read? cs = some header ∧ header.Collects tokens body) ∧
      Header.cut? ⟨[], [], none⟩ cs = Header.read? cs := by
  obtain ⟨tokens, ending, honly⟩ := exists_tokenised cs
  have htokens := (honly tokens ending).mpr ⟨rfl, rfl⟩
  refine ⟨tokens, ending, honly, htokens.chars, htokens.colonQuoted, fun _ => htokens.stuck_at, ?_,
    fun body hbody => ?_, (htokens.cut?_eq rfl).trans htokens.read?_eq.symm⟩
  · rw [htokens.read?_eq, Option.map_eq_none_iff]
    cases ending <;> simp [Ending.body?]
  · exact ⟨_, by rw [htokens.read?_eq, hbody]; rfl, Header.collects_complete tokens body⟩

end Pinboard.Markup
