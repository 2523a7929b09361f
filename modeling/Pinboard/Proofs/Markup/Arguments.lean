import Pinboard.Markup.Invocation
import Pinboard.Proofs.Markup.Escaping

/-!
# Arguments that were joined

Texts with a colon between each two of them are split where they were joined, if no colon stands
outside markers in them and their own markers are balanced. Then it makes no difference whether the
arguments of a call are kept or split off its body again.
-/
namespace Pinboard.Markup

/-- How many markers are open after a text; none if a colon stands outside them. A closing marker
that closes nothing leaves the depth as it is. -/
def argumentDepth? (depth : Nat) : List Char → Option Nat
  | [] => some depth
  | '\x7b' :: '\x7b' :: rest => argumentDepth? (depth + 1) rest
  | '\x7d' :: '\x7d' :: rest =>
    if depth = 0 then argumentDepth? depth ('\x7d' :: rest) else argumentDepth? (depth - 1) rest
  | c :: rest => if c = ':' ∧ depth = 0 then none else argumentDepth? depth rest

/-- The text is one argument wherever it stands between colons. -/
def IsArgument (cs : List Char) : Prop := argumentDepth? 0 cs = some 0

instance : DecidablePred IsArgument :=
  fun cs => inferInstanceAs (Decidable (argumentDepth? 0 cs = some 0))

/-- A text without colons and opening markers is one argument. -/
lemma isArgument_of_unmarked {cs : List Char} (hcolon : ':' ∉ cs) (hmarker : hasMarker cs = false) :
    IsArgument cs := by
  have hdepth : ∀ depth, depth = 0 → argumentDepth? depth cs = some 0 := by
    intro depth
    fun_induction argumentDepth? depth cs with
    | case1 depth => exact fun h => congrArg some h
    | case2 depth rest ih => simp [hasMarker] at hmarker
    | case3 rest ih =>
      refine ih (fun h => hcolon (List.mem_cons_of_mem _ h)) ?_
      simpa [hasMarker] using hmarker
    | case4 depth rest hdepth ih => exact fun h => absurd h hdepth
    | case5 depth c rest hopen hclose hcut =>
      exact fun _ => absurd hcut.1 fun h => hcolon (h ▸ List.mem_cons_self)
    | case6 depth c rest hopen hclose hcut ih =>
      refine ih (fun h => hcolon (List.mem_cons_of_mem _ h)) ?_
      unfold hasMarker at hmarker
      split at hmarker <;> simp_all
  exact hdepth 0 rfl

/-! ## Splitting -/

@[simp] lemma prepend_prepend (cs ds : List Char) (parts : List (List Char)) :
    prepend cs (prepend ds parts) = prepend (cs ++ ds) parts := by
  cases parts <;> simp [prepend]

@[simp] lemma prepend_nil {parts : List (List Char)} (h : parts ≠ []) : prepend [] parts = parts := by
  cases parts with
  | nil => exact absurd rfl h
  | cons part parts => rfl

lemma splitAt_ne_nil (cuts depth : Nat) (cs : List Char) : splitAt cuts depth cs ≠ [] := by
  have hprepend : ∀ ds (parts : List (List Char)), prepend ds parts ≠ [] := by
    intro ds parts
    cases parts <;> simp [prepend]
  unfold splitAt
  split <;> (try split) <;> (try split) <;> simp [hprepend]

/-- A character that opens and closes no marker. -/
lemma splitAt_cons {c : Char} {rest : List Char}
    (hopen : ∀ more, c = '{' → rest = '{' :: more → False)
    (hclose : ∀ more, c = '}' → rest = '}' :: more → False) (cuts depth : Nat) :
    splitAt cuts depth (c :: rest) =
      if c = ':' ∧ depth = 0 then
        match cuts with
        | 0 => [c :: rest]
        | n + 1 => [] :: splitAt n 0 rest
      else prepend [c] (splitAt cuts depth rest) := by
  rw [splitAt.eq_def]
  split
  · rename_i heq
    cases heq
  · rename_i more heq
    exact (hopen more (List.cons.inj heq).1 (List.cons.inj heq).2).elim
  · rename_i more heq
    exact (hclose more (List.cons.inj heq).1 (List.cons.inj heq).2).elim
  · rename_i heq
    obtain ⟨rfl, rfl⟩ := List.cons.inj heq
    rfl

/-- What follows an argument, if anything. -/
def IsRest (tail : List Char) : Prop := tail = [] ∨ ∃ rest, tail = ':' :: rest

/-- An argument goes to the first part whole. -/
lemma splitAt_append {cs tail : List Char} {depth : Nat} (h : argumentDepth? depth cs = some 0)
    (htail : IsRest tail) (cuts : Nat) :
    splitAt cuts depth (cs ++ tail) = prepend cs (splitAt cuts 0 tail) := by
  -- No marker reaches from an argument into what follows it.
  have hapart : ∀ {c : Char} {rest : List Char}, c ≠ ':' → (∀ more, rest = c :: more → False) →
      ∀ more, rest ++ tail = c :: more → False := by
    rintro c rest hc hrest more hmore
    cases rest with
    | nil =>
      rcases htail with rfl | ⟨rest, rfl⟩
      · simp at hmore
      · exact hc (List.cons.inj hmore).1.symm
    | cons d rest => exact hrest rest (by rw [(List.cons.inj hmore).1])
  fun_induction argumentDepth? depth cs with
  | case1 depth =>
    obtain rfl : depth = 0 := by simpa using h
    rw [prepend_nil (splitAt_ne_nil _ _ _), List.nil_append]
  | case2 depth rest ih =>
    rw [List.cons_append, List.cons_append, splitAt, ih h, prepend_prepend]
    rfl
  | case3 rest ih =>
    rw [List.cons_append, List.cons_append, splitAt, if_pos rfl, ← List.cons_append, ih h,
      prepend_prepend]
    rfl
  | case4 depth rest hdepth ih =>
    rw [List.cons_append, List.cons_append, splitAt, if_neg hdepth, ih h, prepend_prepend]
    rfl
  | case5 depth c rest hopen hclose hcut => cases h
  | case6 depth c rest hopen hclose hcut ih =>
    rw [List.cons_append, splitAt_cons, if_neg hcut, ih h, prepend_prepend]
    · rfl
    · rintro more rfl
      exact hapart (by decide) (fun more hrest => hopen more rfl hrest) more
    · rintro more rfl
      exact hapart (by decide) (fun more hrest => hclose more rfl hrest) more

/-- Arguments that were joined by colons are split apart, the last part with all that remains. -/
lemma splitAt_joined {args : List (List Char)} (hargs : ∀ cs ∈ args, IsArgument cs)
    (hne : args ≠ []) (cuts : Nat) :
    splitAt cuts 0 ([':'].intercalate args) =
      if args.length ≤ cuts + 1 then args
      else args.take cuts ++ [[':'].intercalate (args.drop cuts)] := by
  induction args generalizing cuts with
  | nil => exact absurd rfl hne
  | cons cs args ih =>
    have hfirst := hargs cs List.mem_cons_self
    cases args with
    | nil =>
      have hwhole := splitAt_append hfirst (.inl rfl) cuts
      simpa [List.intercalate, splitAt, prepend] using hwhole
    | cons ds args =>
      have hjoined : [':'].intercalate (cs :: ds :: args) =
          cs ++ ':' :: [':'].intercalate (ds :: args) := by
        simp [List.intercalate]
      have htail : IsRest (':' :: [':'].intercalate (ds :: args)) := .inr ⟨_, rfl⟩
      rw [hjoined, splitAt_append hfirst htail]
      cases cuts with
      | zero => simp [splitAt_cons, prepend, hjoined]
      | succ cuts =>
        rw [splitAt_cons (by simp) (by simp), if_pos ⟨rfl, rfl⟩]
        dsimp only
        rw [ih (fun x hx => hargs x (List.mem_cons_of_mem _ hx)) (by simp)]
        simp only [prepend, List.append_nil, List.length_cons]
        split_ifs with h h' <;> first | rfl | omega

/-! ## Arguments of a call -/

lemma toList_join (args : List String) :
    (Text.join ":" args).toList = [':'].intercalate (args.map String.toList) := by
  simp [Text.join]

lemma splitArguments_join {args : List String} (hargs : ∀ a ∈ args, IsArgument a.toList)
    (hne : args ≠ []) (count : Nat) :
    splitArguments (Text.join ":" args) count =
      if args.length ≤ count - 1 + 1 then args
      else args.take (count - 1) ++ [Text.join ":" (args.drop (count - 1))] := by
  have hlists : ∀ cs ∈ args.map String.toList, IsArgument cs := by
    intro cs hcs
    obtain ⟨a, ha, rfl⟩ := List.mem_map.mp hcs
    exact hargs a ha
  rw [splitArguments, toList_join, splitAt_joined hlists (by simpa using hne), List.length_map]
  split
  · simp
  · simp [← toList_join, ← List.map_take, ← List.map_drop]

/-- Arguments that are kept are the ones that the body would be split into. -/
lemma arguments_kept {m : Occurrence} {args : List String} (hdirect : m.callArgs = none)
    (hbody : m.body = if args.isEmpty then none else some (Text.join ":" args))
    (hargs : ∀ a ∈ args, IsArgument a.toList) (count : Nat) :
    ({ m with callArgs := some args } : Occurrence).arguments count = m.arguments count := by
  cases args with
  | nil => simp [Occurrence.arguments, hbody]
  | cons a args =>
    have hsome : m.body = some (Text.join ":" (a :: args)) := hbody
    simp only [Occurrence.arguments, hsome, hdirect]
    rw [splitArguments_join hargs (by simp)]
    by_cases hone : count ≤ 1
    · have hcuts : count - 1 = 0 := by omega
      rw [if_pos hone, hcuts]
      cases args with
      | nil =>
        have hsingle : Text.join ":" [a] = a := rfl
        simp [hsingle]
      | cons b args => simp
    · have hcuts : count - 1 + 1 = count := by omega
      rw [if_neg hone, hcuts]

/-! ## Arguments as parts of a text -/

/-- No part of a text without markers holds one. -/
lemma unmarked_of_part {cs text : List Char} (h : cs <:+: text)
    (hmarker : hasMarker text = false) : hasMarker cs = false := by
  obtain ⟨front, back, rfl⟩ := h
  have hback : hasMarker (cs ++ back) = false := by
    induction front with
    | nil => simpa using hmarker
    | cons c front ih => exact ih (hasMarker_cons.mp hmarker).1
  clear hmarker
  induction cs with
  | nil => rfl
  | cons c cs ih =>
    obtain ⟨hrest, hpair⟩ := hasMarker_cons.mp hback
    refine hasMarker_cons.mpr ⟨ih hrest, fun hopens => hpair ⟨hopens.1, ?_⟩⟩
    show (cs ++ back).head? = some '\x7b'
    rw [List.head?_append, hopens.2]
    rfl

lemma infix_intercalate {separator part : List Char} {parts : List (List Char)}
    (h : part ∈ parts) : part <:+: separator.intercalate parts := by
  induction parts with
  | nil => cases h
  | cons first parts ih =>
    cases parts with
    | nil =>
      obtain rfl := List.mem_singleton.mp h
      simp [List.intercalate]
    | cons second parts =>
      have hjoined : separator.intercalate (first :: second :: parts) =
          first ++ (separator ++ separator.intercalate (second :: parts)) := by
        simp [List.intercalate]
      rw [hjoined]
      rcases List.mem_cons.mp h with rfl | hlater
      · exact (List.prefix_append _ _).isInfix
      · exact (ih hlater).trans
          ((List.suffix_append _ _).isInfix.trans (List.suffix_append _ _).isInfix)

/-- The arguments of a call stand behind the opening marker of its text. -/
lemma infix_render {name : String} {args : List String} {params : Fields String}
    {a : String} (ha : a ∈ args) : a.toList <:+: (render name args params).toList.drop 2 := by
  have hjoined : a.toList <:+: (Text.join ":" args).toList := by
    rw [toList_join]
    exact infix_intercalate (List.mem_map_of_mem ha)
  have hsome : args.isEmpty = false := by
    cases args with
    | nil => cases ha
    | cons b args => rfl
  refine hjoined.trans ⟨(name ++ renderParams params).toList ++ [':'], closeMarker.toList, ?_⟩
  simp [render, hsome, openMarker]

end Pinboard.Markup
