import Pinboard.Proofs.Markup.Nesting
import Pinboard.Proofs.Template.Basic

/-!
# Scanning the text of a template

In the text of a template the markers are those of its nodes. So the count of markers passes over a
template as it passes over a literal, and the search inwards meets the nodes in post-order.
-/
namespace Pinboard

open Markup

/-! ## The count of markers -/

/-- The count passes over a text without braces. -/
lemma closeAt?_braceless {xs : List Char} (hxs : Braceless xs) (depth : Nat) (cs : List Char) :
    closeAt? depth (xs ++ cs) = (closeAt? depth cs).map (· + xs.length) := by
  induction xs with
  | nil => simp
  | cons x xs ih =>
    obtain ⟨hopen, hclose⟩ := hxs x List.mem_cons_self
    rw [List.cons_append, closeAt?.eq_3 depth x _ (fun _ h => absurd h hopen)
      (fun _ h => absurd h hclose), ih fun c hc => hxs c (List.mem_cons_of_mem _ hc)]
    simp [Function.comp_def, add_assoc]

namespace Head

variable (head : Head)

lemma braceless_inside : Braceless (head.inside none) := by
  intro c hc
  rcases List.mem_append.mp hc with hc | hc
  · exact (head.plain c hc).2.2
  · exact head.braceless c hc

@[simp] lemma length_block (body : Option (List Char)) :
    (head.block body).length = (head.inside body).length + 4 := by
  simp [block]

lemma block_append (body : Option (List Char)) (more : List Char) : head.block body ++ more =
    '\x7b' :: '\x7b' :: (head.inside body ++ '\x7d' :: '\x7d' :: more) := by
  simp [block]

lemma inside_some (body : List Char) : head.inside (some body) = head.inside none ++ ':' :: body :=
  rfl

lemma length_inside_some (body : List Char) :
    (head.inside (some body)).length = (head.inside none).length + 1 + body.length := by
  rw [inside_some, List.length_append, List.length_cons]
  omega

end Head

/-- The count behind a text that it passes over is unchanged. -/
def Balanced (xs : List Char) : Prop :=
  ∀ depth cs, 1 ≤ depth → closeAt? depth (xs ++ cs) = (closeAt? depth cs).map (· + xs.length)

lemma Balanced.append {xs ys : List Char} (hxs : Balanced xs) (hys : Balanced ys) :
    Balanced (xs ++ ys) := by
  intro depth cs hdepth
  rw [List.append_assoc, hxs depth _ hdepth, hys depth _ hdepth, Option.map_map]
  congr 1
  funext n
  simp only [Function.comp_apply, List.length_append]
  omega

lemma Braceless.balanced {xs : List Char} (hxs : Braceless xs) : Balanced xs := fun depth cs _ =>
  closeAt?_braceless hxs depth cs

lemma Head.balanced_block (head : Head) {body : Option (List Char)}
    (h : Balanced (head.inside body)) : Balanced (head.block body) := by
  intro depth cs hdepth
  have hclose : closeAt? (depth + 1) ('\x7d' :: '\x7d' :: cs) =
      (closeAt? depth cs).map (· + 2) := by
    rw [closeAt?, if_neg (by omega), Nat.add_sub_cancel]
  have hinside := h (depth + 1) ('\x7d' :: '\x7d' :: cs) (by omega)
  simp only [block, List.cons_append, List.append_assoc, List.nil_append, closeAt?, hinside,
    hclose, Option.map_map]
  congr 1
  funext n
  simp only [Function.comp_apply, List.length_cons, List.length_append, List.length_nil]
  omega

lemma Head.balanced_bare (head : Head) : Balanced (head.inside none) :=
  head.braceless_inside.balanced

lemma Head.balanced_full (head : Head) {body : List Char} (h : Balanced body) :
    Balanced (head.inside (some body)) := by
  have hcolon : Braceless [':'] := by decide
  rw [inside_some, ← List.singleton_append]
  exact head.balanced_bare.append (hcolon.balanced.append h)

theorem Template.balanced_render (t : Template) : Balanced t.render := by
  induction t with
  | nil => exact fun depth cs _ => by simp [render]
  | text literal rest ih => exact literal.braceless.balanced.append ih
  | bare head rest ih => exact (head.balanced_block head.balanced_bare).append ih
  | full head body rest ihb ihr =>
    exact (head.balanced_block (head.balanced_full ihb)).append ihr

/-! ## The occurrence at a node -/

section Block

variable (head : Head) (body : Option (List Char)) (more : List Char)

/-- A boundary stands behind the spelling of a node. -/
lemma Head.spelledAt :
    SpelledAt [head.name] (head.inside body ++ '\x7d' :: '\x7d' :: more) head.name := by
  have hinside : ∃ tail, head.inside body ++ '\x7d' :: '\x7d' :: more = head.name.toList ++ tail ∧
      EndsName tail := by
    cases hheader : head.header.toList with
    | nil =>
      cases body with
      | none => exact ⟨'\x7d' :: '\x7d' :: more, by simp [inside, hheader], .inr ⟨more, rfl⟩⟩
      | some cs => exact ⟨_, by simp [inside, hheader]; rfl, .inl ⟨':', _, rfl, .inr rfl⟩⟩
    | cons c rest =>
      have hblank := head.blank c (by rw [hheader]; rfl)
      cases body with
      | none => exact ⟨_, by simp [inside, hheader]; rfl, .inl ⟨c, _, rfl, .inl hblank⟩⟩
      | some cs => exact ⟨_, by simp [inside, hheader]; rfl, .inl ⟨c, _, rfl, .inl hblank⟩⟩
  obtain ⟨tail, htext, hends⟩ := hinside
  refine ⟨List.mem_singleton_self _, ?_, ?_⟩
  · rw [htext]
    exact List.prefix_append _ _
  · rwa [htext, List.drop_left' String.length_toList]

variable {spellings : List String} (hs : ∀ s ∈ spellings, IsPlain s)
include hs

lemma spellingAt?_inside : spellingAt? spellings (head.inside body ++ '\x7d' :: '\x7d' :: more) =
    if head.name ∈ spellings then some head.name else none := by
  have hspelled := head.spelledAt body more
  split
  · rename_i hname
    rw [spellingAt?_eq_some_iff]
    exact ⟨⟨hname, hspelled.front, hspelled.ends⟩,
      fun other hother => hspelled.length_le (hs other hother.mem) hother.front⟩
  · rename_i hname
    rw [Option.eq_none_iff_forall_ne_some]
    intro other hother
    have hfound := (spellingAt?_eq_some_iff.mp hother).1
    exact hname (hfound.unique (hs other hfound.mem) head.plain hspelled ▸ hfound.mem)

lemma openedAt?_block {limit : Nat} (hbalanced : Balanced (head.inside body))
    (hlimit : (head.block body).length ≤ limit) :
    openedAt? spellings limit (head.block body ++ more) =
      if head.name ∈ spellings then
        some ⟨head.name, ⟨head.params, head.flags, body.map String.ofList⟩,
          (head.inside body).length⟩
      else none := by
  rw [Head.length_block] at hlimit
  have htext := head.block_append body more
  have hclose : closeAt? 1 ((head.inside body ++ '\x7d' :: '\x7d' :: more).take (limit - 2)) =
      some (head.inside body).length := by
    rw [closeAt?_take, hbalanced 1 _ le_rfl]
    exact ⟨by simp [closeAt?], by omega⟩
  have hread : Header.read? ((head.inside body).drop head.name.length) =
      some ⟨head.params, head.flags, body.map String.ofList⟩ := by
    cases body with
    | none =>
      rw [Head.inside, List.drop_left' String.length_toList]
      exact head.read
    | some cs =>
      rw [Head.inside, List.append_assoc, List.drop_left' String.length_toList]
      exact Header.read?_append_colon head.read cs
  rw [htext, openedAt?, spellingAt?_inside head body more hs]
  by_cases hname : head.name ∈ spellings
  · simp [hname, hclose, hread]
  · simp [hname]

end Block

/-! ## The search -/

section Scan

variable {spellings : List String} {innermost : Bool} {start limit : Nat}

lemma scan_short (h : limit < 4) (cs : List Char) :
    scan spellings innermost start limit cs = none := by
  unfold scan
  split
  · rw [if_pos h]
  · rfl

lemma scan_unopened {c : Char} {cs : List Char} (h : openedAt? spellings limit (c :: cs) = none) :
    scan spellings innermost start limit (c :: cs) =
      scan spellings innermost (start + 1) (limit - 1) cs := by
  cases cs with
  | nil => simp [scan]
  | cons d rest =>
    by_cases hlimit : limit < 4
    · rw [scan_short hlimit, scan_short (by omega)]
    · rw [scan, if_neg hlimit, h]

lemma scan_skip {xs : List Char} (hxs : ∀ c ∈ xs, c ≠ '\x7b') (cs : List Char) :
    scan spellings innermost start limit (xs ++ cs) =
      scan spellings innermost (start + xs.length) (limit - xs.length) cs := by
  induction xs generalizing start limit with
  | nil => rfl
  | cons x xs ih =>
    have hopened : openedAt? spellings limit (x :: (xs ++ cs)) = none := by
      unfold openedAt?
      split
      · rename_i heq
        exact absurd (List.cons.inj heq).1 (hxs x List.mem_cons_self)
      · rfl
    rw [List.cons_append, scan_unopened hopened, ih fun c hc => hxs c (List.mem_cons_of_mem _ hc)]
    congr 1
    · simp only [List.length_cons]
      omega
    · simp only [List.length_cons]
      omega

lemma Braceless.scan {xs : List Char} (hxs : Braceless xs) (cs : List Char) :
    scan spellings innermost start limit (xs ++ cs) =
      Markup.scan spellings innermost (start + xs.length) (limit - xs.length) cs :=
  scan_skip (fun c hc => (hxs c hc).1) cs

/-- The search passes over the header of a node to its body. -/
lemma Head.scan_inside_some (head : Head) (body more : List Char) :
    scan spellings innermost start limit (head.inside (some body) ++ more) =
      scan spellings innermost (start + (head.inside none).length + 1)
        (limit - (head.inside none).length - 1) (body ++ more) := by
  have hcolon : Braceless [':'] := by decide
  rw [Head.inside_some, List.append_assoc, head.braceless_inside.scan, List.cons_append,
    ← List.singleton_append, hcolon.scan, List.length_singleton]

/-- What is read at the opening marker of a node is the occurrence that the node is. -/
lemma Head.toOccurrence_block (head : Head) (body : Option (List Char)) (start : Nat)
    (more : List Char) :
    Opened.toOccurrence ⟨head.name, ⟨head.params, head.flags, body.map String.ofList⟩,
      (head.inside body).length⟩ start (head.block body ++ more) = head.occurrence start body := by
  rw [Opened.toOccurrence, ← head.length_block, List.take_left' rfl, Head.occurrence]
  simp [add_assoc]

variable (head : Head) {body : Option (List Char)} (more : List Char)
  (hs : ∀ s ∈ spellings, IsPlain s) (hbalanced : Balanced (head.inside body))
  (hlimit : (head.block body).length ≤ limit)
include hs hbalanced hlimit

/-- The search goes into a node of the directive, and gives it if it holds no other. -/
lemma scan_block_mem (hname : head.name ∈ spellings) :
    scan spellings true start limit (head.block body ++ more) =
      (scan spellings true (start + 2) (head.inside body).length
        (head.inside body ++ '\x7d' :: '\x7d' :: more)).or (some (head.occurrence start body)) := by
  have hopened := openedAt?_block head body more hs hbalanced hlimit
  rw [if_pos hname] at hopened
  have htext := head.block_append body more
  rw [Head.length_block] at hlimit
  have hoccurrence := head.toOccurrence_block body start more
  rw [htext] at hopened hoccurrence ⊢
  rw [scan, if_neg (by omega), hopened]
  simp only [if_true, hoccurrence]
  cases scan spellings true (start + 2) (head.inside body).length
    (head.inside body ++ '\x7d' :: '\x7d' :: more) <;> rfl

/-- The search outwards gives a node of the directive with all that it holds. -/
lemma scan_block_outward (hname : head.name ∈ spellings) :
    scan spellings false start limit (head.block body ++ more) =
      some (head.occurrence start body) := by
  have hopened := openedAt?_block head body more hs hbalanced hlimit
  rw [if_pos hname] at hopened
  have htext := head.block_append body more
  rw [Head.length_block] at hlimit
  have hoccurrence := head.toOccurrence_block body start more
  rw [htext] at hopened hoccurrence ⊢
  rw [scan, if_neg (by omega), hopened]
  exact congrArg some hoccurrence

/-- The search goes on behind the opening marker of a node of another spelling. -/
lemma scan_block_not_mem (hname : head.name ∉ spellings) :
    scan spellings innermost start limit (head.block body ++ more) =
      scan spellings innermost (start + 2) (limit - 2)
        (head.inside body ++ '\x7d' :: '\x7d' :: more) := by
  have hopened := openedAt?_block head body more hs hbalanced hlimit
  rw [if_neg hname] at hopened
  have htext := head.block_append body more
  have hsecond : openedAt? spellings (limit - 1)
      ('\x7b' :: (head.inside body ++ '\x7d' :: '\x7d' :: more)) = none := by
    unfold openedAt?
    split
    · rename_i rest heq
      have hthird := (head.spelledAt body more).no_brace head.plain.unbraced rest
      exact absurd (List.cons.inj heq).2 hthird
    · rfl
  rw [htext] at hopened ⊢
  rw [scan_unopened hopened, scan_unopened hsecond]
  congr 1

end Scan

namespace Template

/-- What a search inwards gives in the text of a template. -/
def first? (spellings : List String) (start : Nat) (t : Template) : Option Occurrence :=
  (pending spellings t).head?.bind (t.occurrenceAt? start)

section First

variable (spellings : List String) (start : Nat) (literal : Literal) (head : Head)
  (body rest : Template)

lemma first?_text : first? spellings start (text literal rest) =
    first? spellings (start + literal.text.toList.length) rest := by
  rw [first?, pending_text, List.head?_map]
  cases h : (pending spellings rest).head? <;> simp [first?, h, occurrenceAt?]

lemma first?_bare : first? spellings start (bare head rest) =
    (if head.name ∈ spellings then some (head.occurrence start none) else none).or
      (first? spellings (start + (head.block none).length) rest) := by
  rw [first?, pending_bare]
  split
  · rfl
  · rw [List.nil_append, List.head?_map]
    cases h : (pending spellings rest).head? <;> simp [first?, h, occurrenceAt?]

lemma first?_full : first? spellings start (full head body rest) =
    (first? spellings (start + (head.inside none).length + 3) body).or
      ((if head.name ∈ spellings then some (head.occurrence start (some body.render)) else none).or
        (first? spellings (start + (head.block (some body.render)).length) rest)) := by
  rw [first?, pending_full, List.head?_append, List.head?_map]
  cases hbody : (pending spellings body).head? with
  | some path =>
    obtain ⟨n, hn, -, hpath⟩ := mem_pending.mp (List.mem_of_mem_head? hbody)
    obtain ⟨m, hm, -⟩ := exists_occurrenceAt? hn (start + (head.inside none).length + 3)
    rw [hpath] at hm
    simp [first?, hbody, occurrenceAt?, hm]
  | none =>
    have hnone : first? spellings (start + (head.inside none).length + 3) body = none := by
      rw [first?, hbody, Option.bind_none]
    rw [hnone, Option.map_none, Option.none_or, Option.none_or]
    split
    · rfl
    · rw [List.nil_append, List.head?_map]
      cases h : (pending spellings rest).head? <;> simp [first?, h, occurrenceAt?]

end First

/-- Markers that close are passed over by the search. -/
lemma scan_closing {spellings : List String} {innermost : Bool} {start limit : Nat}
    (cs : List Char) :
    scan spellings innermost start limit ('\x7d' :: '\x7d' :: cs) =
      scan spellings innermost (start + 2) (limit - 2) cs := by
  have hclosing : ∀ c ∈ ['\x7d', '\x7d'], c ≠ '\x7b' := by simp
  exact scan_skip hclosing cs

/-- The search inwards in a text that begins with a template's gives the first of its nodes in
post-order, or else goes on behind it. -/
theorem scan_render {spellings : List String} (hs : ∀ s ∈ spellings, IsPlain s) (t : Template)
    (start limit : Nat) (hlimit : t.render.length ≤ limit) (cs : List Char) :
    scan spellings true start limit (t.render ++ cs) = (t.first? spellings start).or
      (scan spellings true (start + t.render.length) (limit - t.render.length) cs) := by
  induction t generalizing start limit cs with
  | nil => rfl
  | text literal rest ih =>
    rw [render, List.length_append] at hlimit ⊢
    rw [List.append_assoc, literal.braceless.scan, ih _ _ (by omega), first?_text]
    congr 2 <;> omega
  | bare head rest ih =>
    rw [render, List.length_append] at hlimit ⊢
    rw [List.append_assoc, first?_bare, Option.or_assoc]
    have hblock := head.length_block none
    by_cases hname : head.name ∈ spellings
    · rw [scan_block_mem head _ hs head.balanced_bare (by omega) hname, head.braceless_inside.scan,
        scan_short (by omega), if_pos hname]
      rfl
    · rw [scan_block_not_mem head _ hs head.balanced_bare (by omega) hname,
        head.braceless_inside.scan, scan_closing, ih _ _ (by omega), if_neg hname, Option.none_or]
      congr 2 <;> omega
  | full head body rest ihb ihr =>
    rw [render, List.length_append] at hlimit ⊢
    rw [List.append_assoc, first?_full, Option.or_assoc, Option.or_assoc]
    have hblock := head.length_block (some body.render)
    have hinside := head.length_inside_some body.render
    have hbalanced := head.balanced_full body.balanced_render
    have hbody : ∀ start limit more, (head.inside (some body.render)).length ≤ limit →
        scan spellings true start limit (head.inside (some body.render) ++ more) =
          (first? spellings (start + (head.inside none).length + 1) body).or
            (scan spellings true (start + (head.inside (some body.render)).length)
              (limit - (head.inside (some body.render)).length) more) := by
      intro start limit more hle
      rw [head.scan_inside_some, ihb _ _ (by omega), hinside]
      congr 2 <;> omega
    by_cases hname : head.name ∈ spellings
    · rw [scan_block_mem head _ hs hbalanced (by omega) hname, hbody _ _ _ le_rfl,
        scan_short (by omega), if_pos hname, Option.or_none]
      congr 2
      omega
    · rw [scan_block_not_mem head _ hs hbalanced (by omega) hname, hbody _ _ _ (by omega),
        scan_closing, ihr _ _ (by omega), if_neg hname, Option.none_or]
      have hbegin : start + 2 + (head.inside none).length + 1 =
          start + (head.inside none).length + 3 := by omega
      rw [hbegin]
      congr 3 <;> omega

theorem find?_render {spellings : List String} (hs : ∀ s ∈ spellings, IsPlain s) (t : Template) :
    find? spellings true 0 t.render = t.first? spellings 0 := by
  have hscan := scan_render hs t 0 t.render.length le_rfl []
  have hbehind : scan spellings true (0 + t.render.length) (t.render.length - t.render.length) [] =
      none := scan_short (by omega) []
  rw [List.append_nil, hbehind, Option.or_none] at hscan
  rw [find?, Nat.sub_zero, List.drop_zero, hscan]

end Template

end Pinboard
