import Pinboard.Proofs.Template.Evaluation

/-!
# Outermost nodes

A directive that is resolved from the outside in takes each of its nodes with all that the body
holds, and so meets no node inside another. In the text of a template it meets the outermost ones
from left to right. Where each gives nothing, what is left is the template without them.
-/
namespace Pinboard

open Markup

/-- The node has one of some spellings and none around it has. -/
def Node.Outermost (spellings : List String) (n : Node) : Prop :=
  n.name ∈ spellings ∧ ∀ a ∈ n.ancestors, a ∉ spellings

instance (spellings : List String) : DecidablePred (Node.Outermost spellings) := fun n =>
  inferInstanceAs (Decidable (n.name ∈ spellings ∧ ∀ a ∈ n.ancestors, a ∉ spellings))

namespace Node

variable (spellings : List String) (ns : List Node)

lemma outermost_past : (ns.map past).filter (Outermost spellings ·) =
    (ns.filter (Outermost spellings ·)).map past := by
  rw [List.filter_map]
  rfl

variable {spellings} {name : String}

lemma outermost_within (hname : name ∉ spellings) :
    (ns.map (within name)).filter (Outermost spellings ·) =
      (ns.filter (Outermost spellings ·)).map (within name) := by
  rw [List.filter_map]
  congr 1
  refine List.filter_congr fun n _ => ?_
  rw [Function.comp_apply, decide_eq_decide]
  simp [Outermost, hname]

lemma outermost_within_of_mem (hname : name ∈ spellings) :
    (ns.map (within name)).filter (Outermost spellings ·) = [] := by
  rw [List.filter_eq_nil_iff]
  intro n hn
  obtain ⟨n, -, rfl⟩ := List.mem_map.mp hn
  simp [Outermost, hname]

end Node

/-- A node with what it is made of. -/
structure Piece where
  path : Path
  head : Head
  body : Option Template

namespace Piece

def past (p : Piece) : Piece := { p with path := .past :: p.path }

def within (p : Piece) : Piece := { p with path := .within :: p.path }

/-- The occurrence that the node is in a text in which it starts at `start`. -/
def occurrence (p : Piece) (start : Nat) : Occurrence :=
  p.head.occurrence start (p.body.map Template.render)

end Piece

lemma braceless_empty : Braceless "".toList := by decide

/-- The literal without characters. -/
def Literal.empty : Literal := ⟨"", braceless_empty⟩

namespace Template

/-- The outermost nodes of some spellings from left to right. -/
def outer (spellings : List String) : Template → List Piece
  | nil => []
  | text _ rest => (outer spellings rest).map Piece.past
  | bare head rest =>
    (if head.name ∈ spellings then [⟨[], head, none⟩] else []) ++
      (outer spellings rest).map Piece.past
  | full head body rest =>
    (if head.name ∈ spellings then [⟨[], head, some body⟩]
      else (outer spellings body).map Piece.within) ++ (outer spellings rest).map Piece.past

/-- The template with nothing in the place of its outermost nodes of some spellings. -/
def cut (spellings : List String) : Template → Template
  | nil => nil
  | text literal rest => text literal (cut spellings rest)
  | bare head rest =>
    if head.name ∈ spellings then text .empty (cut spellings rest)
    else bare head (cut spellings rest)
  | full head body rest =>
    if head.name ∈ spellings then text .empty (cut spellings rest)
    else full head (cut spellings body) (cut spellings rest)

variable {spellings : List String} {t : Template}

/-- They are the nodes that are outermost, in the same order. -/
lemma paths_outer (spellings : List String) (t : Template) : (outer spellings t).map (·.path) =
    (t.nodes.filter (Node.Outermost spellings ·)).map (·.path) := by
  have hpast : ∀ ps : List Piece, (ps.map Piece.past).map (·.path) =
      (ps.map (·.path)).map (.past :: ·) := fun ps => by simp [Function.comp_def, Piece.past]
  have hwithin : ∀ ps : List Piece, (ps.map Piece.within).map (·.path) =
      (ps.map (·.path)).map (.within :: ·) := fun ps => by simp [Function.comp_def, Piece.within]
  induction t with
  | nil => rfl
  | text literal rest ih =>
    rw [outer, hpast, ih, nodes, Node.outermost_past]
    simp [Function.comp_def]
  | bare head rest ih =>
    rw [outer, List.map_append, hpast, ih, nodes, List.filter_cons, Node.outermost_past]
    by_cases hname : head.name ∈ spellings <;> simp [Node.Outermost, hname, Function.comp_def]
  | full head body rest ihb ihr =>
    rw [outer, List.map_append, hpast, ihr, nodes, List.filter_append, List.filter_cons,
      Node.outermost_past]
    by_cases hname : head.name ∈ spellings
    · rw [Node.outermost_within_of_mem _ hname]
      simp [Node.Outermost, hname, Function.comp_def]
    · rw [Node.outermost_within _ hname, if_neg hname, hwithin, ihb]
      simp [Node.Outermost, hname, Function.comp_def]

/-- Outermost nodes are among the nodes of their spellings. -/
lemma length_outer_le (spellings : List String) (t : Template) :
    (outer spellings t).length ≤ t.nodes.countP (·.name ∈ spellings) := by
  have hlength : (outer spellings t).length =
      ((t.nodes.filter (Node.Outermost spellings ·)).map (·.path)).length := by
    rw [← paths_outer, List.length_map]
  rw [hlength, List.length_map, ← List.countP_eq_length_filter]
  refine List.countP_mono_left fun n _ hn => ?_
  rw [decide_eq_true_eq] at hn ⊢
  exact hn.1

section Nil

variable {literal : Literal} {head : Head} {body rest : Template}

lemma outer_text_eq_nil : outer spellings (text literal rest) = [] ↔ outer spellings rest = [] :=
  List.map_eq_nil_iff

lemma outer_bare_eq_nil : outer spellings (bare head rest) = [] ↔
    head.name ∉ spellings ∧ outer spellings rest = [] := by
  rw [outer, List.append_eq_nil_iff, List.map_eq_nil_iff]
  split <;> simp_all

lemma outer_full_eq_nil : outer spellings (full head body rest) = [] ↔
    head.name ∉ spellings ∧ outer spellings body = [] ∧ outer spellings rest = [] := by
  rw [outer, List.append_eq_nil_iff, List.map_eq_nil_iff]
  split <;> simp_all

end Nil

/-- The first of the outermost nodes with the others, by where it stands. -/
inductive Foremost (spellings : List String) : Template → Piece → List Piece → Prop
  | text {literal : Literal} {rest : Template} {piece : Piece} {pieces : List Piece}
      (hrest : Foremost spellings rest piece pieces) :
      Foremost spellings (text literal rest) piece.past (pieces.map Piece.past)
  | bareHere {head : Head} {rest : Template} (hname : head.name ∈ spellings) :
      Foremost spellings (bare head rest) ⟨[], head, none⟩ ((outer spellings rest).map Piece.past)
  | barePast {head : Head} {rest : Template} {piece : Piece} {pieces : List Piece}
      (hname : head.name ∉ spellings) (hrest : Foremost spellings rest piece pieces) :
      Foremost spellings (bare head rest) piece.past (pieces.map Piece.past)
  | fullHere {head : Head} {body rest : Template} (hname : head.name ∈ spellings) :
      Foremost spellings (full head body rest) ⟨[], head, some body⟩
        ((outer spellings rest).map Piece.past)
  | fullWithin {head : Head} {body rest : Template} {piece : Piece} {pieces : List Piece}
      (hname : head.name ∉ spellings) (hbody : Foremost spellings body piece pieces) :
      Foremost spellings (full head body rest) piece.within
        (pieces.map Piece.within ++ (outer spellings rest).map Piece.past)
  | fullPast {head : Head} {body rest : Template} {piece : Piece} {pieces : List Piece}
      (hname : head.name ∉ spellings) (hbody : outer spellings body = [])
      (hrest : Foremost spellings rest piece pieces) :
      Foremost spellings (full head body rest) piece.past (pieces.map Piece.past)

lemma foremost_of_outer {piece : Piece} {pieces : List Piece}
    (h : outer spellings t = piece :: pieces) : Foremost spellings t piece pieces := by
  induction t generalizing piece pieces with
  | nil => simp [outer] at h
  | text literal rest ih =>
    rw [outer, List.map_eq_cons_iff] at h
    obtain ⟨inner, inners, hrest, rfl, rfl⟩ := h
    exact .text (ih hrest)
  | bare head rest ih =>
    rw [outer] at h
    by_cases hname : head.name ∈ spellings
    · rw [if_pos hname, List.singleton_append] at h
      obtain ⟨rfl, rfl⟩ := List.cons.inj h
      exact .bareHere hname
    · rw [if_neg hname, List.nil_append, List.map_eq_cons_iff] at h
      obtain ⟨inner, inners, hrest, rfl, rfl⟩ := h
      exact .barePast hname (ih hrest)
  | full head body rest ihb ihr =>
    rw [outer] at h
    by_cases hname : head.name ∈ spellings
    · rw [if_pos hname, List.singleton_append] at h
      obtain ⟨rfl, rfl⟩ := List.cons.inj h
      exact .fullHere hname
    · rw [if_neg hname] at h
      cases hbody : outer spellings body with
      | cons inner inners =>
        rw [hbody, List.map_cons, List.cons_append] at h
        obtain ⟨rfl, rfl⟩ := List.cons.inj h
        exact .fullWithin hname (ihb hbody)
      | nil =>
        rw [hbody, List.map_nil, List.nil_append, List.map_eq_cons_iff] at h
        obtain ⟨inner, inners, hrest, rfl, rfl⟩ := h
        exact .fullPast hname hbody (ihr hrest)

lemma Foremost.occurrenceAt? {piece : Piece} {pieces : List Piece}
    (h : Foremost spellings t piece pieces) (start : Nat) :
    ∃ k, t.occurrenceAt? start piece.path = some (piece.occurrence k) := by
  induction h generalizing start with
  | text _ ih | barePast _ _ ih | fullWithin _ _ ih | fullPast _ _ _ ih => exact ih _
  | bareHere | fullHere => exact ⟨start, rfl⟩

/-! ## What is left -/

lemma cut_eq_self (h : outer spellings t = []) : cut spellings t = t := by
  induction t with
  | nil => rfl
  | text literal rest ih => rw [cut, ih (outer_text_eq_nil.mp h)]
  | bare head rest ih =>
    obtain ⟨hname, hrest⟩ := outer_bare_eq_nil.mp h
    rw [cut, if_neg hname, ih hrest]
  | full head body rest ihb ihr =>
    obtain ⟨hname, hbody, hrest⟩ := outer_full_eq_nil.mp h
    rw [cut, if_neg hname, ihb hbody, ihr hrest]

/-- With nothing in the place of the first of the outermost nodes, the others and what will be left
are the same. -/
lemma Foremost.put {piece : Piece} {pieces : List Piece} (h : Foremost spellings t piece pieces) :
    outer spellings (t.put .empty piece.path) = pieces ∧
      cut spellings (t.put .empty piece.path) = cut spellings t := by
  induction h with
  | text _ ih => simp [Piece.past, Template.put, outer, cut, ih]
  | bareHere hname | fullHere hname => simp [Template.put, outer, cut, hname]
  | barePast hname _ ih => simp [Piece.past, Template.put, outer, cut, hname, ih]
  | fullWithin hname _ ih => simp [Piece.within, Template.put, outer, cut, hname, ih]
  | fullPast hname hbody _ ih => simp [Piece.past, Template.put, outer, cut, hname, hbody, ih]

/-- What is left has the nodes that are not of the spellings and in none that is. -/
lemma nodes_cut (spellings : List String) (t : Template) :
    (cut spellings t).nodes = t.nodes.filter (Node.Outside spellings ·) := by
  induction t with
  | nil => rfl
  | text literal rest ih => rw [cut, nodes, nodes, Node.filter_past, ih]
  | bare head rest ih =>
    by_cases hname : head.name ∈ spellings
    · rw [cut, if_pos hname, nodes, nodes,
        List.filter_cons_of_neg (by simp [Node.Outside, hname]), Node.filter_past, ih]
    · rw [cut, if_neg hname, nodes, nodes,
        List.filter_cons_of_pos (by simp [Node.Outside, hname]), Node.filter_past, ih]
  | full head body rest ihb ihr =>
    by_cases hname : head.name ∈ spellings
    · rw [cut, if_pos hname, nodes, nodes, List.filter_append,
        Node.filter_within_of_mem _ hname, List.nil_append,
        List.filter_cons_of_neg (by simp [Node.Outside, hname]), Node.filter_past, ihr]
    · rw [cut, if_neg hname, nodes, nodes, List.filter_append, Node.filter_within _ hname,
        List.filter_cons_of_pos (by simp [Node.Outside, hname]), Node.filter_past, ihb, ihr]

/-! ## The search outwards -/

section Search

variable (hs : ∀ s ∈ spellings, IsPlain s)
include hs

lemma scan_without_outer (h : outer spellings t = []) (start limit : Nat)
    (hlimit : t.render.length ≤ limit) (cs : List Char) :
    scan spellings false start limit (t.render ++ cs) =
      scan spellings false (start + t.render.length) (limit - t.render.length) cs := by
  induction t generalizing start limit cs with
  | nil => rfl
  | text literal rest ih =>
    have hrest := outer_text_eq_nil.mp h
    rw [render, List.length_append] at hlimit ⊢
    rw [List.append_assoc, literal.braceless.scan, ih hrest _ _ (by omega)]
    congr 1 <;> omega
  | bare head rest ih =>
    obtain ⟨hname, hrest⟩ := outer_bare_eq_nil.mp h
    have hblock := head.length_block none
    rw [render, List.length_append] at hlimit ⊢
    rw [List.append_assoc, scan_block_not_mem head _ hs head.balanced_bare (by omega) hname,
      head.braceless_inside.scan, scan_closing, ih hrest _ _ (by omega)]
    congr 1 <;> omega
  | full head body rest ihb ihr =>
    obtain ⟨hname, hbody, hrest⟩ := outer_full_eq_nil.mp h
    have hblock := head.length_block (some body.render)
    have hinside := head.length_inside_some body.render
    have hbalanced := head.balanced_full body.balanced_render
    rw [render, List.length_append] at hlimit ⊢
    rw [List.append_assoc, scan_block_not_mem head _ hs hbalanced (by omega) hname,
      head.scan_inside_some, ihb hbody _ _ (by omega), scan_closing, ihr hrest _ _ (by omega)]
    congr 1 <;> omega

/-- The search outwards in a text that begins with a template's gives the first of its outermost
nodes. -/
lemma Foremost.scan_eq {piece : Piece} {pieces : List Piece}
    (h : Foremost spellings t piece pieces) (start limit : Nat) (hlimit : t.render.length ≤ limit)
    (cs : List Char) :
    scan spellings false start limit (t.render ++ cs) = t.occurrenceAt? start piece.path := by
  induction h generalizing start limit cs with
  | @text literal rest piece pieces _ ih =>
    rw [render, List.length_append] at hlimit
    rw [render, List.append_assoc, literal.braceless.scan, ih _ _ (by omega)]
    rfl
  | @bareHere head rest hname =>
    rw [render, List.length_append] at hlimit
    rw [render, List.append_assoc, scan_block_outward head _ hs head.balanced_bare (by omega) hname]
    rfl
  | @fullHere head body rest hname =>
    have hbalanced := head.balanced_full body.balanced_render
    rw [render, List.length_append] at hlimit
    rw [render, List.append_assoc, scan_block_outward head _ hs hbalanced (by omega) hname]
    rfl
  | @barePast head rest piece pieces hname _ ih =>
    have hblock := head.length_block none
    rw [render, List.length_append] at hlimit
    rw [render, List.append_assoc,
      scan_block_not_mem head _ hs head.balanced_bare (by omega) hname, head.braceless_inside.scan,
      scan_closing, ih _ _ (by omega), Piece.past, Template.occurrenceAt?]
    congr 1
    omega
  | @fullWithin head body rest piece pieces hname _ ih =>
    have hblock := head.length_block (some body.render)
    have hinside := head.length_inside_some body.render
    have hbalanced := head.balanced_full body.balanced_render
    rw [render, List.length_append] at hlimit
    rw [render, List.append_assoc, scan_block_not_mem head _ hs hbalanced (by omega) hname,
      head.scan_inside_some, ih _ _ (by omega), Piece.within, Template.occurrenceAt?]
    congr 1
    omega
  | @fullPast head body rest piece pieces hname hbody _ ih =>
    have hblock := head.length_block (some body.render)
    have hinside := head.length_inside_some body.render
    have hbalanced := head.balanced_full body.balanced_render
    rw [render, List.length_append] at hlimit
    rw [render, List.append_assoc, scan_block_not_mem head _ hs hbalanced (by omega) hname,
      head.scan_inside_some, scan_without_outer hs hbody _ _ (by omega), scan_closing,
      ih _ _ (by omega), Piece.past, Template.occurrenceAt?]
    congr 1
    omega

lemma find?_without_outer (h : outer spellings t = []) :
    find? spellings false 0 t.render = none := by
  have hscan := scan_without_outer hs h 0 _ (le_refl t.render.length) []
  rw [List.append_nil, Nat.sub_self] at hscan
  rw [find?, Nat.sub_zero, List.drop_zero, hscan, scan_short (by omega)]

lemma find?_outer {piece : Piece} {pieces : List Piece} (h : Foremost spellings t piece pieces) :
    find? spellings false 0 t.render = t.occurrenceAt? 0 piece.path := by
  have hscan := h.scan_eq hs 0 _ (le_refl t.render.length) []
  rw [List.append_nil] at hscan
  rw [find?, Nat.sub_zero, List.drop_zero, hscan]

/-- Neither search finds anything in the text of a template without nodes of the spellings. -/
lemma find?_absent (h : ∀ n ∈ t.nodes, n.name ∉ spellings) (innermost : Bool) :
    find? spellings innermost 0 t.render = none := by
  cases innermost with
  | true =>
    rw [find?_render hs, first?, pending_eq_nil.mpr h]
    rfl
  | false =>
    refine find?_without_outer hs (List.eq_nil_of_length_eq_zero (Nat.le_zero.mp ?_))
    calc (outer spellings t).length ≤ t.nodes.countP (·.name ∈ spellings) := length_outer_le ..
      _ = 0 := List.countP_eq_zero.mpr fun n hn => by simpa using h n hn

end Search

end Template

/-! ## A sweep -/

variable {σ : Type}

/-- A directive that is run wherever it occurs, from the outside in and each time anew, and gives
nothing. -/
structure Directive.Clears (d : Directive σ) (reentry : Option (Reentry σ)) : Prop where
  outward : d.eager = true
  fresh : d.constant = false
  ungated : d.rules = []
  nothing : ∀ m context w, ((d.run m context reentry).run w).1 = Reply.nothing

/-- A directive is run on some nodes one after the other and gives nothing. -/
inductive RunsOn (d : Directive σ) (reentry : Option (Reentry σ)) (context : Context) :
    List Piece → σ → List Turn → σ → Prop
  | nil {w : σ} : RunsOn d reentry context [] w [] w
  | cons {piece : Piece} {pieces : List Piece} {start : Nat} {w w₁ w' : σ} {turns : List Turn}
      (hrun : (d.run (piece.occurrence start) context reentry).run w = (Reply.nothing, w₁))
      (rest : RunsOn d reentry context pieces w₁ turns w') :
      RunsOn d reentry context (piece :: pieces) w
        (.handled (piece.occurrence start) Reply.nothing :: turns) w'

open Template in
/-- A sweep of such a directive over the text of a template runs it on its outermost nodes from left
to right and leaves the template without them. -/
theorem Sweep.Loop.of_outer {d : Directive σ} {reentry : Option (Reentry σ)}
    (hd : d.Clears reentry) (hplain : ∀ s ∈ d.spellings, IsPlain s) {pieces : List Piece}
    {t : Template} (houter : outer d.spellings t = pieces) {allowance replaced : Nat}
    (hallowance : replaced + pieces.length ≤ allowance) (context : Context) (w : σ) :
    ∃ turns w', RunsOn d reentry context pieces w turns w' ∧
      Loop d reentry allowance ⟨t.render, context, 0, [], replaced⟩ w turns
        ⟨(cut d.spellings t).render, context, 0, [], replaced + pieces.length⟩ w' := by
  induction pieces generalizing t replaced w with
  | nil =>
    rw [cut_eq_self houter]
    refine ⟨[], w, .nil, ?_⟩
    by_cases hleft : replaced < allowance
    · refine .absent hleft ?_
      rw [hd.outward]
      exact find?_without_outer hplain houter
    · exact .spent (by simpa using hleft)
  | cons piece pieces ih =>
    have hforemost := foremost_of_outer houter
    obtain ⟨start, hat⟩ := hforemost.occurrenceAt? 0
    have hfind : find? d.spellings (!d.eager) 0 t.render = some (piece.occurrence start) := by
      rw [hd.outward, Bool.not_true, find?_outer hplain hforemost, hat]
    cases hrun : (d.run (piece.occurrence start) context reentry).run w with
    | mk reply w₁ =>
    obtain rfl : reply = Reply.nothing := by
      have hnothing := hd.nothing (piece.occurrence start) context w
      rwa [hrun] at hnothing
    obtain ⟨hothers, hcut⟩ := hforemost.put
    rw [List.length_cons] at hallowance ⊢
    obtain ⟨turns, w', hruns, hloop⟩ := ih hothers (by omega : replaced + 1 + _ ≤ allowance) w₁
    have hcount : replaced + (pieces.length + 1) = replaced + 1 + pieces.length := by omega
    refine ⟨_, w', .cons hrun hruns, ?_⟩
    rw [← hcut, hcount]
    exact .of_put hd.fresh hd.ungated hat hfind hrun rfl (by omega) hloop

end Pinboard
