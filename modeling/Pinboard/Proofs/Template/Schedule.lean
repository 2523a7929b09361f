import Pinboard.Directive.Registry
import Pinboard.Proofs.Template.Basic

/-!
# Which nodes are run, and when

A directive that comes early takes its nodes with all that their bodies hold. So the nodes that are
run are those around which no earlier directive has a node, directive by directive and, for each of
them, from left to right and from the inside out.
-/
namespace Pinboard

open Markup

variable {σ : Type}

/-- Neither the node nor one around it has one of some spellings. -/
def Node.Outside (spellings : List String) (n : Node) : Prop :=
  n.name ∉ spellings ∧ ∀ a ∈ n.ancestors, a ∉ spellings

instance (spellings : List String) : DecidablePred (Node.Outside spellings) := fun n =>
  inferInstanceAs (Decidable (n.name ∉ spellings ∧ ∀ a ∈ n.ancestors, a ∉ spellings))

namespace Node

variable (spellings : List String) (ns : List Node)

lemma filter_past : (ns.map past).filter (Outside spellings ·) =
    (ns.filter (Outside spellings ·)).map past := by
  rw [List.filter_map]
  rfl

variable {spellings} {name : String}

lemma filter_within (hname : name ∉ spellings) :
    (ns.map (within name)).filter (Outside spellings ·) =
      (ns.filter (Outside spellings ·)).map (within name) := by
  rw [List.filter_map]
  congr 1
  refine List.filter_congr fun n _ => ?_
  rw [Function.comp_apply, decide_eq_decide]
  simp [Outside, hname]

lemma filter_within_of_mem (hname : name ∈ spellings) :
    (ns.map (within name)).filter (Outside spellings ·) = [] := by
  rw [List.filter_eq_nil_iff]
  intro n hn
  obtain ⟨n, -, rfl⟩ := List.mem_map.mp hn
  simp [Outside, hname]

end Node

namespace Template

/-- The runs of some directives, nodes with an ancestor of an earlier spelling being left out. -/
def scheduleFrom (earlier : List String) : List (Directive σ) → Template → List (Directive σ × Path)
  | [], _ => []
  | d :: ds, t =>
    ((t.nodes.filter fun n => n.name ∈ d.spellings ∧ ∀ a ∈ n.ancestors, a ∉ earlier).map
      fun n => (d, n.path)) ++ scheduleFrom (earlier ++ d.spellings) ds t

/-- The runs of the directives of a registry in their order. -/
def schedule (ds : List (Directive σ)) (t : Template) : List (Directive σ × Path) :=
  scheduleFrom [] ds t

lemma mem_scheduleFrom {earlier : List String} {ds : List (Directive σ)} {t : Template}
    {d : Directive σ} {path : Path} :
    (d, path) ∈ scheduleFrom earlier ds t ↔ ∃ before after, ds = before ++ d :: after ∧
      ∃ n ∈ t.nodes, n.path = path ∧ n.name ∈ d.spellings ∧
        ∀ a ∈ n.ancestors, a ∉ earlier ∧ ∀ e ∈ before, a ∉ e.spellings := by
  induction ds generalizing earlier with
  | nil => simp [scheduleFrom]
  | cons first ds ih =>
    rw [scheduleFrom, List.mem_append, ih]
    constructor
    · rintro (hfirst | ⟨before, after, rfl, n, hn, hpath, hname, hancestors⟩)
      · obtain ⟨n, hn, heq⟩ := List.mem_map.mp hfirst
        obtain ⟨rfl, rfl⟩ := Prod.mk.inj heq
        simp only [List.mem_filter, decide_eq_true_eq] at hn
        exact ⟨[], ds, rfl, n, hn.1, rfl, hn.2.1, fun a ha => ⟨hn.2.2 a ha, by simp⟩⟩
      · refine ⟨first :: before, after, rfl, n, hn, hpath, hname, fun a ha => ?_⟩
        have hthis := hancestors a ha
        simp only [List.mem_append, not_or] at hthis
        exact ⟨hthis.1.1, by simpa [hthis.1.2] using hthis.2⟩
    · rintro ⟨before, after, hds, n, hn, rfl, hname, hancestors⟩
      cases before with
      | nil =>
        obtain ⟨rfl, rfl⟩ : first = d ∧ ds = after := by simpa using hds
        left
        refine List.mem_map.mpr ⟨n, ?_, rfl⟩
        simp only [List.mem_filter, decide_eq_true_eq]
        exact ⟨hn, hname, fun a ha => (hancestors a ha).1⟩
      | cons b before =>
        obtain ⟨rfl, rfl⟩ : first = b ∧ ds = before ++ d :: after := by simpa using hds
        refine .inr ⟨before, after, rfl, n, hn, rfl, hname, fun a ha => ?_⟩
        have hthis := hancestors a ha
        simp only [List.mem_append, not_or]
        exact ⟨⟨hthis.1, hthis.2 first List.mem_cons_self⟩,
          fun e he => hthis.2 e (List.mem_cons_of_mem _ he)⟩

lemma schedule_eq_nil {ds : List (Directive σ)} {t : Template}
    (h : ∀ d ∈ ds, pending d.spellings t = []) : schedule ds t = [] := by
  rw [List.eq_nil_iff_forall_not_mem]
  rintro ⟨d, path⟩ hmem
  obtain ⟨before, after, rfl, n, hn, -, hname, -⟩ := mem_scheduleFrom.mp hmem
  exact pending_eq_nil.mp (h d (by simp)) n hn hname

/-- No node is run twice, where no spelling belongs to two directives. -/
lemma nodup_scheduleFrom {earlier : List String} {ds : List (Directive σ)}
    (hdisjoint : ds.Pairwise fun d d' => d.spellings.Disjoint d'.spellings) (t : Template) :
    ((scheduleFrom earlier ds t).map Prod.snd).Nodup := by
  induction ds generalizing earlier with
  | nil => simp [scheduleFrom]
  | cons first ds ih =>
    obtain ⟨hfirst, hrest⟩ := List.pairwise_cons.mp hdisjoint
    rw [scheduleFrom, List.map_append, List.map_map, List.nodup_append]
    refine ⟨(t.nodup_paths.sublist (List.filter_sublist.map _)), ih hrest, ?_⟩
    rintro path hpath other hother rfl
    obtain ⟨n, hn, rfl⟩ := List.mem_map.mp hpath
    obtain ⟨⟨d, path⟩, hd, heq⟩ := List.mem_map.mp hother
    obtain ⟨before, after, rfl, n', hn', hsame, hname', -⟩ := mem_scheduleFrom.mp hd
    simp only [List.mem_filter, decide_eq_true_eq] at hn
    have hnode : n' = n := List.inj_on_of_nodup_map t.nodup_paths hn' hn.1 (hsame.trans heq)
    exact hfirst d (by simp) hn.2.1 (hnode ▸ hname')

/-- A template with literals in the places of some nodes of some spellings. -/
inductive Fills (spellings : List String) : Template → Template → Prop
  | nil : Fills spellings nil nil
  | text {literal : Literal} {rest rest' : Template} (hrest : Fills spellings rest rest') :
      Fills spellings (text literal rest) (text literal rest')
  | bare {head : Head} {rest rest' : Template} (hrest : Fills spellings rest rest') :
      Fills spellings (bare head rest) (bare head rest')
  | full {head : Head} {body body' rest rest' : Template} (hbody : Fills spellings body body')
      (hrest : Fills spellings rest rest') :
      Fills spellings (full head body rest) (full head body' rest')
  | filledBare {head : Head} {literal : Literal} {rest rest' : Template}
      (hname : head.name ∈ spellings) (hrest : Fills spellings rest rest') :
      Fills spellings (bare head rest) (text literal rest')
  | filledFull {head : Head} {literal : Literal} {body rest rest' : Template}
      (hname : head.name ∈ spellings) (hrest : Fills spellings rest rest') :
      Fills spellings (full head body rest) (text literal rest')

namespace Fills

variable {spellings : List String} {t u : Template}

lemma refl (spellings : List String) (t : Template) : Fills spellings t t := by
  induction t with
  | nil => exact .nil
  | text literal rest ih => exact .text ih
  | bare head rest ih => exact .bare ih
  | full head body rest ihb ihr => exact .full ihb ihr

lemma mono (h : Fills spellings t u) {more : List String} (hsub : spellings ⊆ more) :
    Fills more t u := by
  induction h with
  | nil => exact .nil
  | text _ ih => exact .text ih
  | bare _ ih => exact .bare ih
  | full _ _ ihb ihr => exact .full ihb ihr
  | filledBare hname _ ih => exact .filledBare (hsub hname) ih
  | filledFull hname _ ih => exact .filledFull (hsub hname) ih

lemma put (h : Fills spellings t u) {n : Node} (hn : n ∈ u.nodes) (hname : n.name ∈ spellings)
    (literal : Literal) : Fills spellings t (u.put literal n.path) := by
  induction h generalizing n with
  | nil => exact .nil
  | text _ ih =>
    obtain ⟨inner, hinner, rfl⟩ := List.mem_map.mp hn
    exact .text (ih hinner hname)
  | filledBare hfilled _ ih =>
    obtain ⟨inner, hinner, rfl⟩ := List.mem_map.mp hn
    exact .filledBare hfilled (ih hinner hname)
  | filledFull hfilled _ ih =>
    obtain ⟨inner, hinner, rfl⟩ := List.mem_map.mp hn
    exact .filledFull hfilled (ih hinner hname)
  | bare hrest ih =>
    rcases List.mem_cons.mp hn with rfl | hn
    · exact .filledBare hname hrest
    · obtain ⟨inner, hinner, rfl⟩ := List.mem_map.mp hn
      exact .bare (ih hinner hname)
  | full hbody hrest ihb ihr =>
    rcases List.mem_append.mp hn with hn | hn
    · obtain ⟨inner, hinner, rfl⟩ := List.mem_map.mp hn
      exact .full (ihb hinner hname) hrest
    · rcases List.mem_cons.mp hn with rfl | hn
      · exact .filledFull hname hrest
      · obtain ⟨inner, hinner, rfl⟩ := List.mem_map.mp hn
        exact .full hbody (ihr hinner hname)

/-- Once all nodes of the spellings are filled, the nodes left are the ones outside them. -/
lemma nodes_eq (h : Fills spellings t u) (hclean : ∀ n ∈ u.nodes, n.name ∉ spellings) :
    u.nodes = t.nodes.filter (Node.Outside spellings ·) := by
  induction h with
  | nil => rfl
  | text _ ih =>
    rw [nodes, nodes, Node.filter_past, ih fun n hn => hclean n.past (List.mem_map_of_mem hn)]
  | bare _ ih =>
    have hhead := hclean _ List.mem_cons_self
    rw [nodes, nodes, List.filter_cons_of_pos (by simpa [Node.Outside] using hhead),
      Node.filter_past, ih fun n hn =>
        hclean n.past (List.mem_cons_of_mem _ (List.mem_map_of_mem hn))]
  | @full head body body' rest rest' _ _ ihb ihr =>
    have hhead := hclean _ (List.mem_append_right _ List.mem_cons_self)
    have hbody := ihb fun n hn =>
      hclean (n.within head.name) (List.mem_append_left _ (List.mem_map_of_mem hn))
    have hrest := ihr fun n hn =>
      hclean n.past (List.mem_append_right _ (List.mem_cons_of_mem _ (List.mem_map_of_mem hn)))
    rw [nodes, nodes, List.filter_append,
      List.filter_cons_of_pos (by simpa [Node.Outside] using hhead), Node.filter_past,
      Node.filter_within _ hhead, ← hbody, ← hrest]
  | filledBare hfilled _ ih =>
    rw [nodes, nodes, List.filter_cons_of_neg (by simp [Node.Outside, hfilled]), Node.filter_past,
      ih fun n hn => hclean n.past (List.mem_map_of_mem hn)]
  | filledFull hfilled _ ih =>
    rw [nodes, nodes, List.filter_append, List.filter_cons_of_neg (by simp [Node.Outside, hfilled]),
      Node.filter_past, Node.filter_within_of_mem _ hfilled, List.nil_append,
      ih fun n hn => hclean n.past (List.mem_map_of_mem hn)]

/-- The nodes of a directive that earlier ones have left. -/
lemma pending_eq (h : Fills spellings t u) (hclean : ∀ n ∈ u.nodes, n.name ∉ spellings)
    {own : List String} (hdisjoint : spellings.Disjoint own) :
    pending own u = (t.nodes.filter fun n =>
      n.name ∈ own ∧ ∀ a ∈ n.ancestors, a ∉ spellings).map (·.path) := by
  rw [pending, h.nodes_eq hclean, List.filter_filter]
  refine congrArg _ (List.filter_congr fun n _ => ?_)
  rw [← Bool.decide_and, decide_eq_decide, Node.Outside]
  constructor
  · rintro ⟨hown, -, hancestors⟩
    exact ⟨hown, hancestors⟩
  · rintro ⟨hown, hancestors⟩
    exact ⟨hown, fun hname => hdisjoint hname hown, hancestors⟩

end Fills

end Template

end Pinboard
