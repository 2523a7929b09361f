import Pinboard.Proofs.Markup.Headers
import Pinboard.Proofs.Markup.Scanning

/-!
# Templates

A template is a tree of literals and nodes. A node has the form of an occurrence, its body being a
template again, and its spelling need not belong to any directive. Templates are written to texts,
and a literal can be put in the place of a node, which is what the resolver does with occurrences.
-/
namespace Pinboard

open Markup

def Braceless (cs : List Char) : Prop := ∀ c ∈ cs, c ≠ '\x7b' ∧ c ≠ '\x7d'

instance : DecidablePred Braceless := fun cs => List.decidableBAll _ cs

structure Literal where
  text : String
  braceless : Braceless text.toList

/-- A spelling with a header that can be read alone. -/
structure Head where
  name : String
  header : String
  params : Fields String
  flags : List String
  plain : IsPlain name
  braceless : Braceless header.toList
  /-- A header begins with a blank. -/
  blank : ∀ c ∈ header.toList.head?, Text.isBlank c = true
  /-- No colon stands between the tokens of the header. -/
  read : Header.read? header.toList = some ⟨params, flags, none⟩

namespace Head

/-- What stands between the markers. -/
def inside (head : Head) : Option (List Char) → List Char
  | none => head.name.toList ++ head.header.toList
  | some body => head.name.toList ++ head.header.toList ++ ':' :: body

def block (head : Head) (body : Option (List Char)) : List Char :=
  '\x7b' :: '\x7b' :: head.inside body ++ ['\x7d', '\x7d']

/-- The occurrence that a node is in a text in which it starts at `start`. -/
def occurrence (head : Head) (start : Nat) (body : Option (List Char)) : Occurrence where
  text := String.ofList (head.block body)
  start := start
  stop := start + (head.block body).length
  name := head.name
  params := head.params
  flags := head.flags
  body := body.map String.ofList
  callArgs := none

end Head

/-- A sequence of literals and nodes without or with a body, each constructor having the pieces that
follow as its last argument. -/
inductive Template where
  | nil
  | text (literal : Literal) (rest : Template)
  | bare (head : Head) (rest : Template)
  | full (head : Head) (body rest : Template)

/-- A step towards a node, to the pieces after the first one or into its body. -/
inductive Step where
  | past
  | within
  deriving DecidableEq, Repr

abbrev Path := List Step

/-- A node with the spellings of the nodes around it, outermost first. -/
structure Node where
  path : Path
  name : String
  ancestors : List String
  deriving DecidableEq, Repr

namespace Node

def past (n : Node) : Node := { n with path := .past :: n.path }

def within (name : String) (n : Node) : Node :=
  { n with path := .within :: n.path, ancestors := name :: n.ancestors }

@[simp] lemma path_past (n : Node) : n.past.path = .past :: n.path := rfl

@[simp] lemma name_past (n : Node) : n.past.name = n.name := rfl

@[simp] lemma ancestors_past (n : Node) : n.past.ancestors = n.ancestors := rfl

@[simp] lemma path_within (name : String) (n : Node) :
    (n.within name).path = .within :: n.path := rfl

@[simp] lemma name_within (name : String) (n : Node) : (n.within name).name = n.name := rfl

@[simp] lemma ancestors_within (name : String) (n : Node) :
    (n.within name).ancestors = name :: n.ancestors := rfl

end Node

namespace Template

/-- The text of a template. -/
def render : Template → List Char
  | nil => []
  | text literal rest => literal.text.toList ++ rest.render
  | bare head rest => head.block none ++ rest.render
  | full head body rest => head.block (some body.render) ++ rest.render

/-- The nodes from left to right, each after the nodes in its body. -/
def nodes : Template → List Node
  | nil => []
  | text _ rest => rest.nodes.map Node.past
  | bare head rest => ⟨[], head.name, []⟩ :: rest.nodes.map Node.past
  | full head body rest =>
    body.nodes.map (Node.within head.name) ++ ⟨[], head.name, []⟩ :: rest.nodes.map Node.past

/-- The occurrence that the node at a path is in the text of the template, which starts at
`start`. -/
def occurrenceAt? (start : Nat) : Template → Path → Option Occurrence
  | bare head _, [] => some (head.occurrence start none)
  | full head body _, [] => some (head.occurrence start (some body.render))
  | text literal rest, .past :: path =>
    occurrenceAt? (start + literal.text.toList.length) rest path
  | bare head rest, .past :: path => occurrenceAt? (start + (head.block none).length) rest path
  | full head body rest, .past :: path =>
    occurrenceAt? (start + (head.block (some body.render)).length) rest path
  | full head body _, .within :: path =>
    occurrenceAt? (start + (head.inside none).length + 3) body path
  | _, _ => none

/-- Put a literal in the place of the node at a path. -/
def put (literal : Literal) : Template → Path → Template
  | bare _ rest, [] => text literal rest
  | full _ _ rest, [] => text literal rest
  | text first rest, .past :: path => text first (rest.put literal path)
  | bare head rest, .past :: path => bare head (rest.put literal path)
  | full head body rest, .past :: path => full head body (rest.put literal path)
  | full head body rest, .within :: path => full head (body.put literal path) rest
  | t, _ => t

/-- The paths of the nodes with one of some spellings. -/
def pending (spellings : List String) (t : Template) : List Path :=
  (t.nodes.filter (·.name ∈ spellings)).map (·.path)

section Pending

variable (spellings : List String)

lemma paths_past (ns : List Node) :
    ((ns.map Node.past).filter (·.name ∈ spellings)).map (·.path) =
      ((ns.filter (·.name ∈ spellings)).map (·.path)).map (.past :: ·) := by
  rw [List.filter_map, List.map_map, List.map_map]
  rfl

lemma paths_within (name : String) (ns : List Node) :
    ((ns.map (Node.within name)).filter (·.name ∈ spellings)).map (·.path) =
      ((ns.filter (·.name ∈ spellings)).map (·.path)).map (.within :: ·) := by
  rw [List.filter_map, List.map_map, List.map_map]
  rfl

variable (literal : Literal) (head : Head) (body rest : Template)

@[simp] lemma pending_nil : pending spellings nil = [] := rfl

@[simp] lemma pending_text :
    pending spellings (text literal rest) = (pending spellings rest).map (.past :: ·) :=
  paths_past spellings rest.nodes

@[simp] lemma pending_bare : pending spellings (bare head rest) =
    (if head.name ∈ spellings then [[]] else []) ++ (pending spellings rest).map (.past :: ·) := by
  rw [pending, nodes, List.filter_cons]
  split <;> simp_all [pending, paths_past]

@[simp] lemma pending_full : pending spellings (full head body rest) =
    (pending spellings body).map (.within :: ·) ++
      ((if head.name ∈ spellings then [[]] else []) ++
        (pending spellings rest).map (.past :: ·)) := by
  rw [pending, nodes, List.filter_append, List.filter_cons, List.map_append, paths_within]
  split <;> simp_all [pending, paths_past]

end Pending

lemma mem_pending {spellings : List String} {t : Template} {path : Path} :
    path ∈ pending spellings t ↔ ∃ n ∈ t.nodes, n.name ∈ spellings ∧ n.path = path := by
  simp [pending, and_assoc]

lemma pending_eq_nil {spellings : List String} {t : Template} :
    pending spellings t = [] ↔ ∀ n ∈ t.nodes, n.name ∉ spellings := by
  simp [pending, List.filter_eq_nil_iff]

/-- Every node is an occurrence of its spelling. -/
lemma exists_occurrenceAt? {t : Template} {n : Node} (h : n ∈ t.nodes) (start : Nat) :
    ∃ m, t.occurrenceAt? start n.path = some m ∧ m.name = n.name := by
  induction t generalizing n start with
  | nil => simp [nodes] at h
  | text literal rest ih =>
    obtain ⟨n, hn, rfl⟩ := List.mem_map.mp h
    exact ih hn _
  | bare head rest ih =>
    rcases List.mem_cons.mp h with rfl | h
    · exact ⟨_, rfl, rfl⟩
    · obtain ⟨n, hn, rfl⟩ := List.mem_map.mp h
      exact ih hn _
  | full head body rest ihb ihr =>
    rcases List.mem_append.mp h with h | h
    · obtain ⟨n, hn, rfl⟩ := List.mem_map.mp h
      exact ihb hn _
    · rcases List.mem_cons.mp h with rfl | h
      · exact ⟨_, rfl, rfl⟩
      · obtain ⟨n, hn, rfl⟩ := List.mem_map.mp h
        exact ihr hn _

/-- Different nodes have different paths. -/
lemma nodup_paths (t : Template) : (t.nodes.map (·.path)).Nodup := by
  induction t with
  | nil => simp [nodes]
  | text literal rest ih =>
    have hrest := ih.map (List.cons_injective (a := Step.past))
    simpa [nodes, Function.comp_def] using hrest
  | bare head rest ih =>
    have hrest := ih.map (List.cons_injective (a := Step.past))
    rw [nodes, List.map_cons, List.nodup_cons]
    exact ⟨by simp, by simpa [Function.comp_def] using hrest⟩
  | full head body rest ihb ihr =>
    have hbody := ihb.map (List.cons_injective (a := Step.within))
    have hrest := ihr.map (List.cons_injective (a := Step.past))
    rw [nodes, List.map_append, List.map_cons, List.nodup_append, List.nodup_cons]
    refine ⟨by simpa [Function.comp_def] using hbody,
      ⟨by simp, by simpa [Function.comp_def] using hrest⟩, ?_⟩
    simp

/-- Once the first node with one of some spellings is replaced, the others are left. -/
lemma pending_put {spellings : List String} {t : Template} {path : Path} {paths : List Path}
    (literal : Literal) (h : pending spellings t = path :: paths) :
    pending spellings (t.put literal path) = paths := by
  induction t generalizing path paths with
  | nil => simp at h
  | text first rest ih =>
    rw [pending_text, List.map_eq_cons_iff] at h
    obtain ⟨path, paths, hrest, rfl, rfl⟩ := h
    rw [put, pending_text, ih hrest]
  | bare head rest ih =>
    rw [pending_bare] at h
    by_cases hname : head.name ∈ spellings
    · rw [if_pos hname, List.singleton_append] at h
      obtain ⟨rfl, rfl⟩ := List.cons.inj h
      rw [put, pending_text]
    · rw [if_neg hname, List.nil_append, List.map_eq_cons_iff] at h
      obtain ⟨path, paths, hrest, rfl, rfl⟩ := h
      rw [put, pending_bare, if_neg hname, ih hrest, List.nil_append]
  | full head body rest ihb ihr =>
    rw [pending_full] at h
    cases hbody : pending spellings body with
    | cons inner inners =>
      rw [hbody, List.map_cons, List.cons_append] at h
      obtain ⟨rfl, rfl⟩ := List.cons.inj h
      rw [put, pending_full, ihb hbody]
    | nil =>
      rw [hbody, List.map_nil, List.nil_append] at h
      by_cases hname : head.name ∈ spellings
      · rw [if_pos hname, List.singleton_append] at h
        obtain ⟨rfl, rfl⟩ := List.cons.inj h
        rw [put, pending_text]
      · rw [if_neg hname, List.nil_append, List.map_eq_cons_iff] at h
        obtain ⟨path, paths, hrest, rfl, rfl⟩ := h
        rw [put, pending_full, hbody, if_neg hname, ihr hrest, List.map_nil, List.nil_append,
          List.nil_append]

/-- Putting a literal in the place of a node leaves other nodes as they are. -/
lemma mem_nodes_put {literal : Literal} {t : Template} {path : Path} {n : Node}
    (h : n ∈ (t.put literal path).nodes) : n ∈ t.nodes := by
  fun_induction put literal t path generalizing n with
  | case1 head rest =>
    exact List.mem_cons_of_mem _ h
  | case2 head body rest =>
    exact List.mem_append_right _ (List.mem_cons_of_mem _ h)
  | case3 first rest path ih =>
    obtain ⟨n, hn, rfl⟩ := List.mem_map.mp h
    exact List.mem_map_of_mem (ih hn)
  | case4 head rest path ih =>
    rcases List.mem_cons.mp h with rfl | h
    · exact List.mem_cons_self
    · obtain ⟨n, hn, rfl⟩ := List.mem_map.mp h
      exact List.mem_cons_of_mem _ (List.mem_map_of_mem (ih hn))
  | case5 head body rest path ih =>
    rcases List.mem_append.mp h with h | h
    · exact List.mem_append_left _ h
    · refine List.mem_append_right _ ?_
      rcases List.mem_cons.mp h with rfl | h
      · exact List.mem_cons_self
      · obtain ⟨n, hn, rfl⟩ := List.mem_map.mp h
        exact List.mem_cons_of_mem _ (List.mem_map_of_mem (ih hn))
  | case6 head body rest path ih =>
    rcases List.mem_append.mp h with h | h
    · obtain ⟨n, hn, rfl⟩ := List.mem_map.mp h
      exact List.mem_append_left _ (List.mem_map_of_mem (ih hn))
    · exact List.mem_append_right _ h
  | case7 t path => exact h

end Template

end Pinboard
