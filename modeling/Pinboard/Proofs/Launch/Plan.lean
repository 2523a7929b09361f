import Pinboard.Proofs.Builtin.Deferral
import Pinboard.Proofs.Markup.Escaping

/-!
# Targets that launch pins

A plan is a target made of literals and calls of `launchPin`. To resolve it is to run the calls from
left to right; what is left are the literals. The other built-in directives find nothing in it.
-/
namespace Pinboard

open Markup

variable {σ : Type}

namespace Launch

variable {home text : String}

lemma expandHome_append (h : ¬text.isEmpty = true) (rest : String) :
    expandHome home (text ++ rest) = expandHome home text ++ rest := by
  cases hchars : text.toList with
  | nil => simp_all
  | cons c cs =>
    obtain rfl : text = String.ofList (c :: cs) := by rw [← hchars, String.ofList_toList]
    by_cases hc : c = '~'
    · subst hc
      simp [expandHome, String.append_assoc]
    · simp [expandHome, hc]

lemma braceless_expandHome (hhome : Braceless home.toList) (h : Braceless text.toList) :
    Braceless (expandHome home text).toList := by
  unfold expandHome
  split
  · rename_i cs hchars
    intro c hc
    rw [String.toList_append, String.toList_ofList, List.mem_append] at hc
    exact hc.elim (hhome c) fun hc => h c (hchars ▸ List.mem_cons_of_mem _ hc)
  · exact h

lemma expandHome_call (ref rest : String) :
    expandHome home ("\x7b\x7blaunchPin:" ++ ref ++ "\x7d\x7d" ++ rest) =
      "\x7b\x7blaunchPin:" ++ ref ++ "\x7d\x7d" ++ rest := by
  simp [expandHome]

end Launch

/-- Literals and calls of `launchPin`, each with what it refers to. -/
inductive Plan where
  | done
  | text (literal : Literal) (rest : Plan)
  | launch (ref : Literal) (rest : Plan)

namespace Plan

/-- The target as it is written. -/
def source : Plan → String
  | done => ""
  | text literal rest => literal.text ++ rest.source
  | launch ref rest => "\x7b\x7blaunchPin:" ++ ref.text ++ "\x7d\x7d" ++ rest.source

/-- What the calls refer to. -/
def refs : Plan → List String
  | done => []
  | text _ rest => rest.refs
  | launch ref rest => ref.text :: rest.refs

/-- What is left when the calls have given nothing. -/
def left : Plan → String
  | done => ""
  | text literal rest => literal.text ++ rest.left
  | launch _ rest => rest.left

/-- What the target is resolved to, the home directory taking the place of a tilde at its front. -/
def resolved (home : String) : Plan → String
  | done => ""
  | text literal rest =>
    if literal.text.isEmpty then rest.resolved home
    else Launch.expandHome home literal.text ++ rest.left
  | launch _ rest => rest.left

def launchHead : Head := bareHead "launchPin" (by decide)

def template : Plan → Template
  | done => .nil
  | text literal rest => .text literal rest.template
  | launch ref rest => .full launchHead (.text ref .nil) rest.template

/-- The plan with nothing in the place of its first call. -/
def next : Plan → Plan
  | done => done
  | text literal rest => text literal rest.next
  | launch _ rest => text .empty rest

variable (plan : Plan)

lemma toList_source : plan.source.toList = plan.template.render := by
  induction plan with
  | done => rfl
  | text literal rest ih => rw [source, String.toList_append, ih]; rfl
  | launch ref rest ih =>
    have hcall : "\x7b\x7blaunchPin:".toList =
        '\x7b' :: '\x7b' :: launchHead.inside none ++ [':'] := rfl
    have hclose : "\x7d\x7d".toList = ['\x7d', '\x7d'] := rfl
    simp [source, template, Template.render, Head.block, Head.inside_some, ih, hcall, hclose]

@[simp] lemma refs_next : plan.next.refs = plan.refs.tail := by
  induction plan with
  | done => rfl
  | text literal rest ih => exact ih
  | launch ref rest ih => rfl

@[simp] lemma left_next : plan.next.left = plan.left := by
  induction plan with
  | done => rfl
  | text literal rest ih => rw [next, left, left, ih]
  | launch ref rest ih => exact String.empty_append

lemma name_of_mem {n : Node} (hn : n ∈ plan.template.nodes) : n.name = "launchPin" := by
  induction plan generalizing n with
  | done => cases hn
  | text literal rest ih =>
    obtain ⟨n, hrest, rfl⟩ := List.mem_map.mp hn
    exact (ih hrest : n.name = "launchPin")
  | launch ref rest ih =>
    rcases List.mem_cons.mp (show n ∈ _ :: _ from hn) with rfl | hn
    · rfl
    · obtain ⟨n, hrest, rfl⟩ := List.mem_map.mp hn
      exact (ih hrest : n.name = "launchPin")

variable {plan} {spellings : List String}

/-- Without calls there is no brace in it. -/
lemma notMem_source (h : plan.refs = []) : '\x7b' ∉ plan.source.toList := by
  induction plan with
  | done => exact List.not_mem_nil
  | text literal rest ih =>
    rw [source, String.toList_append, List.mem_append, not_or]
    exact ⟨fun hc => (literal.braceless _ hc).1 rfl, ih h⟩
  | launch ref rest ih => cases h

lemma unmarked_source (h : plan.refs = []) : hasMarker plan.source.toList = false := by
  have hnil : hasMarker [] = false := rfl
  have hmarker := hasMarker_append_of_notMem (notMem_source h) hnil
  rwa [List.append_nil] at hmarker

lemma source_eq_left (h : plan.refs = []) : plan.source = plan.left := by
  induction plan with
  | done => rfl
  | text literal rest ih => rw [source, left, ih h]
  | launch ref rest ih => cases h

/-- With a home directory without braces in the place of a tilde at its front it is a plan still. -/
lemma exists_expanded {home : String} (hhome : Braceless home.toList) (plan : Plan) :
    ∃ plan' : Plan, plan'.source = Launch.expandHome home plan.source ∧ plan'.refs = plan.refs ∧
      plan'.left = plan.resolved home := by
  induction plan with
  | done => exact ⟨done, rfl, rfl, rfl⟩
  | text literal rest ih =>
    rw [source, resolved]
    split
    · rename_i hempty
      rw [String.isEmpty_iff.mp hempty, String.empty_append]
      exact ih
    · rename_i hempty
      let expanded : Literal :=
        ⟨Launch.expandHome home literal.text, Launch.braceless_expandHome hhome literal.braceless⟩
      refine ⟨text expanded rest, ?_, rfl, rfl⟩
      rw [Launch.expandHome_append hempty]
      rfl
  | launch ref rest ih => exact ⟨launch ref rest, (Launch.expandHome_call ..).symm, rfl, rfl⟩

/-- The first call is the first node that a search for it meets. -/
lemma first_call (hspelled : "launchPin" ∈ spellings) {ref : String} {refs : List String}
    (h : plan.refs = ref :: refs) (start : Nat) :
    ∃ path paths m, Template.pending spellings plan.template = path :: paths ∧
      plan.template.occurrenceAt? start path = some m ∧ m.bodyText = ref ∧
      plan.template.put .empty path = plan.next.template := by
  induction plan generalizing start with
  | done => cases h
  | text literal rest ih =>
    obtain ⟨path, paths, m, hpending, hat, hbody, hput⟩ :=
      ih h (start + literal.text.toList.length)
    refine ⟨.past :: path, paths.map (.past :: ·), m, ?_, hat, hbody, ?_⟩
    · rw [template, Template.pending_text, hpending, List.map_cons]
    · rw [template, Template.put, hput]; rfl
  | launch first rest ih =>
    obtain ⟨rfl, rfl⟩ := List.cons.inj h
    have hname : launchHead.name ∈ spellings := hspelled
    refine ⟨[], (Template.pending spellings rest.template).map (.past :: ·), _, ?_, rfl, ?_, rfl⟩
    · rw [template, Template.pending_full, if_pos hname]; rfl
    · simp [Occurrence.bodyText, Head.occurrence, Template.render]

/-- A call is marked. -/
lemma refs_of_unmarked (h : hasMarker plan.source.toList = false) : plan.refs = [] := by
  cases hrefs : plan.refs with
  | nil => rfl
  | cons ref refs =>
    have hplain : ∀ s ∈ ["launchPin"], IsPlain s := by decide
    obtain ⟨path, paths, m, hpending, hat, -⟩ := first_call List.mem_cons_self hrefs 0
    have hfind := Template.find?_render hplain plan.template
    rw [Template.first?, hpending, List.head?_cons, Option.bind_some, hat, ← toList_source,
      find?_unmarked h] at hfind
    cases hfind

end Plan

/-! ## A resolution -/

/-- A directive is run on calls with some bodies one after the other and gives nothing. -/
inductive Directive.RunsFor (d : Directive σ) (reentry : Option (Reentry σ)) (context : Context) :
    List String → σ → σ → Prop
  | nil {w : σ} : RunsFor d reentry context [] w w
  | cons {m : Occurrence} {refs : List String} {w w₁ w' : σ}
      (hrun : (d.run m context reentry).run w = (Reply.nothing, w₁))
      (rest : RunsFor d reentry context refs w₁ w') :
      RunsFor d reentry context (m.bodyText :: refs) w w'

/-- A sweep over a plan runs its calls, if they give nothing, and leaves the literals. -/
lemma Sweep.Loop.of_plan {d : Directive σ} {reentry : Option (Reentry σ)} (hd : d.IsOrdinary)
    (hplain : ∀ s ∈ d.spellings, IsPlain s) (hspelled : "launchPin" ∈ d.spellings)
    (hnothing : ∀ m context w, ((d.run m context reentry).run w).1 = Reply.nothing)
    {refs : List String} {plan : Plan} (hrefs : plan.refs = refs) {allowance replaced : Nat}
    (hallowance : replaced + refs.length ≤ allowance) (context : Context) (w : σ) :
    ∃ (turns : List Turn) (plan' : Plan) (w' : σ), d.RunsFor reentry context refs w w' ∧
      Loop d reentry allowance ⟨plan.template.render, context, 0, [], replaced⟩ w turns
        ⟨plan'.template.render, context, 0, [], replaced + refs.length⟩ w' ∧
      plan'.refs = [] ∧ plan'.left = plan.left := by
  induction refs generalizing plan replaced w with
  | nil =>
    refine ⟨[], plan, w, .nil, ?_, hrefs, rfl⟩
    by_cases hleft : replaced < allowance
    · exact .absent hleft (find?_unmarked (plan.toList_source ▸ Plan.unmarked_source hrefs))
    · exact .spent (by simpa using hleft)
  | cons ref refs ih =>
    obtain ⟨path, paths, m, hpending, hat, hbody, hput⟩ := Plan.first_call hspelled hrefs 0
    obtain ⟨m', hat', hfind⟩ := find?_first hd hplain hpending
    obtain rfl : m = m' := Option.some.inj (hat.symm.trans hat')
    cases hrun : (d.run m context reentry).run w with
    | mk reply w₁ =>
    obtain rfl : reply = Reply.nothing := by
      have hreply := hnothing m context w
      rwa [hrun] at hreply
    have hnext : plan.next.refs = refs := by rw [plan.refs_next, hrefs, List.tail_cons]
    rw [List.length_cons] at hallowance ⊢
    obtain ⟨turns, plan', w', hruns, hloop, hdone, hleft⟩ :=
      ih hnext (by omega : replaced + 1 + refs.length ≤ allowance) w₁
    have hcount : replaced + (refs.length + 1) = replaced + 1 + refs.length := by omega
    refine ⟨.handled m Reply.nothing :: turns, plan', w', hbody ▸ .cons hrun hruns, ?_, hdone,
      hleft.trans plan.left_next⟩
    rw [hcount]
    exact .of_put hd.fresh hd.ungated hat hfind hrun rfl (by omega) (hput ▸ hloop)

namespace Builtin

variable (services : Services σ)

lemma isPlain_of_mem {d : Directive σ} (hd : d ∈ directives services) :
    ∀ s ∈ d.spellings, IsPlain s := by
  intro s hs
  have hclaim : (s, d.name) ∈ claims (directives services) :=
    List.mem_flatMap.mpr ⟨d, hd, List.mem_map_of_mem hs⟩
  have hplain : ∀ claim ∈ claimsOf spellingTable, IsPlain claim.1 := by decide +kernel
  rw [claims_directives] at hclaim
  exact hplain _ hclaim

lemma launchPin_mem : launchPin services ∈ directives services := by
  have heffect : launchPin services ∈ effects services := .tail _ (.tail _ (.tail _ (.head _)))
  simp only [directives, List.mem_append]
  exact .inl (.inl (.inr heffect))

/-- In the order of resolution, all directives but one have none of its spellings. -/
lemma exists_around {d : Directive σ} (hd : d ∈ directives services) :
    ∃ before after, (registry services).ordered = before ++ d :: after ∧
      ∀ d' ∈ before ++ after, d' ∈ directives services ∧ d.spellings.Disjoint d'.spellings := by
  obtain ⟨before, after, hsplit⟩ :=
    List.append_of_mem (Registry.mem_ordered.mpr hd : d ∈ (registry services).ordered)
  refine ⟨before, after, hsplit, fun d' hd' => ?_⟩
  have hmem : d' ∈ (registry services).ordered := by
    rw [hsplit]
    exact List.mem_append.mpr ((List.mem_append.mp hd').imp_right (List.mem_cons_of_mem d))
  have hdisjoint := (registry services).pairwise_disjoint
  rw [hsplit, List.pairwise_append, List.pairwise_cons] at hdisjoint
  refine ⟨Registry.mem_ordered.mp hmem, ?_⟩
  rcases List.mem_append.mp hd' with hbefore | hafter
  · exact (hdisjoint.2.2 d' hbefore d List.mem_cons_self).symm
  · exact hdisjoint.2.1.1 d' hafter

lemma launchPin_isOrdinary : (launchPin services).IsOrdinary := ⟨rfl, rfl, rfl⟩

lemma only_launchPin (m : Occurrence) (context : Context) (reentry : Option (Reentry σ)) :
    Action.Only ((launchPin services).handler m context reentry) Reply.nothing := by
  simp only [launchPin, directive]
  split
  all_goals
    refine .bind fun found => ?_
    split
    · exact .bind fun _ => Action.only_pure _
    · exact Action.only_pure _

lemma run_launchPin (m : Occurrence) (context : Context) (reentry : Option (Reentry σ)) (w : σ) :
    ((launchPin services).run m context reentry).run w =
      (Reply.nothing, (((launchPin services).handler m context reentry).run.run w).2) :=
  (only_launchPin services m context reentry).run_orElse w

/-- A pass over a plan runs its calls and leaves the literals. -/
lemma exists_round {limit : Nat} (reentry : Option (Reentry σ)) {plan : Plan}
    (hlimit : plan.refs.length ≤ limit) (context : Context) (w : σ) :
    ∃ (log : List Entry) (plan' : Plan) (p : Progress) (w' : σ),
      (launchPin services).RunsFor reentry context plan.refs w w' ∧
      Progress.Round limit reentry (registry services).ordered
        ⟨plan.source.toList, context, [], false⟩ w log p w' ∧
      p.text = plan'.source.toList ∧ p.context = context ∧ plan'.refs = [] ∧
      plan'.left = plan.left := by
  obtain ⟨before, after, hordered, hothers⟩ := exists_around services (launchPin_mem services)
  have habsent : ∀ d ∈ before ++ after, ∀ plan : Plan,
      find? d.spellings (!d.eager) 0 plan.source.toList = none := fun d hd plan => by
    obtain ⟨hmem, hdisjoint⟩ := hothers d hd
    rw [plan.toList_source]
    refine Template.find?_absent (isPlain_of_mem services hmem) (fun n hn hname => ?_) _
    rw [plan.name_of_mem hn] at hname
    exact hdisjoint List.mem_cons_self hname
  have hnothing : ∀ m context w, (((launchPin services).run m context reentry).run w).1 =
      Reply.nothing := fun m context w => by rw [run_launchPin]
  obtain ⟨turns, plan', w', hruns, hloop, hdone, hleft⟩ :=
    Sweep.Loop.of_plan (launchPin_isOrdinary services)
      (isPlain_of_mem services (launchPin_mem services)) List.mem_cons_self hnothing rfl
      (by omega : 0 + plan.refs.length ≤ limit - 0) context w
  rw [← plan.toList_source, ← plan'.toList_source] at hloop
  obtain ⟨p, hround, htext, hcontext⟩ := Progress.Round.of_only
    (p := ⟨plan.source.toList, context, [], false⟩)
    (fun d hd => habsent d (List.mem_append_left _ hd) plan) hloop
    fun d hd => habsent d (List.mem_append_right _ hd) plan'
  rw [← hordered] at hround
  exact ⟨_, plan', p, w', hruns, hround, htext, hcontext, hdone, hleft⟩

/-- To resolve a plan is to run its calls, and gives the literals. -/
theorem resolveIn_plan (limit : Option Nat) (reentry : Option (Reentry σ)) {plan : Plan}
    {context : Context} (hlimit : plan.refs.length ≤ (resolver services limit).limitIn context)
    (w : σ) :
    ∃ w', (launchPin services).RunsFor reentry context plan.refs w w' ∧
      ((resolver services limit).resolveIn reentry plan.source context).run w =
        ((plan.left, context), w') := by
  cases hmarker : hasMarker plan.source.toList with
  | false =>
    have hrefs : plan.refs = [] := Plan.refs_of_unmarked hmarker
    refine ⟨w, hrefs ▸ .nil, ?_⟩
    rw [← Plan.source_eq_left hrefs]
    exact (Resolver.Course.unmarked hmarker).resolveIn_eq
  | true =>
    obtain ⟨log, plan', p, w', hruns, hround, htext, hcontext, hdone, hleft⟩ :=
      exists_round services reentry hlimit context w
    have hend : (p.changed && hasMarker p.text) = false := by
      rw [htext, Plan.unmarked_source hdone, Bool.and_false]
    have hcourse : (resolver services limit).Course reentry plan.source context w [log]
        (String.ofList p.text, p.context) w' := .resolved hmarker (.last hround hend)
    rw [htext, hcontext, String.ofList_toList, Plan.source_eq_left hdone, hleft] at hcourse
    exact ⟨w', hruns, hcourse.resolveIn_eq⟩

end Builtin

end Pinboard
