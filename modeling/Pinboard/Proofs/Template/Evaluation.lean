import Pinboard.Proofs.Resolution.Bounds
import Pinboard.Proofs.Template.Scanning
import Pinboard.Proofs.Template.Schedule

/-!
# Templates are evaluated along their schedule

The resolver searches a flat text over and over and splices results into it. For the text of a
template this amounts to going through a schedule of its nodes that is known beforehand. Each run of
a handler sees the node with the results so far in its body, and the text at the end is that of the
template with all results.
-/
namespace Pinboard

open Markup Template

variable {σ : Type}

/-- A directive that is run wherever it occurs, from the inside out and each time anew. -/
structure Directive.IsOrdinary (d : Directive σ) : Prop where
  inward : d.eager = false
  fresh : d.constant = false
  ungated : d.rules = []

/-- The handler's replies have texts without braces, whatever it does to the state. -/
def Directive.RepliesBraceless (d : Directive σ) (reentry : Option (Reentry σ)) : Prop :=
  ∀ m context w, Braceless ((d.run m context reentry).run w).1.text.toList

/-- The context with what a reply names. -/
def Context.learned (context : Context) (reply : Reply) : Context :=
  if reply.outputs.isEmpty then context else context.withOutputs reply.outputs

/-- The nodes of a template run one after the other, the reply to each being put in its place. The
template, the context and the state are those at the beginning and at the end. -/
inductive Performs (reentry : Option (Reentry σ)) :
    List (Directive σ × Path) → Template → Context → σ → List Entry → Template → Context → σ → Prop
  | nil {t : Template} {context : Context} {w : σ} :
      Performs reentry [] t context w [] t context w
  | cons {d : Directive σ} {path : Path} {schedule : List (Directive σ × Path)}
      {t t' : Template} {context context' : Context} {w w₁ w' : σ} {m : Occurrence} {reply : Reply}
      {literal : Literal} {log : List Entry}
      (hat : t.occurrenceAt? 0 path = some m)
      (hrun : (d.run m context reentry).run w = (reply, w₁))
      (htext : literal.text = reply.text)
      (rest : Performs reentry schedule (t.put literal path) (context.learned reply) w₁
        log t' context' w') :
      Performs reentry ((d, path) :: schedule) t context w ((d.name, .handled m reply) :: log)
        t' context' w'

lemma Performs.append {reentry : Option (Reentry σ)}
    {schedule schedule' : List (Directive σ × Path)}
    {t t₁ t' : Template} {context context₁ context' : Context} {w w₁ w' : σ} {log log' : List Entry}
    (h : Performs reentry schedule t context w log t₁ context₁ w₁)
    (h' : Performs reentry schedule' t₁ context₁ w₁ log' t' context' w') :
    Performs reentry (schedule ++ schedule') t context w (log ++ log') t' context' w' := by
  induction h with
  | nil => exact h'
  | cons hat hrun htext _ ih => exact .cons hat hrun htext (ih h')

/-! ## Splicing -/

lemma splice_block (head : Head) (body : Option (List Char)) (before after : List Char)
    (result : String) :
    Sweep.splice (before ++ (head.block body ++ after)) (head.occurrence before.length body)
        result =
      before ++ (result.toList ++ after) := by
  have hbehind : before ++ (head.block body ++ after) = (before ++ head.block body) ++ after := by
    rw [List.append_assoc]
  rw [Sweep.splice, Head.occurrence, List.take_left' rfl, hbehind,
    List.drop_left' List.length_append, List.append_assoc]

/-- To splice a result into the text of a template is to put it in the place of the node. -/
lemma splice_render {t : Template} {path : Path} {m : Occurrence} {start : Nat} (literal : Literal)
    {before : List Char} (hstart : before.length = start) (after : List Char)
    (h : t.occurrenceAt? start path = some m) :
    Sweep.splice (before ++ (t.render ++ after)) m literal.text =
      before ++ ((t.put literal path).render ++ after) := by
  fun_induction occurrenceAt? start t path generalizing before after with
  | case1 start head rest =>
    obtain rfl := Option.some.inj h
    subst hstart
    rw [Template.render, put, Template.render, List.append_assoc, splice_block, List.append_assoc]
  | case2 start head body rest =>
    obtain rfl := Option.some.inj h
    subst hstart
    rw [Template.render, put, Template.render, List.append_assoc, splice_block, List.append_assoc]
  | case3 start first rest path ih =>
    have hbefore : (before ++ first.text.toList).length = start + first.text.toList.length := by
      rw [List.length_append, hstart]
    simpa [Template.render, put] using ih hbefore after h
  | case4 start head rest path ih =>
    have hbefore : (before ++ head.block none).length = start + (head.block none).length := by
      rw [List.length_append, hstart]
    simpa [Template.render, put] using ih hbefore after h
  | case5 start head body rest path ih =>
    have hbefore : (before ++ head.block (some body.render)).length =
        start + (head.block (some body.render)).length := by
      rw [List.length_append, hstart]
    simpa [Template.render, put] using ih hbefore after h
  | case6 start head body rest path ih =>
    have hbefore : (before ++ ('\x7b' :: '\x7b' :: head.inside none ++ [':'])).length =
        start + (head.inside none).length + 3 := by
      simp only [List.length_append, List.length_cons, List.length_nil]
      omega
    have hbody := ih hbefore ('\x7d' :: '\x7d' :: (rest.render ++ after)) h
    simpa [Template.render, put, Head.block, Head.inside_some] using hbody
  | case7 => simp at h

/-! ## A sweep -/

namespace Sweep

variable {d : Directive σ} {reentry : Option (Reentry σ)}

lemma find?_first (hd : d.IsOrdinary) (hplain : ∀ s ∈ d.spellings, IsPlain s) {t : Template}
    {path : Path} {paths : List Path} (hpending : pending d.spellings t = path :: paths) :
    ∃ m, t.occurrenceAt? 0 path = some m ∧
      find? d.spellings (!d.eager) 0 t.render = some m := by
  obtain ⟨n, hn, -, rfl⟩ := mem_pending.mp (hpending ▸ List.mem_cons_self)
  obtain ⟨m, hm, -⟩ := exists_occurrenceAt? hn 0
  refine ⟨m, hm, ?_⟩
  rw [hd.inward, Bool.not_false, find?_render hplain, first?, hpending]
  exact hm

lemma find?_done (hd : d.IsOrdinary) (hplain : ∀ s ∈ d.spellings, IsPlain s) {t : Template}
    (hpending : pending d.spellings t = []) : find? d.spellings (!d.eager) 0 t.render = none := by
  rw [hd.inward, Bool.not_false, find?_render hplain, first?, hpending]
  rfl

/-- A handler's reply is put in the place of the node that was found. -/
lemma Loop.of_put (hfresh : d.constant = false) (hungated : d.rules = []) {t : Template}
    {path : Path} {m : Occurrence} (hat : t.occurrenceAt? 0 path = some m)
    (hfind : find? d.spellings (!d.eager) 0 t.render = some m) {context : Context} {reply : Reply}
    {w w₁ w' : σ} (hrun : (d.run m context reentry).run w = (reply, w₁)) {literal : Literal}
    (htext : literal.text = reply.text) {allowance replaced : Nat} (hleft : replaced < allowance)
    {turns : List Turn} {s' : Sweep}
    (rest : Loop d reentry allowance
      ⟨(t.put literal path).render, context.learned reply, 0, [], replaced + 1⟩ w₁ turns s' w') :
    Loop d reentry allowance ⟨t.render, context, 0, [], replaced⟩ w (.handled m reply :: turns)
      s' w' := by
  have hknown : d.known? context [] m = none := by simp [Directive.known?, hfresh]
  have hrules : (d.applies m.text context).run w = (true, w) := by
    rw [Directive.applies, hungated]
    rfl
  have hsplice : splice t.render m reply.text = (t.put literal path).render := by
    simpa [htext] using splice_render literal (List.length_nil) [] hat
  have hsweep : (learn ⟨t.render, context, 0, [], replaced⟩ d m reply).substitute ⟨m, 0, none⟩
      reply.text =
        ⟨(t.put literal path).render, context.learned reply, 0, [], replaced + 1⟩ := by
    simp only [learn, substitute, hfresh, hsplice, Context.learned]
    rfl
  refine .handled hleft hfind hknown hrules hrun ?_
  rw [hsweep]
  exact rest

/-- A sweep over the text of a template runs the directive on its nodes in post-order. -/
theorem Loop.of_template (hd : d.IsOrdinary) (hplain : ∀ s ∈ d.spellings, IsPlain s)
    (hreplies : d.RepliesBraceless reentry) {paths : List Path} {t : Template}
    (hpending : pending d.spellings t = paths) {allowance replaced : Nat}
    (hallowance : replaced + paths.length ≤ allowance) (context : Context) (w : σ) :
    ∃ turns t' context' w',
      Performs reentry (paths.map (d, ·)) t context w (turns.map (d.name, ·)) t' context' w' ∧
      Loop d reentry allowance ⟨t.render, context, 0, [], replaced⟩ w turns
        ⟨t'.render, context', 0, [], replaced + paths.length⟩ w' ∧
      pending d.spellings t' = [] ∧ (∀ n ∈ t'.nodes, n ∈ t.nodes) ∧
      ∀ spellings u, d.spellings ⊆ spellings → Fills spellings u t → Fills spellings u t' := by
  induction paths generalizing t replaced context w with
  | nil =>
    have hloop : ∃ turns, turns = [] ∧ Loop d reentry allowance
        ⟨t.render, context, 0, [], replaced⟩ w turns ⟨t.render, context, 0, [], replaced⟩ w := by
      by_cases hleft : replaced < allowance
      · exact ⟨[], rfl, .absent hleft (find?_done hd hplain hpending)⟩
      · exact ⟨[], rfl, .spent (by simpa using hleft)⟩
    obtain ⟨_, rfl, hloop⟩ := hloop
    exact ⟨[], t, context, w, .nil, hloop, hpending, fun _ h => h, fun _ _ _ h => h⟩
  | cons path paths ih =>
    obtain ⟨m, hm, hfind⟩ := find?_first hd hplain hpending
    obtain ⟨n, hn, hname, hpath⟩ := mem_pending.mp (hpending ▸ List.mem_cons_self)
    cases hrun : (d.run m context reentry).run w with
    | mk reply w₁ =>
    have hbraceless : Braceless reply.text.toList := by
      have hreply := hreplies m context w
      rwa [hrun] at hreply
    let literal : Literal := ⟨reply.text, hbraceless⟩
    have hnext := pending_put literal hpending
    rw [List.length_cons] at hallowance
    have hleft : replaced + 1 + paths.length ≤ allowance := by omega
    obtain ⟨turns, t', context', w', hperforms, hloop, hdone, hnodes, hfills⟩ :=
      ih hnext hleft (context.learned reply) w₁
    refine ⟨.handled m reply :: turns, t', context', w', .cons hm hrun rfl hperforms, ?_, hdone,
      fun n' hn' => mem_nodes_put (hnodes n' hn'), fun spellings u hsub hu => ?_⟩
    · have hcount : replaced + (paths.length + 1) = replaced + 1 + paths.length := by omega
      rw [List.length_cons, hcount]
      exact .of_put hd.fresh hd.ungated hm hfind hrun rfl (by omega) hloop
    · refine hfills spellings u hsub ?_
      rw [← hpath]
      exact hu.put hn (hsub hname) literal

end Sweep

/-! ## Passes -/

namespace Progress

variable {limit : Nat} {reentry : Option (Reentry σ)}

/-- A pass over the text of a template, some directives having gone before, follows the schedule and
leaves no node of a directive. -/
theorem Round.of_template {ds : List (Directive σ)} (hds : ∀ d ∈ ds, d.IsOrdinary)
    (hplain : ∀ d ∈ ds, ∀ s ∈ d.spellings, IsPlain s)
    (hreplies : ∀ d ∈ ds, d.RepliesBraceless reentry)
    (hdisjoint : ds.Pairwise fun d d' => d.spellings.Disjoint d'.spellings) {t u : Template}
    (hlimit : ∀ d ∈ ds, t.nodes.countP (·.name ∈ d.spellings) ≤ limit) {earlier : List String}
    (hearlier : ∀ d ∈ ds, earlier.Disjoint d.spellings) (hfills : Fills earlier t u)
    (hclean : ∀ n ∈ u.nodes, n.name ∉ earlier) {p : Progress} (htext : p.text = u.render)
    (hcount : ∀ d ∈ ds, p.count d.name = 0) (w : σ) :
    ∃ log u' p' w',
      Performs reentry (scheduleFrom earlier ds t) u p.context w log u' p'.context w' ∧
      Round limit reentry ds p w log p' w' ∧ p'.text = u'.render ∧ (∀ n ∈ u'.nodes, n ∈ u.nodes) ∧
      ∀ d ∈ ds, pending d.spellings u' = [] := by
  induction ds generalizing earlier u p w with
  | nil => exact ⟨[], u, p, w, .nil, .nil, htext, fun _ h => h, by simp⟩
  | cons d ds ih =>
    obtain ⟨hfirst, hlater⟩ := List.pairwise_cons.mp hdisjoint
    have hpending := hfills.pending_eq hclean (hearlier d List.mem_cons_self)
    have hlength : (pending d.spellings u).length ≤ limit := by
      rw [hpending, List.length_map, ← List.countP_eq_length_filter]
      refine le_trans (List.countP_mono_left fun n _ hn => ?_) (hlimit d List.mem_cons_self)
      simp only [decide_eq_true_eq] at hn ⊢
      exact hn.1
    have hzero := hcount d List.mem_cons_self
    obtain ⟨turns, u₁, context₁, w₁, hperforms, hloop, hdone, hnodes, hkeeps⟩ :=
      Sweep.Loop.of_template (hds d List.mem_cons_self) (hplain d List.mem_cons_self)
        (hreplies d List.mem_cons_self) rfl
        (show 0 + (pending d.spellings u).length ≤ limit - p.count d.name by omega) p.context w
    rw [← htext] at hloop
    let swept : Sweep := ⟨u₁.render, context₁, 0, [], 0 + (pending d.spellings u).length⟩
    have hfills₁ : Fills (earlier ++ d.spellings) t u₁ :=
      hkeeps _ t (List.subset_append_right _ _) (hfills.mono (List.subset_append_left _ _))
    have hclean₁ : ∀ n ∈ u₁.nodes, n.name ∉ earlier ++ d.spellings := by
      intro n hn hname
      rcases List.mem_append.mp hname with hname | hname
      · exact hclean n (hnodes n hn) hname
      · exact pending_eq_nil.mp hdone n hn hname
    have hearlier₁ : ∀ d' ∈ ds, (earlier ++ d.spellings).Disjoint d'.spellings := fun d' hd' =>
      List.disjoint_append_left.mpr ⟨hearlier d' (List.mem_cons_of_mem _ hd'), hfirst d' hd'⟩
    have hcount₁ : ∀ d' ∈ ds, (p.after d swept).count d'.name = 0 := fun d' hd' => by
      have hother : d.name ≠ d'.name := fun hsame =>
        hfirst d' hd' List.mem_cons_self (hsame ▸ List.mem_cons_self)
      rw [count_after, if_neg hother]
      exact hcount d' (List.mem_cons_of_mem _ hd')
    obtain ⟨log, u', p', w', hperforms', hround, htext', hnodes', hdone'⟩ :=
      ih (fun d' hd' => hds d' (List.mem_cons_of_mem _ hd'))
        (fun d' hd' => hplain d' (List.mem_cons_of_mem _ hd'))
        (fun d' hd' => hreplies d' (List.mem_cons_of_mem _ hd')) hlater
        (fun d' hd' => hlimit d' (List.mem_cons_of_mem _ hd')) hearlier₁ hfills₁ hclean₁
        (show (p.after d swept).text = u₁.render from rfl) hcount₁ w₁
    refine ⟨turns.map (d.name, ·) ++ log, u', p', w', ?_, .cons hloop hround, htext',
      fun n hn => hnodes n (hnodes' n hn), ?_⟩
    · have hschedule : scheduleFrom earlier (d :: ds) t =
          (pending d.spellings u).map (d, ·) ++ scheduleFrom (earlier ++ d.spellings) ds t := by
        rw [scheduleFrom, hpending, List.map_map]
        rfl
      rw [hschedule]
      exact hperforms.append hperforms'
    · intro d' hd'
      rcases List.mem_cons.mp hd' with rfl | hd'
      · exact pending_eq_nil.mpr fun n hn => pending_eq_nil.mp hdone n (hnodes' n hn)
      · exact hdone' d' hd'

/-- A pass in which no search finds anything takes no turn. -/
lemma Round.of_absent (limit : Nat) (reentry : Option (Reentry σ)) {ds : List (Directive σ)}
    {p : Progress} (w : σ)
    (habsent : ∀ d ∈ ds, find? d.spellings (!d.eager) 0 p.text = none) :
    ∃ p', Round limit reentry ds p w [] p' w ∧ p'.text = p.text ∧ p'.context = p.context := by
  induction ds generalizing p with
  | nil => exact ⟨p, .nil, rfl, rfl⟩
  | cons d ds ih =>
    have hloop : Sweep.Loop d reentry (limit - p.count d.name) ⟨p.text, p.context, 0, [], 0⟩ w []
        ⟨p.text, p.context, 0, [], 0⟩ w := by
      by_cases hleft : 0 < limit - p.count d.name
      · exact .absent hleft (habsent d List.mem_cons_self)
      · exact .spent (show limit - p.count d.name ≤ 0 by omega)
    obtain ⟨p', hround, htext, hcontext⟩ :=
      ih (p := p.after d ⟨p.text, p.context, 0, [], 0⟩) fun d' hd' =>
        habsent d' (List.mem_cons_of_mem _ hd')
    exact ⟨p', .cons hloop hround, htext, hcontext⟩

/-- A pass in which one directive alone finds something is its sweep. -/
lemma Round.of_only {before after : List (Directive σ)} {d : Directive σ} {p : Progress} {w w' : σ}
    {turns : List Turn} {s : Sweep}
    (hbefore : ∀ d' ∈ before, find? d'.spellings (!d'.eager) 0 p.text = none)
    (hloop : Sweep.Loop d reentry (limit - p.count d.name) ⟨p.text, p.context, 0, [], 0⟩ w turns
      s w')
    (hafter : ∀ d' ∈ after, find? d'.spellings (!d'.eager) 0 s.text = none) :
    ∃ p', Round limit reentry (before ++ d :: after) p w (turns.map (d.name, ·)) p' w' ∧
      p'.text = s.text ∧ p'.context = s.context := by
  obtain ⟨p₁, hfirst, htext, hcontext⟩ := Round.of_absent limit reentry w hbefore
  obtain ⟨p', hlast, htext', hcontext'⟩ := Round.of_absent limit reentry
    (p := p₁.after d s) w' hafter
  have hcount : p₁.count d.name = p.count d.name := hfirst.count_eq _
  rw [← htext, ← hcontext, ← hcount] at hloop
  have hround := hfirst.append (.cons hloop hlast)
  rw [List.nil_append, List.append_nil] at hround
  exact ⟨p', hround, htext', hcontext'⟩

/-- A pass over a text that is one occurrence of one directive runs its handler once, if none of the
others finds anything before or after that. -/
lemma Round.of_whole {before after : List (Directive σ)} {d : Directive σ} {p : Progress}
    {w w₁ w' : σ} {m : Occurrence} {reply : Reply}
    (hbefore : ∀ d' ∈ before, find? d'.spellings (!d'.eager) 0 p.text = none)
    (hfind : find? d.spellings (!d.eager) 0 p.text = some m) (hstart : m.start = 0)
    (hstop : m.stop = p.text.length) (hunknown : d.known? p.context [] m = none)
    (hrules : (d.applies m.text p.context).run w = (true, w₁))
    (hrun : (d.run m p.context reentry).run w₁ = (reply, w'))
    (hallowance : 0 < limit - p.count d.name)
    (hdone : 1 < limit - p.count d.name →
      find? d.spellings (!d.eager) 0 reply.text.toList = none)
    (hafter : ∀ d' ∈ after, find? d'.spellings (!d'.eager) 0 reply.text.toList = none) :
    ∃ p', Round limit reentry (before ++ d :: after) p w [(d.name, .handled m reply)] p' w' ∧
      p'.text = reply.text.toList ∧ (reply.outputs = [] → p'.context = p.context) := by
  obtain ⟨s, hsweep, htext, hcontext⟩ :=
    Sweep.Loop.of_whole hfind hstart hstop hunknown hrules hrun hallowance hdone
  obtain ⟨p', hround, hsame, hkept⟩ := Round.of_only hbefore hsweep (htext ▸ hafter)
  exact ⟨p', hround, hsame.trans htext, fun houtputs => hkept.trans (hcontext houtputs)⟩

/-- The passes over the text of a template follow the schedule; if a second one is made it finds
nothing. -/
theorem Rounds.of_template {ds : List (Directive σ)} (hds : ∀ d ∈ ds, d.IsOrdinary)
    (hplain : ∀ d ∈ ds, ∀ s ∈ d.spellings, IsPlain s)
    (hreplies : ∀ d ∈ ds, d.RepliesBraceless reentry)
    (hdisjoint : ds.Pairwise fun d d' => d.spellings.Disjoint d'.spellings) {t : Template}
    (hlimit : ∀ d ∈ ds, t.nodes.countP (·.name ∈ d.spellings) ≤ limit) (context : Context) (w : σ) :
    ∃ logs t' p' w',
      Performs reentry (schedule ds t) t context w logs.flatten t' p'.context w' ∧
      Rounds limit reentry ds ⟨t.render, context, [], false⟩ w logs p' w' ∧ p'.text = t'.render ∧
      ∀ d ∈ ds, pending d.spellings t' = [] := by
  let start : Progress := ⟨t.render, context, [], false⟩
  have hstart : start.text = t.render := rfl
  obtain ⟨log, t', p', w', hperforms, hround, htext, -, hdone⟩ := Round.of_template hds hplain
    hreplies hdisjoint hlimit (fun d _ => List.disjoint_nil_left _) (Fills.refl [] t) (by simp)
    hstart (fun _ _ => rfl) w
  by_cases hmore : (p'.changed && hasMarker p'.text) = true
  · have habsent : ∀ d ∈ ds, find? d.spellings (!d.eager) 0 p'.text = none := fun d hd => by
      rw [htext]
      exact Sweep.find?_done (hds d hd) (hplain d hd) (hdone d hd)
    obtain ⟨p'', hround', htext', hcontext'⟩ := Round.of_absent limit reentry
      (p := { p' with changed := false }) w' habsent
    have hquiet : ¬p''.changed = true := by
      rw [hround'.changed_iff]
      simp [totalReplacements]
    have hlog : [log, []].flatten = log := by simp
    refine ⟨[log, []], t', p'', w', ?_, .more hround hmore (.last hround' (by simp [hquiet])),
      htext'.trans htext, hdone⟩
    rw [hlog, hcontext']
    exact hperforms
  · rw [Bool.not_eq_true] at hmore
    have hlog : [log].flatten = log := List.flatten_singleton
    refine ⟨[log], t', p', w', ?_, .last hround hmore, htext, hdone⟩
    rw [hlog]
    exact hperforms

end Progress

namespace Resolver

/-- A directive has no node in a template whose text holds no marker. -/
lemma pending_of_unmarked {d : Directive σ} (hd : d.IsOrdinary)
    (hplain : ∀ s ∈ d.spellings, IsPlain s) {t : Template} (hmarker : hasMarker t.render = false) :
    pending d.spellings t = [] := by
  cases hpending : pending d.spellings t with
  | nil => rfl
  | cons path paths =>
    obtain ⟨m, -, hfind⟩ := Sweep.find?_first hd hplain hpending
    rw [find?_unmarked hmarker] at hfind
    cases hfind

/-- To resolve the text of a template is to run its nodes along the schedule. A node is run if it is
some directive's and no node around it is an earlier directive's, and then once. The runs go
directive by directive and, for each, in post-order; each handler is given the occurrence that its
node is in the template with the results so far; and the text at the end is that of the template
with all results, in which no directive has a node. -/
theorem resolveIn_template (r : Resolver σ) (reentry : Option (Reentry σ))
    (hds : ∀ d ∈ r.registry.directives, d.IsOrdinary)
    (hplain : ∀ d ∈ r.registry.directives, ∀ s ∈ d.spellings, IsPlain s)
    (hreplies : ∀ d ∈ r.registry.directives, d.RepliesBraceless reentry) (t : Template)
    (context : Context)
    (hlimit : ∀ d ∈ r.registry.directives,
      t.nodes.countP (·.name ∈ d.spellings) ≤ r.limitIn context) (w : σ) :
    ((schedule r.registry.ordered t).map Prod.snd).Nodup ∧
    (∀ d path, (d, path) ∈ schedule r.registry.ordered t ↔
      ∃ before after, r.registry.ordered = before ++ d :: after ∧
        ∃ n ∈ t.nodes, n.path = path ∧ n.name ∈ d.spellings ∧
          ∀ a ∈ n.ancestors, ∀ e ∈ before, a ∉ e.spellings) ∧
    ∃ logs t' context' w',
      Performs reentry (schedule r.registry.ordered t) t context w logs.flatten t' context' w' ∧
      r.Course reentry (String.ofList t.render) context w logs
        (String.ofList t'.render, context') w' ∧
      (r.resolveIn reentry (String.ofList t.render) context).run w =
        ((String.ofList t'.render, context'), w') ∧
      ∀ d ∈ r.registry.directives, pending d.spellings t' = [] := by
  refine ⟨nodup_scheduleFrom r.registry.pairwise_disjoint t,
    fun d path => by simp [schedule, mem_scheduleFrom], ?_⟩
  have hds' : ∀ d ∈ r.registry.ordered, d.IsOrdinary := fun d hd =>
    hds d (Registry.mem_ordered.mp hd)
  have hplain' : ∀ d ∈ r.registry.ordered, ∀ s ∈ d.spellings, IsPlain s := fun d hd =>
    hplain d (Registry.mem_ordered.mp hd)
  suffices hcourse : ∃ logs t' context' w',
      Performs reentry (schedule r.registry.ordered t) t context w logs.flatten t' context' w' ∧
      r.Course reentry (String.ofList t.render) context w logs
        (String.ofList t'.render, context') w' ∧
      ∀ d ∈ r.registry.ordered, pending d.spellings t' = [] by
    obtain ⟨logs, t', context', w', hperforms, hcourse, hdone⟩ := hcourse
    exact ⟨logs, t', context', w', hperforms, hcourse, hcourse.resolveIn_eq,
      fun d hd => hdone d (Registry.mem_ordered.mpr hd)⟩
  cases hmarker : hasMarker t.render with
  | false =>
    have hdone : ∀ d ∈ r.registry.ordered, pending d.spellings t = [] := fun d hd =>
      pending_of_unmarked (hds' d hd) (hplain' d hd) hmarker
    have hschedule := schedule_eq_nil hdone
    exact ⟨[], t, context, w, hschedule ▸ .nil, .unmarked (by rwa [String.toList_ofList]), hdone⟩
  | true =>
    obtain ⟨logs, t', p', w', hperforms, hrounds, htext, hdone⟩ := Progress.Rounds.of_template hds'
      hplain' (fun d hd => hreplies d (Registry.mem_ordered.mp hd)) r.registry.pairwise_disjoint
      (fun d hd => hlimit d (Registry.mem_ordered.mp hd)) context w
    rw [← String.toList_ofList (l := t.render)] at hmarker hrounds
    exact ⟨logs, t', p'.context, w', hperforms, htext ▸ .resolved hmarker hrounds, hdone⟩

end Resolver

/-- A directive without conditions whose handler replies with a fixed text. -/
def fixedReply (name : String) (kind : Kind) (text : String) : Directive Unit where
  name := name
  aliases := []
  description := ""
  example_ := ""
  kind := kind
  constant := false
  eager := false
  rules := []
  handler := fun _ _ _ => pure (.ofText text)

def echoes : Resolver Unit :=
  ⟨⟨[fixedReply "echo" .interactive "heard", fixedReply "stamp" .static "3"], rfl⟩, some 2⟩

def echoContext : Context := .assemble .default none none [] 0

def bareHead (name : String) (h : IsPlain name) : Head where
  name := name
  header := ""
  params := []
  flags := []
  plain := h
  braceless := by decide
  blank := by simp
  read := rfl

/-- A node of `echo` before one of `stamp` that holds another. -/
def echoTemplate : Template :=
  .bare (bareHead "echo" (by decide)) (.full (bareHead "stamp" (by decide))
    (.bare (bareHead "echo" (by decide)) .nil) .nil)

/-- The earlier directive is run first and takes the node in its body with it. -/
theorem resolveIn_template_echoes :
    ((∀ d ∈ echoes.registry.directives, d.IsOrdinary) ∧
      (∀ d ∈ echoes.registry.directives, ∀ s ∈ d.spellings, IsPlain s) ∧
      (∀ d ∈ echoes.registry.directives, d.RepliesBraceless none) ∧
      ∀ d ∈ echoes.registry.directives,
        echoTemplate.nodes.countP (·.name ∈ d.spellings) ≤ echoes.limitIn echoContext) ∧
    ((schedule echoes.registry.ordered echoTemplate).map fun run => (run.1.name, run.2)) =
      [("stamp", [.past]), ("echo", [])] ∧
    ∃ (logs : List (List Entry)) (t' : Template) (context' : Context) (w' : Unit),
      Performs none (schedule echoes.registry.ordered echoTemplate) echoTemplate echoContext ()
        logs.flatten t' context' w' ∧
      (echoes.resolveIn none (String.ofList echoTemplate.render) echoContext).run () =
        ((String.ofList t'.render, context'), w') := by
  have hds : ∀ d ∈ echoes.registry.directives, d.IsOrdinary := by
    intro d hd
    obtain rfl | rfl : d = _ ∨ d = _ := by simpa [echoes] using hd
    · exact ⟨rfl, rfl, rfl⟩
    · exact ⟨rfl, rfl, rfl⟩
  have hplain : ∀ d ∈ echoes.registry.directives, ∀ s ∈ d.spellings, IsPlain s := by
    intro d hd
    obtain rfl | rfl : d = _ ∨ d = _ := by simpa [echoes] using hd
    · decide
    · decide
  have hreplies : ∀ d ∈ echoes.registry.directives, d.RepliesBraceless none := by
    intro d hd
    obtain rfl | rfl : d = _ ∨ d = _ := by simpa [echoes] using hd
    · exact fun _ _ _ => (by decide : Braceless "heard".toList)
    · exact fun _ _ _ => (by decide : Braceless "3".toList)
  have hlimit : ∀ d ∈ echoes.registry.directives,
      echoTemplate.nodes.countP (·.name ∈ d.spellings) ≤ echoes.limitIn echoContext := by
    intro d hd
    obtain rfl | rfl : d = _ ∨ d = _ := by simpa [echoes] using hd
    · decide
    · decide
  obtain ⟨-, -, logs, t', context', w', hperforms, -, hresolve, -⟩ :=
    Resolver.resolveIn_template echoes none hds hplain hreplies echoTemplate echoContext hlimit ()
  exact ⟨⟨hds, hplain, hreplies, hlimit⟩, rfl, logs, t', context', w', hperforms, hresolve⟩

end Pinboard
