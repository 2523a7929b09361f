import Pinboard.Proofs.Action
import Pinboard.Proofs.Launch.Desktop
import Pinboard.Proofs.Launch.Plan
import Pinboard.Proofs.Resolution.Reentry
import Pinboard.Proofs.State.Variables

/-!
# How deep the built-in directives reenter the resolver

Launches resolve targets one depth further down, scripts run directives that are no scripts, and
`ignore` resolves its body at the depth it stands at. Only the last can go on for ever: nothing that
is counted in one resolution is known to the next, so a variable that ignores a text that reads it
is resolved again on every level that there is.
-/
namespace Pinboard

open Markup Record

variable {σ : Type}

/-- Launches resolve targets at a greater depth, up to the limit. -/
def Launch.Deeper (services : Services σ) (depth below : Nat) : Prop :=
  depth < below ∧ below ≤ services.settings.maxLaunchDepth

lemma Launch.openPin_congr {services : Services σ}
    {resolve resolve' : String → Context → Action σ String} {depth : Nat}
    (h : depth ≤ services.settings.maxLaunchDepth → ∀ text (context : Context),
      context.depth = depth → resolve text context = resolve' text context)
    (p : Pin) (environment : Option Environment) (extras : Fields Json) :
    openPin services resolve p environment extras depth =
      openPin services resolve' p environment extras depth := by
  simp only [openPin]
  split
  · rfl
  · rename_i hdepth
    have hresolve := fun text => h (Nat.le_of_not_lt hdepth) text
      (Context.assemble services.settings (some p) environment extras depth) rfl
    simp only [use, hresolve]

namespace Builtin

variable (services : Services σ)

section Launches

variable {services} {re re' : Reentry σ} {context : Context}
  (h : ∀ text context', Launch.Deeper services context.depth context'.depth →
    re.resolve text context' = re'.resolve text context')
include h

lemma openNested_congr (p : Pin) :
    openNested services re context p = openNested services re' context p := by
  have hopen : Launch.openPin services re.resolve p none [] (context.depth + 1) =
      Launch.openPin services re'.resolve p none [] (context.depth + 1) := by
    refine Launch.openPin_congr (fun hle text context' hdepth => h text context' ?_) p none []
    constructor <;> omega
  simp only [openNested, hopen]

lemma openEach_congr (ps : List Pin) :
    openEach services re context ps = openEach services re' context ps := by
  induction ps with
  | nil => rfl
  | cons p ps ih => simp only [openEach, openNested_congr h p, ih]

end Launches

lemma asksWithin_launchPin :
    (launchPin services).AsksWithin (Launch.Deeper services) := by
  intro m context re re' h
  simp only [launchPin, directive]
  split
  all_goals
    refine bind_congr fun found => ?_
    cases found with
    | none => rfl
    | some p => simp only [openNested_congr h p]

lemma asksWithin_launchGroup :
    (launchGroup services).AsksWithin (Launch.Deeper services) := by
  intro m context re re' h
  simp only [launchGroup, directive]
  split
  all_goals
    refine bind_congr fun found => ?_
    cases found with
    | none => rfl
    | some g => simp only [openEach_congr h]

lemma onlyCalls_script : (script services).OnlyCalls := by
  intro m context re re' hcallable h
  have hsandbox : Pinboard.Script.Sandbox.ofContext re context none =
      Pinboard.Script.Sandbox.ofContext re' context none := by
    simp only [Pinboard.Script.Sandbox.ofContext, ← hcallable]
    congr 1
    funext spelling args named
    cases hname : re.callable.get? spelling with
    | none => rfl
    | some name => exact h spelling name hname _
  simp only [script, directive, Action.demand, pure_bind, hsandbox]

/-- Directives that have no effect by themselves, and those that talk to the user, do without the
way back. -/
lemma asksWithin_others :
    ∀ d ∈ ambient services ++ stored services ++ interaction services,
      d.AsksWithin (Launch.Deeper services) := by
  intro d hd
  simp only [List.mem_append] at hd
  rcases hd with (hd | hd) | hd <;> fin_cases hd <;> exact fun _ _ _ _ _ => rfl

lemma asksWithin_effects :
    ∀ d ∈ effects services, d = ignore ∨ d.AsksWithin (Launch.Deeper services) := by
  simp only [effects, List.forall_mem_cons]
  refine ⟨?_, ?_, ?_, .inr (asksWithin_launchPin services), .inr (asksWithin_launchGroup services),
    ?_, ?_, ?_, ?_, ?_, .inl trivial, by simp⟩
  all_goals exact .inr fun _ _ _ _ _ => rfl

/-- Every built-in directive but `ignore` asks for resolutions of launched pins only, if it is no
script. -/
theorem asksWithin_of_mem {d : Directive σ} (hd : d ∈ directives services) :
    d = ignore ∨ d.AsksWithin (Launch.Deeper services) ∨ d.kind = .script ∧ d.OnlyCalls := by
  simp only [directives, List.mem_append, List.mem_singleton] at hd
  have hothers := asksWithin_others services d
  simp only [List.mem_append] at hothers
  rcases hd with (((hd | hd) | hd) | hd) | rfl
  · exact .inr (.inl (hothers (.inl (.inl hd))))
  · exact .inr (.inl (hothers (.inl (.inr hd))))
  · exact (asksWithin_effects services d hd).imp_right .inl
  · exact .inr (.inl (hothers (.inr hd)))
  · exact .inr (.inr ⟨rfl, onlyCalls_script services⟩)

lemma asksWithin_ignore : (ignore : Directive σ).AsksWithin (· = ·) := by
  intro m context re re' h
  simp only [ignore, directive, h m.bodyText context rfl]

/-- From which depth to which built-in directives may ask for resolutions: from any to itself, if
`ignore` is among them, and where launches lead. -/
def Reach (r : Resolver σ) (depth below : Nat) : Prop :=
  depth = below ∧ ignore ∈ r.registry.directives ∨ Launch.Deeper services depth below

/-- A resolution with built-in directives takes at most two levels for each depth that launches have
left and for each of some resolutions that `ignore` does inside one another, and one more for a last
call. It ends there, unless `ignore` is one of the directives and asks for yet another resolution
inside those. -/
theorem endsWithin_or_nests {r : Resolver σ}
    (hr : ∀ d ∈ r.registry.directives, d ∈ directives services) (times : Nat) (text : String)
    (context : Context) (w : σ) :
    r.EndsWithin (2 * (services.settings.maxLaunchDepth - context.depth + times) + 1) text context
      w ∨
    ignore ∈ r.registry.directives ∧
      r.Nests times (2 * (services.settings.maxLaunchDepth - context.depth + times) + 1) text
        context w := by
  have hasks : ∀ d ∈ r.registry.directives,
      d.AsksWithin (Reach services r) ∨ d.kind = .script ∧ d.OnlyCalls := by
    intro d hd
    rcases asksWithin_of_mem services (hr d hd) with rfl | hdeeper | hscript
    · exact .inl (asksWithin_ignore.mono fun a b hsame => .inl ⟨hsame, hd⟩)
    · exact .inl (hdeeper.mono fun a b => .inr)
    · exact .inr hscript
  have hreach : ∀ a b, Reach services r a b →
      a = b ∨ a < b ∧ b ≤ services.settings.maxLaunchDepth := fun a b h => h.imp_left And.left
  by_cases hnests : r.Nests times
    (2 * (services.settings.maxLaunchDepth - context.depth + times) + 1) text context w
  · refine .inr ⟨?_, hnests⟩
    by_contra hnone
    obtain ⟨bottom, other, other', hne⟩ := hnests
    have hnever : ∀ a, ¬Reach services r a a := fun a h =>
      h.elim (fun hignore => hnone hignore.2) fun hdeeper => lt_irrefl a hdeeper.1
    refine hne (congrArg (StateT.run · w) ?_)
    exact Resolver.resolveIn_beside hasks hreach (fun a h => absurd h (hnever a)) text context
      (Nat.lt_succ_self _)
  · refine .inl (Resolver.endsWithin_of_beside (fun other bottom bottom' => ?_) hnests)
    exact Resolver.resolveIn_beside hasks hreach (fun _ _ => rfl) text context (Nat.lt_succ_self _)

end Builtin

/-! ## A variable that ignores its own value -/

/-- A pass in which one directive alone finds something, the whole text, and may replace it once. -/
lemma Progress.Round.of_whole_once {limit : Nat} {re : Reentry σ} {before after : List (Directive σ)}
    {d : Directive σ} {p : Progress} {m : Occurrence} {reply : Reply} {w w' : σ}
    (hfresh : d.constant = false) (hungated : d.rules = [])
    (hbefore : ∀ d' ∈ before, find? d'.spellings (!d'.eager) 0 p.text = none)
    (hfind : find? d.spellings (!d.eager) 0 p.text = some m) (hstart : m.start = 0)
    (hstop : m.stop = p.text.length) (hallowance : limit - p.count d.name = 1)
    (hrun : (d.run m p.context (some re)).run w = (reply, w')) (houtputs : reply.outputs = [])
    (hafter : ∀ d' ∈ after, find? d'.spellings (!d'.eager) 0 reply.text.toList = none) :
    ∃ p', Round limit (some re) (before ++ d :: after) p w [(d.name, .handled m reply)] p' w' ∧
      p'.text = reply.text.toList ∧ p'.context = p.context := by
  have hknown : d.known? p.context [] m = none := by simp [Directive.known?, hfresh]
  have hrules : (d.applies m.text p.context).run w = (true, w) := by
    rw [Directive.applies, hungated]
    rfl
  obtain ⟨p', hround, htext, hcontext⟩ := Round.of_whole hbefore hfind hstart hstop hknown hrules
    hrun (show 0 < limit - p.count d.name by omega) (by omega) hafter
  exact ⟨p', hround, htext, hcontext houtputs⟩

namespace Builtin

/-- A text that reads a variable. -/
def readingText : String := "\x7b\x7bget:x\x7d\x7d"

/-- The value of the variable, which ignores this text. -/
def ignoringText : String := "\x7b\x7bignore:\x7b\x7bget:x\x7d\x7d\x7d\x7d"

lemma braceless_x : Braceless "x".toList := by decide

def readingTemplate : Template :=
  .full (bareHead "get" (by decide)) (.text ⟨"x", braceless_x⟩ .nil) .nil

def ignoringTemplate : Template := .full (bareHead "ignore" (by decide)) readingTemplate .nil

def readingCall : Occurrence := ⟨readingText, 0, 9, "get", [], [], some "x", none⟩

def ignoringCall : Occurrence := ⟨ignoringText, 0, 20, "ignore", [], [], some readingText, none⟩

variable (services : Services σ)

lemma getVariable_mem : getVariable services ∈ directives services := by
  simp [directives, stored]

lemma ignore_mem : ignore ∈ directives services := by
  simp [directives, effects]

/-- A directive finds nothing in the text of a template without nodes of its spellings. -/
lemma find?_absent_of_mem {d : Directive σ} (hd : d ∈ directives services) (t : Template)
    (habsent : ∀ n ∈ t.nodes, n.name ∉ d.spellings) :
    find? d.spellings (!d.eager) 0 t.render = none :=
  Template.find?_absent (isPlain_of_mem services hd) habsent _

/-- Whether other directives find nothing in the two texts. -/
lemma find?_readingText {d : Directive σ} (hd : d ∈ directives services)
    (hget : "get" ∉ d.spellings) :
    find? d.spellings (!d.eager) 0 readingText.toList = none := by
  refine find?_absent_of_mem services hd readingTemplate fun n hn => ?_
  have hname : ∀ n ∈ readingTemplate.nodes, n.name = "get" := by decide
  rwa [hname n hn]

lemma find?_ignoringText {d : Directive σ} (hd : d ∈ directives services)
    (hget : "get" ∉ d.spellings) (hignore : "ignore" ∉ d.spellings) :
    find? d.spellings (!d.eager) 0 ignoringText.toList = none := by
  refine find?_absent_of_mem services hd ignoringTemplate fun n hn => ?_
  have hname : ∀ n ∈ ignoringTemplate.nodes, n.name = "get" ∨ n.name = "ignore" := by decide
  rcases hname n hn with h | h <;> rwa [h]

variable {services} {before after : List (Directive σ)}

lemma rank_ignore_lt : (ignore : Directive σ).rank < (getVariable services).rank := by
  show (2 : Nat) < 4
  omega

/-- `ignore` goes before `getVariable`. -/
lemma ignore_notMem_after
    (hordered : (registry services).ordered = before ++ getVariable services :: after) :
    ignore ∉ after := by
  intro hmem
  have hranks := (registry services).pairwise_rank
  rw [hordered, List.pairwise_append, List.pairwise_cons] at hranks
  exact absurd (hranks.2.1.1 ignore hmem) (Nat.not_le.mpr rank_ignore_lt)

lemma getVariable_notMem_before
    (hordered : (registry services).ordered = before ++ ignore :: after) :
    getVariable services ∉ before := by
  intro hmem
  have hranks := (registry services).pairwise_rank
  rw [hordered, List.pairwise_append] at hranks
  exact absurd (hranks.2.2 _ hmem ignore List.mem_cons_self) (Nat.not_le.mpr rank_ignore_lt)

section Circle

variable {limit : Option Nat} {context : Context} {w : σ}

/-- The variable has the value that ignores a text that reads it. -/
def Circles (services : Services σ) (w : σ) : Prop :=
  (Variables.get? services.storage "x").run.run w = (.ok (some ignoringText), w)

lemma Circles.run_getVariable (h : Circles services w) (re : Reentry σ) (context : Context) :
    ((getVariable services).run readingCall context (some re)).run w =
      (Reply.ofText ignoringText, w) := by
  have hname : reference readingCall = "x" := by decide
  refine Action.run_orElse_ok ?_
  simp only [getVariable, directive, hname]
  rw [if_neg (by decide), Action.run_bind_ok h]
  rfl

lemma run_ignore (re : Reentry σ) (context : Context) (w : σ) :
    (ignore.run ignoringCall context (some re)).run w =
      (Reply.nothing, ((re.resolve readingText context).run.run w).2) := by
  have hbody : ignoringCall.bodyText = readingText := by decide
  have hgiven : (!readingText.isEmpty) = true := by decide
  have honly : Action.Only (ignore.handler ignoringCall context (some re)) Reply.nothing := by
    simp only [ignore, directive, hbody, hgiven, if_true]
    exact .bind fun _ => Action.only_pure _
  rw [Directive.run, honly.run_orElse]
  simp only [ignore, directive, hbody, hgiven, if_true]
  exact congrArg _ (Action.run_bind_pure ..)

/-- The first pass puts the variable's value in the place of the text. -/
lemma Circles.exists_reading (h : Circles services w) (re : Reentry σ) (context : Context) :
    ∃ p, Progress.Round 1 (some re) (registry services).ordered
        ⟨readingText.toList, context, [], false⟩ w
        [("get", .handled readingCall (Reply.ofText ignoringText))] p w ∧
      p.text = ignoringText.toList ∧ p.context = context := by
  obtain ⟨before, after, hordered, hothers⟩ := exists_around services (getVariable_mem services)
  have hget : ∀ d ∈ before ++ after, "get" ∉ d.spellings := fun d hd =>
    (hothers d hd).2 List.mem_cons_self
  have hignore : ∀ d ∈ after, "ignore" ∉ d.spellings := by
    intro d hd hspelled
    have hmem := (hothers d (List.mem_append_right _ hd)).1
    have hsame : d = ignore := Registry.eq_of_spelled (r := registry services) hmem
      (ignore_mem services) hspelled List.mem_cons_self
    exact ignore_notMem_after hordered (hsame ▸ hd)
  have hfind : find? (getVariable services).spellings (!(getVariable services).eager) 0
      readingText.toList = some readingCall := by
    show find? ["get"] true 0 readingText.toList = some readingCall
    decide +kernel
  have hbefore : ∀ d ∈ before, find? d.spellings (!d.eager) 0 readingText.toList = none := by
    intro d hd
    have hmem := List.mem_append_left after hd
    exact find?_readingText services (hothers d hmem).1 (hget d hmem)
  have hafter : ∀ d ∈ after, find? d.spellings (!d.eager) 0 ignoringText.toList = none := by
    intro d hd
    have hmem := List.mem_append_right before hd
    exact find?_ignoringText services (hothers d hmem).1 (hget d hmem) (hignore d hd)
  rw [hordered]
  exact Progress.Round.of_whole_once (p := ⟨readingText.toList, context, [], false⟩) rfl rfl hbefore hfind
    rfl rfl rfl (h.run_getVariable re context) rfl hafter

/-- The second pass resolves the text that the value ignores. -/
lemma exists_ignoring (services : Services σ) (re : Reentry σ) (p : Progress)
    (htext : p.text = ignoringText.toList) (hcount : p.count "ignore" = 0) (w : σ) :
    ∃ p', Progress.Round 1 (some re) (registry services).ordered p w
        [("ignore", .handled ignoringCall Reply.nothing)] p'
        ((re.resolve readingText p.context).run.run w).2 ∧
      p'.text = [] ∧ p'.context = p.context := by
  obtain ⟨before, after, hordered, hothers⟩ := exists_around services (ignore_mem services)
  have hget : ∀ d ∈ before, "get" ∉ d.spellings := by
    intro d hd hspelled
    have hmem := (hothers d (List.mem_append_left _ hd)).1
    have hsame : d = getVariable services := Registry.eq_of_spelled (r := registry services) hmem
      (getVariable_mem services) hspelled List.mem_cons_self
    exact getVariable_notMem_before hordered (hsame ▸ hd)
  have hfind : find? (ignore : Directive σ).spellings (!(ignore : Directive σ).eager) 0 p.text =
      some ignoringCall := by
    rw [htext]
    show find? ["ignore", "IGNORE"] true 0 ignoringText.toList = some ignoringCall
    decide +kernel
  have hstop : ignoringCall.stop = p.text.length := by
    rw [htext]
    decide
  have hallowance : 1 - p.count (ignore : Directive σ).name = 1 := by
    show 1 - p.count "ignore" = 1
    rw [hcount]
  have hbefore : ∀ d ∈ before, find? d.spellings (!d.eager) 0 p.text = none := by
    intro d hd
    have hmem := hothers d (List.mem_append_left after hd)
    rw [htext]
    exact find?_ignoringText services hmem.1 (hget d hd) (hmem.2 List.mem_cons_self)
  rw [hordered]
  exact Progress.Round.of_whole_once rfl rfl hbefore hfind rfl hstop hallowance
    (run_ignore re p.context w) rfl fun _ _ => find?_unmarked rfl

/-- With a limit of one, to resolve the text that reads the variable is to resolve it again. -/
theorem Circles.resolveIn_eq (h : Circles services w) (re : Reentry σ)
    (hlimit : (resolver services limit).limitIn context = 1) :
    ((resolver services limit).resolveIn (some re) readingText context).run w =
      (("", context), ((re.resolve readingText context).run.run w).2) := by
  obtain ⟨p, hround, htext, hcontext⟩ := h.exists_reading re context
  have hcount : p.count "ignore" = 0 := hround.count_eq "ignore"
  obtain ⟨p', hround', htext', hcontext'⟩ :=
    exists_ignoring services re { p with changed := false } htext hcount w
  have hchanged : p.changed = true := hround.changed_iff.mpr (.inr (by decide))
  have hmore : (p.changed && hasMarker p.text) = true := by
    rw [hchanged, htext]
    decide
  have hend : (p'.changed && hasMarker p'.text) = false := by
    rw [htext']
    simp [hasMarker]
  have hrounds : Progress.Rounds 1 (some re) (registry services).ordered
      ⟨readingText.toList, context, [], false⟩ w _ p' _ := .more hround hmore (.last hround' hend)
  rw [← hlimit] at hrounds
  have hrun := (Resolver.Course.resolved (r := resolver services limit) (by decide)
    hrounds).resolveIn_eq
  rw [htext', hcontext'] at hrun
  simpa only [hcontext] using hrun

/-- However many levels there are, the text is resolved at the bottom of them. -/
theorem Circles.resolveIn_above (h : Circles services w)
    (hlimit : (resolver services limit).limitIn context = 1) (bottom : Reentry σ) (levels : Nat) :
    ((resolver services limit).resolveIn (some ((resolver services limit).above bottom levels))
      readingText context).run w =
        (("", context), ((bottom.resolve readingText context).run.run w).2) := by
  induction levels with
  | zero => exact h.resolveIn_eq _ hlimit
  | succ levels ih =>
    rw [h.resolveIn_eq _ hlimit, Resolver.above, Resolver.run_lift_resolve, ih]

end Circle

end Builtin

/-! ### On a desktop -/

lemma Stored.load_keyValues {shelf : Memory.Shelf σ (Fields Json)} {key : String} {v : Json}
    {items : List Json} {w : σ} (hget : (shelf.value w).get? key = some v)
    (hitems : itemsOf (some v) = .ok items) :
    (load (Memory.keyValues shelf) key).run.run w = (.ok items, w) := by
  have hread : ((Memory.keyValues shelf).get? key).run.run w = (.ok (some v), w) := by
    rw [← hget]
    rfl
  rw [load, Action.run_bind_ok hread, hitems]
  rfl

namespace Builtin

open Launch (desk)

def circlingVariable : Variable := ⟨"x", ignoringText, ""⟩

/-- A desktop with nothing but the variable. -/
def circling : Desktop :=
  ⟨[], [(Stored.variablesKey, .str (Json.arr [circlingVariable.toJson]).print)], []⟩

/-- A context whose settings limit the replacements to one. -/
def onceContext : Context := ⟨none, [], 0, { Settings.default with maxIterations := 1 }⟩

lemma circles_circling : Circles desk circling := by
  have hplain : (Json.arr [circlingVariable.toJson]).IsPlain := by simp [Variable.toJson]
  have hget : (Desktop.writtenShelf.value circling).get? Stored.variablesKey =
      some (.str (Json.arr [circlingVariable.toJson]).print) := if_pos rfl
  have hload : (Variables.load desk.storage).run.run circling =
      (.ok [circlingVariable], circling) :=
    Variables.load_eq (Stored.load_keyValues hget (Stored.itemsOf_print hplain))
      (Variables.mapM_ofItem?_toJson [circlingVariable])
  exact Action.run_bind_ok hload

/-- A way back that copies a word whenever a text is to be resolved. -/
def copying (word : String) : Reentry Desktop where
  resolve := fun _ _ => do
    Desktop.hand (.copied word)
    pure ""
  invoke := fun _ _ _ => pure ""
  callable := []

/-- No number of levels is enough for the variable. -/
theorem readingText_never_ends :
    (Variables.get? desk.storage "x").run.run circling = (.ok (some ignoringText), circling) ∧
    ¬∃ levels, (resolver desk none).EndsWithin levels readingText onceContext circling := by
  refine ⟨circles_circling, fun ⟨levels, h⟩ => ?_⟩
  have hends := h (copying "a") (copying "b")
  rw [circles_circling.resolveIn_above rfl, circles_circling.resolveIn_above rfl] at hends
  have hhanded := congrArg (·.2.handed) hends
  exact absurd hhanded (by decide)

/-- Some directives that reenter the resolver, and the one that reads variables. -/
def launching : Resolver Desktop :=
  ⟨⟨[launchPin desk, launchGroup desk, getVariable desk, script desk], rfl⟩, none⟩

/-- Without `ignore`, eleven levels are enough for the variable. -/
theorem endsWithin_launching :
    (∀ d ∈ launching.registry.directives, d ∈ directives desk) ∧
    launching.EndsWithin 11 readingText onceContext circling ∧
    (launching.resolve readingText onceContext).run circling =
      (launching.resolveIn (some (launching.reentry 11)) readingText onceContext).run circling := by
  have hmem : ∀ d ∈ launching.registry.directives, d ∈ directives desk := by
    simp [launching, directives, effects, stored]
  have hnames : ∀ d ∈ launching.registry.directives, d.name ≠ "ignore" := by
    simp [launching, launchPin, launchGroup, getVariable, script, directive]
  have hends : launching.EndsWithin 11 readingText onceContext circling :=
    (endsWithin_or_nests desk hmem 0 readingText onceContext circling).resolve_right
      fun h => hnames ignore h.1 rfl
  exact ⟨hmem, hends, hends.resolve_eq (by decide)⟩

end Builtin

end Pinboard
