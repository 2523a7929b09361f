import Pinboard.Proofs.Builtin.Ambient
import Pinboard.Proofs.Context
import Pinboard.Proofs.Launch.Plan

/-!
# Snapshots of the environment

What the host shows reaches a text on two ways. The values of a snapshot are served from the
context, everything else is read when it is asked for. If the host shows what the snapshot holds,
it makes no difference which way is taken: the snapshot leaves out blank readings only, and these
are read again.
-/
namespace Pinboard

open Markup

variable {σ : Type}

/-- A platform whose readings give what an environment holds, whenever they are asked. -/
structure Platform.Shows (p : Platform σ) (e : Environment) : Prop where
  clipboard : p.clipboard.Returns (· = e.clipboard)
  selectedText : p.selectedText.Returns (· = e.selectedText)
  application : p.application.Returns (· = e.application)
  directory : p.directory.Returns (· = e.directory)
  files : p.files.Returns (· = e.files)
  tab : p.tab.Returns (· = e.tab)
  track : p.track.Returns (· = e.track)

/-! ## Turns of a directive without rules -/

namespace Turn

/-- The occurrence that a turn found. -/
def occurrence : Turn → Occurrence
  | .refused m => m
  | .known m _ => m
  | .handled m _ => m

end Turn

section Unruled

variable {d : Directive σ} {reentry : Option (Reentry σ)} (hrules : d.rules = [])
include hrules

lemma Directive.applies_of_unruled (text : String) (context : Context) (w : σ) :
    (d.applies text context).run w = (true, w) := by
  rw [applies, hrules]
  rfl

lemma Sweep.Loop.not_refused {allowance : Nat} {s s' : Sweep} {w w' : σ} {turns : List Turn}
    (h : Loop d reentry allowance s w turns s' w') (m : Occurrence) : Turn.refused m ∉ turns := by
  induction h with
  | spent | absent => simp
  | refused _ _ _ hrefused =>
    rw [Directive.applies_of_unruled hrules] at hrefused
    cases hrefused
  | known _ _ _ _ ih => simpa using ih
  | handled _ _ _ _ _ _ ih => simpa using ih

lemma Resolver.Course.not_refused {r : Resolver σ} (hd : d ∈ r.registry.directives) {text : String}
    {context : Context} {w w' : σ} {logs : List (List Entry)} {result : String × Context}
    (h : r.Course reentry text context w logs result w') (m : Occurrence) :
    (d.name, Turn.refused m) ∉ logs.flatten := by
  intro hmem
  obtain ⟨log, hlog, hentry⟩ := List.mem_flatten.mp hmem
  cases h with
  | unmarked _ => cases hlog
  | resolved _ rounds =>
    obtain ⟨p₁, w₁, p₂, w₂, hround⟩ := rounds.exists_round hlog
    obtain ⟨allowance, text, context, w₃, s, w₄, hloop⟩ :=
      hround.exists_loop (Registry.mem_ordered.mpr hd) r.registry.nodup_names
    exact hloop.not_refused hrules m (List.mem_filterMap.mpr ⟨_, hentry, if_pos rfl⟩)

end Unruled

/-! ## Values under one name -/

section Values

variable {name value : String} {given : Fields String} {log : List Entry}

lemma Fields.get?_of_forall {α : Type} {fields : Fields α} {key : String} {a : α}
    (hmem : (key, a) ∈ fields) (hall : ∀ f ∈ fields, f.1 = key → f.2 = a) :
    fields.get? key = some a := by
  induction fields with
  | nil => cases hmem
  | cons f fields ih =>
    obtain ⟨k, v⟩ := f
    by_cases hkey : k = key
    · rw [get?, if_pos hkey]
      exact congrArg some (hall _ List.mem_cons_self hkey)
    · rw [get?, if_neg hkey]
      refine ih ?_ fun f hf => hall f (List.mem_cons_of_mem _ hf)
      exact (List.mem_cons.mp hmem).resolve_left fun hsame => hkey (Prod.mk.inj hsame).1.symm

lemma handlings_pos {m : Occurrence} {reply : Reply} (h : (name, Turn.handled m reply) ∈ log) :
    0 < handlings name log :=
  List.countP_pos_iff.mpr ⟨_, h, by simp [Turn.runs]⟩

lemma exists_of_handlings (h : handlings name log ≠ 0) :
    ∃ m reply, (name, Turn.handled m reply) ∈ log := by
  obtain ⟨⟨other, t⟩, he, hruns⟩ := List.countP_pos_iff.mp (Nat.pos_of_ne_zero h)
  simp only [Bool.and_eq_true, beq_iff_eq] at hruns
  obtain ⟨rfl, hruns⟩ := hruns
  cases t with
  | handled m reply => exact ⟨m, reply, he⟩
  | refused | known => cases hruns

variable (hhandled : ∀ m reply, (name, Turn.handled m reply) ∈ log →
    reply = .named value [(name, value)])
  (hothers : ∀ e ∈ log, e.1 ≠ name → ∀ o ∈ e.2.outputs, o.1 ≠ name)
include hhandled hothers

/-- Outputs under a name come from the handler of its directive. -/
lemma exists_of_outputs {o : String × String} (ho : o ∈ outputsOf log) (hname : o.1 = name) :
    o.2 = value ∧ ∃ m reply, (name, Turn.handled m reply) ∈ log := by
  obtain ⟨⟨other, t⟩, he, hmem⟩ := List.mem_flatMap.mp ho
  obtain rfl : other = name := by
    by_contra hne
    exact hothers _ he hne o hmem hname
  cases t with
  | refused | known => cases hmem
  | handled m reply =>
    obtain rfl := hhandled m reply he
    have hsame : o = (other, value) := List.mem_singleton.mp hmem
    exact ⟨by rw [hsame], m, _, he⟩

/-- Under the name stands what the handler gave, once it ran. -/
lemma get?_valuesAfter : (valuesAfter given log).get? name =
    if handlings name log = 0 then given.get? name else some value := by
  split
  · rename_i hnone
    refine Fields.get?_merge_of_ne fun o ho hname => ?_
    obtain ⟨-, m, reply, hmem⟩ := exists_of_outputs hhandled hothers ho hname
    exact absurd hnone (handlings_pos hmem).ne'
  · rename_i hsome
    obtain ⟨m, reply, hmem⟩ := exists_of_handlings hsome
    have houtput : (name, value) ∈ outputsOf log := by
      refine List.mem_flatMap.mpr ⟨_, hmem, ?_⟩
      rw [hhandled m reply hmem]
      exact List.mem_singleton_self _
    have hlast : (Fields.ofList (outputsOf log)).get? name = some value := by
      rw [Fields.get?_ofList]
      refine Fields.get?_of_forall (List.mem_reverse.mpr houtput) fun o ho hname => ?_
      exact (exists_of_outputs hhandled hothers (List.mem_reverse.mp ho) hname).1
    rw [valuesAfter, Fields.get?_merge_eq, hlast]
    rfl

end Values

/-! ## An occurrence that is the whole text -/

/-- In a text without markers nothing is replaced. -/
lemma Explains.text_eq_of_unmarked {reentry : Option (Reentry σ)} {ds : List (Directive σ)}
    {start text : List Char} {given context : Context} {before log : List Entry}
    (h : Explains reentry ds start given (before ++ log) text context)
    (hunmarked : hasMarker (textAfter start before) = false) : text = textAfter start before := by
  have hkept : ∀ now later, log = now ++ later →
      textAfter start (before ++ now) = textAfter start before := by
    intro now
    induction now using List.reverseRec with
    | nil => simp
    | append_singleton now e ih =>
      intro later hlog
      have hnow := ih (e :: later) (by simpa using hlog)
      have hstep : textAfter start (before ++ (now ++ [e])) =
          e.2.after (textAfter start (before ++ now)) := by simp [textAfter]
      rw [hstep, hnow, Turn.after]
      split
      · rfl
      · rename_i m result hreplaced
        obtain ⟨d, -, -, hreads, -⟩ :=
          h.replaced (before ++ now) e.1 e.2 later m result (by simp [hlog]) hreplaced
        have hmarked := hreads.1.hasMarker
        rw [hnow, hunmarked] at hmarked
        cases hmarked
  rw [h.text_eq, hkept log [] (by simp)]

namespace Builtin

section Alone

variable {s : String} (hs : IsPlain s)

/-- The text that is one occurrence of a spelling and nothing else. -/
lemma block_bare : (bareHead s hs).block none = (marked s).toList := by
  simp [Head.block, Head.inside, bareHead, marked, openMarker, closeMarker]

lemma render_bare : (Template.bare (bareHead s hs) .nil).render = (marked s).toList := by
  rw [Template.render, block_bare, Template.render, List.append_nil]

lemma text_bare : ((bareHead s hs).occurrence 0 none).text = marked s := by
  rw [Head.occurrence, block_bare, String.ofList_toList]

lemma splice_bare (result : String) :
    Sweep.splice (marked s).toList ((bareHead s hs).occurrence 0 none) result = result.toList := by
  simp [Sweep.splice, Head.occurrence, block_bare]

end Alone

end Builtin

/-- Where an occurrence of one of its spellings is the whole text, a directive finds it, and those
before it in the order find nothing. -/
lemma Registry.find?_marked (r : Registry σ)
    (hplain : ∀ d ∈ r.directives, ∀ s ∈ d.spellings, IsPlain s) {d : Directive σ}
    (hd : d ∈ r.directives) (hinward : d.eager = false) {s : String} (hs : s ∈ d.spellings) :
    find? d.spellings (!d.eager) 0 (Builtin.marked s).toList =
      some ((bareHead s (hplain d hd s hs)).occurrence 0 none) ∧
    ∃ before after, r.ordered = before ++ d :: after ∧
      ∀ d' ∈ before, find? d'.spellings (!d'.eager) 0 (Builtin.marked s).toList = none := by
  let alone : Template := .bare (bareHead s (hplain d hd s hs)) .nil
  have hrender : alone.render = (Builtin.marked s).toList := Builtin.render_bare _
  have hfind : find? d.spellings (!d.eager) 0 (Builtin.marked s).toList =
      some ((bareHead s (hplain d hd s hs)).occurrence 0 none) := by
    rw [hinward, Bool.not_false, ← hrender, Template.find?_render (hplain d hd),
      Template.first?_bare]
    exact congrArg (Option.or · _) (if_pos hs)
  obtain ⟨before, after, hsplit⟩ :=
    List.append_of_mem (Registry.mem_ordered.mpr hd : d ∈ r.ordered)
  refine ⟨hfind, before, after, hsplit, fun d' hd' => ?_⟩
  have hmem : d' ∈ r.directives := by
    rw [← Registry.mem_ordered, hsplit]
    exact List.mem_append_left _ hd'
  have hdisjoint := r.pairwise_disjoint
  rw [hsplit, List.pairwise_append] at hdisjoint
  have hother : s ∉ d'.spellings := fun hspelled =>
    hdisjoint.2.2 d' hd' d List.mem_cons_self hspelled hs
  rw [← hrender]
  refine Template.find?_absent (hplain d' hmem) (fun n hn => ?_) _
  obtain rfl := List.mem_singleton.mp hn
  exact hother

section First

variable {d : Directive σ} {reentry : Option (Reentry σ)} {context : Context} {w w' : σ}
  (hrules : d.rules = [])
include hrules

lemma Sweep.Loop.exists_first {text : List Char} {allowance : Nat} {s' : Sweep} {turns : List Turn}
    (h : Loop d reentry allowance ⟨text, context, 0, [], 0⟩ w turns s' w') {m : Occurrence}
    (hfind : find? d.spellings (!d.eager) 0 text = some m) (hleft : 0 < allowance) :
    ∃ t later, turns = t :: later ∧ t.occurrence = m := by
  cases h with
  | spent hspent => exact absurd hspent (Nat.not_le.mpr hleft)
  | absent _ hnone => exact absurd (hnone.symm.trans hfind) (by simp)
  | refused _ _ _ hrefused =>
    rw [Directive.applies_of_unruled hrules] at hrefused
    cases hrefused
  | known _ hfound _ _ => exact ⟨_, _, rfl, Option.some.inj (hfound.symm.trans hfind)⟩
  | handled _ hfound _ _ _ _ => exact ⟨_, _, rfl, Option.some.inj (hfound.symm.trans hfind)⟩

/-- In a pass over a text in which the directives before it find nothing, the directive takes the
first turn. -/
lemma Progress.Round.exists_first {limit : Nat} {before after : List (Directive σ)}
    {p p' : Progress} {log : List Entry}
    (h : Round limit reentry (before ++ d :: after) p w log p' w')
    (hbefore : ∀ d' ∈ before, find? d'.spellings (!d'.eager) 0 p.text = none) {m : Occurrence}
    (hfind : find? d.spellings (!d.eager) 0 p.text = some m) (hleft : p.count d.name < limit) :
    ∃ t later, log = (d.name, t) :: later ∧ t.occurrence = m := by
  obtain ⟨p₁, hidle, htext, -⟩ := Round.of_absent limit reentry w hbefore
  have hcount : p₁.count d.name = p.count d.name := hidle.count_eq _
  obtain ⟨turns, s, w₁, hloop⟩ := Sweep.Loop.total d reentry (limit - p₁.count d.name)
    ⟨p₁.text, p₁.context, 0, [], 0⟩ w
  obtain ⟨rest, p₂, w₂, hrest⟩ := Round.total limit reentry after (p₁.after d s) w₁
  obtain ⟨rfl, -, -⟩ := h.unique (hidle.append (.cons hloop hrest))
  obtain ⟨t, later, rfl, ht⟩ := hloop.exists_first hrules (htext ▸ hfind) (by omega)
  exact ⟨t, later.map (d.name, ·) ++ rest, rfl, ht⟩

/-- A directive takes the first turn where one of its occurrences is the whole text. -/
lemma Resolver.Course.exists_first {r : Resolver σ}
    (hplain : ∀ d ∈ r.registry.directives, ∀ s ∈ d.spellings, IsPlain s)
    (hd : d ∈ r.registry.directives) (hinward : d.eager = false) {s : String}
    (hs : s ∈ d.spellings) (hlimit : 0 < r.limitIn context) {logs : List (List Entry)}
    {result : String × Context}
    (h : r.Course reentry (Builtin.marked s) context w logs result w') :
    ∃ t later, logs.flatten = (d.name, t) :: later ∧
      t.occurrence = (bareHead s (hplain d hd s hs)).occurrence 0 none := by
  obtain ⟨hfind, before, after, hsplit, hbefore⟩ :=
    r.registry.find?_marked hplain hd hinward hs
  cases h with
  | unmarked hunmarked =>
    have hmarked := (find?_reads hfind).1.1.hasMarker
    rw [hunmarked] at hmarked
    cases hmarked
  | resolved _ rounds =>
    rw [hsplit] at rounds
    cases rounds with
    | last round _ =>
      obtain ⟨t, later, rfl, ht⟩ := round.exists_first hrules hbefore hfind hlimit
      exact ⟨t, later, by simp, ht⟩
    | more round _ _ =>
      obtain ⟨t, later, rfl, ht⟩ := round.exists_first hrules hbefore hfind hlimit
      exact ⟨t, later ++ _, rfl, ht⟩

end First

namespace Builtin

/-! ## Readings that are shown -/

section Readings

open Action

variable {services : Services σ} {p : Platform σ} {e : Environment} {d : Directive σ}

lemma isPlainReading (hd : d ∈ readings services) :
    d.constant = true ∧ d.rules = [] ∧ d.eager = false := by
  fin_cases hd <;> exact ⟨rfl, rfl, rfl⟩

/-- A reading replies what the environment shows under its name. -/
lemma returns_shown (hplatform : services.platform = some p) (hshows : p.Shows e)
    (hd : d ∈ readings services) (m : Occurrence) (context : Context)
    (reentry : Option (Reentry σ)) :
    (d.handler m context reentry).Returns (· = remembered d.name (e.shown d.name)) := by
  have hshow : ∀ {α : Type} {x : Action σ α} (f : α → String) {a : α}, x.Returns (· = a) →
      (do pure (f (← x)) : Action σ String).Returns (· = f a) :=
    fun f _ hx => hx.bind fun _ hvalue => returns_pure (congrArg f hvalue)
  have hreading : ∀ (name : String) {read : Platform σ → Action σ String} {value : String},
      (read p).Returns (· = value) →
      (do let platform ← services.needPlatform
          let value ← read platform
          pure (remembered name value) : Action σ Reply).Returns (· = remembered name value) :=
    fun name _ _ hread => (returns_reading hplatform name hread).mono fun _ ⟨_, hreply, hvalue⟩ =>
      hreply.trans (congrArg (remembered name) hvalue)
  simp only [readings, List.mem_cons, List.not_mem_nil, or_false] at hd
  rcases hd with rfl | rfl | rfl | rfl | rfl | rfl | rfl | rfl | rfl
  · exact hreading _ (hshow _ hshows.clipboard)
  · exact hreading _ (hshow _ hshows.selectedText)
  · exact hreading _ (hshow _ hshows.application)
  · exact hreading _ (hshow _ hshows.application)
  · exact hreading _ (hshow _ hshows.directory)
  · exact hreading _ (hshow _ hshows.tab)
  · exact hreading _ (hshow _ hshows.tab)
  · exact hreading _ (hshow _ hshows.files)
  · exact hreading _ (hshow _ hshows.track)

lemma reply_eq (hplatform : services.platform = some p) (hshows : p.Shows e)
    (hd : d ∈ readings services) {reentry : Option (Reentry σ)} {reply : Reply}
    (hreply : d.Replies reentry reply) : reply = remembered d.name (e.shown d.name) := by
  obtain ⟨m, context, w, rfl⟩ := hreply
  obtain ⟨_, w', hrun, rfl⟩ := returns_shown hplatform hshows hd m context reentry w
  exact congrArg Prod.fst (run_orElse_ok hrun)

end Readings

/-! ## Snapshot and live reading -/

/-- What takes the place of an occurrence without body and parameters: the caller's value until the
host was read for another occurrence, and without such a value what the host shows. -/
def servedReading (e : Environment) (extras : Fields Json) (name : String) (earlier : List Entry) :
    String :=
  if handlings name earlier = 0 then (Context.callerValue? extras name).getD (e.shown name)
  else e.shown name

section Served

variable {e : Environment} {extras : Fields Json} {name : String} {earlier : List Entry}

/-- A value that the context has at first is the caller's or one of the snapshot, which the host
shows too. -/
lemma eq_of_gathered {environment : Option Environment}
    (henvironment : environment = some e ∨ environment = none) {value : String}
    (h : (Context.gatherValues environment extras).get? name = some value) :
    value = (Context.callerValue? extras name).getD (e.shown name) := by
  rw [Context.get?_gatherValues] at h
  cases hcaller : Context.callerValue? extras name with
  | some given =>
    rw [hcaller] at h
    exact (Option.some.inj h).symm
  | none =>
    rw [hcaller, Option.none_or] at h
    rcases henvironment with rfl | rfl
    · exact (Environment.shown_eq h).symm
    · cases h

/-- Where the context has no value, the caller gave none. -/
lemma callerValue?_of_gathered {environment : Option Environment}
    (h : (Context.gatherValues environment extras).get? name = none) :
    Context.callerValue? extras name = none := by
  rw [Context.get?_gatherValues, Option.or_eq_none_iff] at h
  exact h.1

variable {environment : Option Environment}
  (henvironment : environment = some e ∨ environment = none)
  (hhandled : ∀ m reply, (name, Turn.handled m reply) ∈ earlier →
    reply = remembered name (e.shown name))
  (hothers : ∀ entry ∈ earlier, entry.1 ≠ name → ∀ o ∈ entry.2.outputs, o.1 ≠ name)
include henvironment hhandled hothers

/-- The value that a log leaves under the name of a reading is the one to be served. -/
lemma eq_servedReading {value : String}
    (h : (valuesAfter (Context.gatherValues environment extras) earlier).get? name = some value) :
    value = servedReading e extras name earlier := by
  rw [get?_valuesAfter hhandled hothers] at h
  rw [servedReading]
  split at h
  · rename_i hnone
    rw [if_pos hnone]
    exact eq_of_gathered henvironment h
  · rename_i hsome
    rw [if_neg hsome]
    exact (Option.some.inj h).symm

omit henvironment in
/-- Where it leaves none, the host is read. -/
lemma servedReading_eq_shown
    (h : (valuesAfter (Context.gatherValues environment extras) earlier).get? name = none) :
    servedReading e extras name earlier = e.shown name := by
  rw [get?_valuesAfter hhandled hothers] at h
  rw [servedReading]
  split at h
  · rename_i hnone
    rw [if_pos hnone, callerValue?_of_gathered h, Option.getD_none]
  · cases h

/-- Each entry for an occurrence without body and parameters replaces it by the value to be
served. -/
lemma replacement?_of_serves {t : Turn}
    (hserves : Serves name (Context.gatherValues environment extras) earlier (name, t))
    (hreply : ∀ m reply, t = .handled m reply → reply = remembered name (e.shown name))
    (hrefused : ∀ m, t ≠ .refused m) (hbare : t.occurrence.IsBare) :
    t.replacement? = some (t.occurrence, servedReading e extras name earlier) := by
  cases t with
  | refused m => exact absurd rfl (hrefused m)
  | known m result =>
    refine congrArg (fun x => some (m, x)) ?_
    rcases hserves.known m result rfl with ⟨m', reply, hmem, rfl⟩ | hvalue
    · rw [hhandled m' reply hmem, servedReading, if_neg (handlings_pos hmem).ne']
      rfl
    · exact eq_servedReading henvironment hhandled hothers hvalue
  | handled m reply =>
    refine congrArg (fun x => some (m, x)) ?_
    rw [servedReading_eq_shown hhandled hothers (hserves.unread m reply rfl hbare),
      hreply m reply rfl]
    rfl

end Served

section Courses

variable {services : Services σ} {r : Resolver σ} {p : Platform σ} {e : Environment}
  {d : Directive σ} (hr : r.registry.directives ⊆ directives services)
  (hd : d ∈ r.registry.directives) (hreading : d ∈ readings services)
  (hplatform : services.platform = some p) (hshows : p.Shows e)
  {settings : Settings} {pin : Option Pin} {extras : Fields Json} {depth : Nat}
  {reentry : Option (Reentry σ)} {environment : Option Environment}
  (henvironment : environment = some e ∨ environment = none) {w w' : σ}
  {logs : List (List Entry)} {result : String × Context}
include hr hd hreading hplatform hshows henvironment

/-- In a whole resolution an occurrence without body and parameters is replaced by the value to be
served. -/
lemma replacement?_of_course {text : String}
    (h : r.Course reentry text (Context.assemble settings pin environment extras depth) w logs
      result w') {earlier later : List Entry} {t : Turn}
    (hlogs : logs.flatten = earlier ++ (d.name, t) :: later) (hbare : t.occurrence.IsBare) :
    t.replacement? = some (t.occurrence, servedReading e extras d.name earlier) := by
  obtain ⟨hconstant, hrules, -⟩ := isPlainReading hreading
  have hhandled : ∀ m reply, (d.name, Turn.handled m reply) ∈ logs.flatten →
      reply = remembered d.name (e.shown d.name) := fun m reply hmem =>
    reply_eq hplatform hshows hreading (h.replies hd hmem)
  have hmem : (d.name, t) ∈ logs.flatten := by simp [hlogs]
  have hearlier : ∀ entry ∈ earlier, entry ∈ logs.flatten := fun entry hentry => by
    rw [hlogs]
    exact List.mem_append_left _ hentry
  refine replacement?_of_serves henvironment
    (fun m reply hentry => hhandled m reply (hearlier _ hentry))
    (fun entry hentry => h.outputs_other hr entry (hearlier _ hentry))
    ((h.consistent hd hconstant).2.of_eq hlogs) ?_ ?_ hbare
  · rintro m reply rfl
    exact hhandled m reply hmem
  · rintro m rfl
    exact h.not_refused hrules hd m hmem

/-- An occurrence that is the whole text is replaced at once. -/
lemma exists_replacement?_of_alone {s : String} (hs : s ∈ d.spellings)
    (hlimit : 0 < r.limitIn (Context.assemble settings pin environment extras depth))
    (h : r.Course reentry (marked s) (Context.assemble settings pin environment extras depth) w logs
      result w') :
    (∃ m t later, logs.flatten = (d.name, t) :: later ∧ m.text = marked s ∧
      t.replacement? = some (m, servedReading e extras d.name [])) ∧
    (hasMarker (servedReading e extras d.name []).toList = false →
      result.1 = servedReading e extras d.name []) := by
  obtain ⟨-, hrules, hinward⟩ := isPlainReading hreading
  have hplain : ∀ d ∈ r.registry.directives, ∀ s ∈ d.spellings, IsPlain s :=
    fun d' hd' => isPlain_of_mem services (hr hd')
  obtain ⟨t, later, hlogs, ht⟩ := h.exists_first hrules hplain hd hinward hs hlimit
  have hbare : t.occurrence.IsBare := by
    rw [ht]
    exact ⟨rfl, rfl⟩
  have hfirst : t.replacement? = some (t.occurrence, servedReading e extras d.name []) :=
    replacement?_of_course hr hd hreading hplatform hshows henvironment h hlogs hbare
  have hstart : textAfter (marked s).toList [(d.name, t)] =
      (servedReading e extras d.name []).toList := by
    have hafter : textAfter (marked s).toList [(d.name, t)] = t.after (marked s).toList := rfl
    rw [hafter, Turn.after, hfirst, ht]
    exact splice_bare _ _
  refine ⟨⟨t.occurrence, t, later, hlogs, ?_, hfirst⟩, fun hunmarked => ?_⟩
  · rw [ht]
    exact text_bare _
  · have hexplains := h.explains
    rw [hlogs, ← List.singleton_append] at hexplains
    have htext := hexplains.text_eq_of_unmarked (hstart ▸ hunmarked)
    exact String.toList_injective (htext.trans hstart)

end Courses

/-- Snapshot and live reading agree. On a host that shows what an environment holds, a resolution
of built-in directives replaces an occurrence of an ambient reading without body and parameters by
the same text, whether the context was assembled from that environment or without one. An occurrence
that is the whole text is replaced at once, and the text is the outcome if it has no markers. In any
assembled context no value is blank, the caller's values take precedence if they count as present,
and hide nothing if they do not. -/
theorem resolveIn_snapshot {services : Services σ} {r : Resolver σ} {p : Platform σ}
    {e : Environment} {d : Directive σ}
    (hr : r.registry.directives ⊆ directives services) (hd : d ∈ r.registry.directives)
    (hreading : d ∈ readings services) (hplatform : services.platform = some p)
    (hshows : p.Shows e) (settings : Settings) (pin : Option Pin) (extras : Fields Json)
    (depth : Nat) (reentry : Option (Reentry σ)) :
    (∀ environment, environment = some e ∨ environment = none →
      ∀ context, context = Context.assemble settings pin environment extras depth →
      ∀ text w, ∃ logs result w', r.Course reentry text context w logs result w' ∧
        (r.resolveIn reentry text context).run w = (result, w') ∧
        (∀ earlier t later, logs.flatten = earlier ++ (d.name, t) :: later →
          t.occurrence.IsBare →
            t.replacement? = some (t.occurrence, servedReading e extras d.name earlier)) ∧
        ∀ s ∈ d.spellings, text = marked s → 0 < r.limitIn context →
          (∃ m t later, logs.flatten = (d.name, t) :: later ∧ m.text = text ∧
            t.replacement? = some (m, servedReading e extras d.name [])) ∧
          (hasMarker (servedReading e extras d.name []).toList = false →
            result.1 = servedReading e extras d.name [])) ∧
    (extras.keys.Nodup → ∀ environment,
      Context.Gathers environment extras
        (Context.assemble settings pin environment extras depth).values) := by
  refine ⟨?_, fun hnames environment => Context.gathers_gatherValues environment hnames⟩
  rintro environment henvironment context rfl text w
  obtain ⟨logs, result, w', hcourse⟩ := Resolver.Course.total r reentry text
    (Context.assemble settings pin environment extras depth) w
  refine ⟨logs, result, w', hcourse, hcourse.resolveIn_eq, ?_, ?_⟩
  · intro earlier t later hlogs hbare
    exact replacement?_of_course hr hd hreading hplatform hshows henvironment hcourse hlogs hbare
  · rintro s hs rfl hlimit
    exact exists_replacement?_of_alone hr hd hreading hplatform hshows henvironment hs hlimit
      hcourse

/-! ## A desk with a blank clipboard -/

/-- A platform that shows an environment and does nothing else. -/
def shownPlatform (e : Environment) : Platform Journal :=
  { clipboardPlatform with
    clipboard := pure e.clipboard
    selectedText := pure e.selectedText
    application := pure e.application
    directory := pure e.directory
    files := pure e.files
    tab := pure e.tab
    track := pure e.track }

lemma shownPlatform_shows (e : Environment) : (shownPlatform e).Shows e where
  clipboard := Action.returns_pure rfl
  selectedText := Action.returns_pure rfl
  application := Action.returns_pure rfl
  directory := Action.returns_pure rfl
  files := Action.returns_pure rfl
  tab := Action.returns_pure rfl
  track := Action.returns_pure rfl

def shownServices (e : Environment) : Services Journal :=
  { Journal.servicesAt Journal.noon with platform := some (shownPlatform e) }

/-- Two files with a path and one without, and two blanks on the clipboard. -/
def desk : Environment :=
  { Environment.empty with
    files := [⟨"a", "/a"⟩, ⟨"b", ""⟩, ⟨"c", "/c"⟩]
    clipboard := some "  " }

def deskContext (environment : Option Environment) : Context :=
  .assemble Settings.default none environment [] 0

/-- The blanks are not in the snapshot, so they are read in both contexts. -/
theorem resolveIn_snapshot_desk :
    (Context.gatherValues (some desk) []).get? "clipboardText" = none ∧
    ∀ environment, environment = some desk ∨ environment = none → ∀ w,
      ((Resolver.resolveIn ⟨registry (shownServices desk), none⟩ none (marked "clipboard")
        (deskContext environment)).run w).1.1 = "  " := by
  refine ⟨rfl, fun environment henvironment w => ?_⟩
  have hmem : clipboardText (shownServices desk) ∈ directives (shownServices desk) :=
    List.mem_append_left _ (List.mem_append_left _ (List.mem_append_left _
      (List.mem_append_left _ List.mem_cons_self)))
  obtain ⟨logs, result, w', -, hrun, -, halone⟩ :=
    (resolveIn_snapshot (r := ⟨registry (shownServices desk), none⟩)
      (List.Subset.refl _) hmem List.mem_cons_self rfl (shownPlatform_shows desk) Settings.default
      none [] 0 none).1 environment henvironment _ rfl (marked "clipboard") w
  have hresult := (halone "clipboard" (by decide) rfl (Nat.succ_pos 249)).2 (by decide)
  rw [deskContext, hrun]
  exact hresult

end Builtin

end Pinboard
