import Pinboard.Proofs.Resolution.Replacements

/-!
# Constant directives

The value of a constant directive is kept in two places: what its handler gave for a text, until the
sweep is over, and a value of the context under its name, until the resolution is over. The second
serves occurrences without body and parameters only, and it changes when the handler runs for
another occurrence and remembers what it gives.
-/
namespace Pinboard

open Markup

variable {σ : Type}

/-- The occurrence has neither a body nor parameters. -/
def Markup.Occurrence.IsBare (m : Occurrence) : Prop := m.body = none ∧ m.params = []

instance : DecidablePred Occurrence.IsBare :=
  fun m => inferInstanceAs (Decidable (m.body = none ∧ m.params = []))

namespace Directive

variable {d : Directive σ} (hconstant : d.constant = true) {context : Context}
  {cache : Fields String} {m : Occurrence}
include hconstant

lemma known?_cached {result : String} (h : cache.get? m.text = some result) :
    d.known? context cache m = some result := by
  simp [known?, hconstant, h]

/-- What was not given before is served from the context, if nothing shapes it. -/
lemma known?_uncached (h : cache.get? m.text = none) :
    d.known? context cache m = if m.IsBare then context.values.get? d.name else none := by
  have hiff : (m.body.isNone && m.params.isEmpty) = true ↔ m.IsBare := by
    simp [Occurrence.IsBare]
  simp only [known?, hconstant, if_true, h]
  exact if_congr hiff rfl rfl

lemma cache_of_unknown (h : d.known? context cache m = none) : cache.get? m.text = none := by
  cases hcache : cache.get? m.text with
  | none => rfl
  | some result => rw [known?_cached hconstant hcache] at h; cases h

/-- An occurrence that nothing shapes is unknown only while the context has no value. -/
lemma value_of_unknown (h : d.known? context cache m = none) (hbare : m.IsBare) :
    context.values.get? d.name = none := by
  rwa [known?_uncached hconstant (cache_of_unknown hconstant h), if_pos hbare] at h

end Directive

namespace Turn

/-- The text that the handler ran for. -/
def handledText? : Turn → Option String
  | .handled m _ => some m.text
  | _ => none

end Turn

/-- The turns of a sweep agree on each text: the handler runs for it once at most, and it is always
replaced by the same result, unless the handler runs for an occurrence with a body or parameters in
between. -/
structure Consistent (turns : List Turn) : Prop where
  once : (turns.filterMap Turn.handledText?).Nodup
  same : ∀ before t₁ between t₂ after, turns = before ++ t₁ :: (between ++ t₂ :: after) →
    ∀ m₁ m₂ result₁ result₂, t₁.replacement? = some (m₁, result₁) →
      t₂.replacement? = some (m₂, result₂) → m₁.text = m₂.text →
        (∀ m reply, Turn.handled m reply ∈ between ++ [t₂] → m.IsBare) → result₂ = result₁

/-! ## One sweep -/

namespace Sweep

variable {d : Directive σ} {reentry : Option (Reentry σ)} {allowance : Nat} {s s' : Sweep}
  {w w' : σ} {turns : List Turn}

lemma learn_cache_self (hconstant : d.constant = true) (m : Occurrence) (reply : Reply) :
    (s.learn d m reply).cache.get? m.text = some reply.text := by
  simp [learn, hconstant, Fields.get?_set]

lemma learn_cache_other {m : Occurrence} (reply : Reply) {text : String} (h : m.text ≠ text) :
    (s.learn d m reply).cache.get? text = s.cache.get? text := by
  simp only [learn]
  split
  · rw [Fields.get?_set, if_neg h]
  · rfl

/-- What is left of a sweep after some turns is a sweep. -/
lemma Loop.suffix {before rest : List Turn}
    (h : Loop d reentry allowance s w (before ++ rest) s' w') :
    ∃ s₁ w₁, Loop d reentry allowance s₁ w₁ rest s' w' := by
  induction before generalizing s w with
  | nil => exact ⟨s, w, h⟩
  | cons t before ih =>
    cases h with
    | refused _ _ _ _ hrest => exact ih hrest
    | known _ _ _ hrest => exact ih hrest
    | handled _ _ _ _ _ hrest => exact ih hrest

section Constant

variable (hconstant : d.constant = true)
include hconstant

/-- The handler does not run twice for a text, and not for one that is known. -/
lemma Loop.nodup_handledTexts (h : Loop d reentry allowance s w turns s' w') :
    (turns.filterMap Turn.handledText?).Nodup ∧
      ∀ text ∈ turns.filterMap Turn.handledText?, s.cache.get? text = none := by
  induction h with
  | spent | absent => simp
  | refused _ _ _ _ _ ih | known _ _ _ _ ih => exact ih
  | @handled s s' w w₁ w₂ w' m reply turns _ _ hknown _ _ _ ih =>
    obtain ⟨hnodup, hnew⟩ := ih
    have hcache := Directive.cache_of_unknown hconstant hknown
    have hother : ∀ text ∈ turns.filterMap Turn.handledText?, m.text ≠ text := by
      rintro text htext rfl
      have hnone : (s.learn d m reply).cache.get? m.text = none := hnew _ htext
      rw [learn_cache_self hconstant] at hnone
      cases hnone
    rw [List.filterMap_cons_some (show Turn.handledText? (.handled m reply) = some m.text from rfl)]
    refine ⟨List.nodup_cons.mpr ⟨fun hmem => hother _ hmem rfl, hnodup⟩, ?_⟩
    rintro text htext
    rcases List.mem_cons.mp htext with rfl | hlater
    · exact hcache
    · have hnone : (s.learn d m reply).cache.get? text = none := hnew _ hlater
      rwa [learn_cache_other reply (hother _ hlater)] at hnone

/-- What was given for a text is given for it again until the sweep is over. -/
lemma Loop.eq_of_cached (h : Loop d reentry allowance s w turns s' w') {t : Turn} (ht : t ∈ turns)
    {m : Occurrence} {result value : String} (hreplaced : t.replacement? = some (m, result))
    (hcache : s.cache.get? m.text = some value) : result = value := by
  induction h with
  | spent | absent => cases ht
  | refused _ _ _ _ _ ih =>
    rcases List.mem_cons.mp ht with rfl | hlater
    · cases hreplaced
    · exact ih hlater hcache
  | known _ _ hknown _ ih =>
    rcases List.mem_cons.mp ht with rfl | hlater
    · obtain ⟨rfl, rfl⟩ := Prod.mk.inj (Option.some.inj hreplaced)
      rw [Directive.known?_cached hconstant hcache] at hknown
      exact (Option.some.inj hknown).symm
    · exact ih hlater hcache
  | @handled s s' w w₁ w₂ w' m' reply turns _ _ hknown _ _ _ ih =>
    have hnone := Directive.cache_of_unknown hconstant hknown
    rcases List.mem_cons.mp ht with rfl | hlater
    · obtain ⟨rfl, rfl⟩ := Prod.mk.inj (Option.some.inj hreplaced)
      rw [hnone] at hcache
      cases hcache
    · have hother : m'.text ≠ m.text := fun heq => by
        rw [heq, hcache] at hnone
        cases hnone
      exact ih hlater ((learn_cache_other reply hother).trans hcache)

/-- While the handler runs for no occurrence that is shaped, the context serves one value. -/
lemma Loop.eq_of_served {between after : List Turn} {t : Turn}
    (h : Loop d reentry allowance s w (between ++ t :: after) s' w')
    (hbare : ∀ m reply, Turn.handled m reply ∈ between ++ [t] → m.IsBare) {value : String}
    (hvalue : s.context.values.get? d.name = some value) {m : Occurrence} {result : String}
    (hreplaced : t.replacement? = some (m, result)) (hcache : s.cache.get? m.text = none) :
    result = value := by
  induction between generalizing s w with
  | nil =>
    cases h with
    | refused => cases hreplaced
    | known _ _ hknown _ =>
      obtain ⟨rfl, rfl⟩ := Prod.mk.inj (Option.some.inj hreplaced)
      rw [Directive.known?_uncached hconstant hcache] at hknown
      split at hknown
      · exact Option.some.inj (hknown.symm.trans hvalue)
      · cases hknown
    | handled _ _ hknown _ _ _ =>
      have hnone := Directive.value_of_unknown hconstant hknown (hbare _ _ List.mem_cons_self)
      rw [hvalue] at hnone
      cases hnone
  | cons t₀ between ih =>
    have hlater : ∀ m reply, Turn.handled m reply ∈ between ++ [t] → m.IsBare :=
      fun m reply hmem => hbare m reply (List.mem_cons_of_mem _ hmem)
    cases h with
    | refused _ _ _ _ hrest => exact ih hrest hlater hvalue hcache
    | known _ _ _ hrest => exact ih hrest hlater hvalue hcache
    | handled _ _ hknown _ _ _ =>
      have hnone := Directive.value_of_unknown hconstant hknown (hbare _ _ List.mem_cons_self)
      rw [hvalue] at hnone
      cases hnone

/-- Equal texts are replaced by equal results, unless the handler runs for an occurrence with a body
or parameters after the first of them. -/
theorem Loop.eq_of_text_eq {before between after : List Turn} {t₁ t₂ : Turn}
    (h : Loop d reentry allowance s w (before ++ t₁ :: (between ++ t₂ :: after)) s' w')
    (hbare : ∀ m reply, Turn.handled m reply ∈ between ++ [t₂] → m.IsBare)
    {m₁ m₂ : Occurrence} {result₁ result₂ : String}
    (h₁ : t₁.replacement? = some (m₁, result₁)) (h₂ : t₂.replacement? = some (m₂, result₂))
    (htext : m₁.text = m₂.text) : result₂ = result₁ := by
  obtain ⟨s₁, w₁, hrest⟩ := h.suffix
  have hmem : t₂ ∈ between ++ t₂ :: after := by simp
  cases hrest with
  | refused => cases h₁
  | known _ _ hknown hlater =>
    obtain ⟨rfl, rfl⟩ := Prod.mk.inj (Option.some.inj h₁)
    cases hcache : s₁.cache.get? m₂.text with
    | some value =>
      rw [Directive.known?_cached hconstant (htext ▸ hcache)] at hknown
      exact (hlater.eq_of_cached hconstant hmem h₂ hcache).trans (Option.some.inj hknown)
    | none =>
      rw [Directive.known?_uncached hconstant (htext ▸ hcache)] at hknown
      split at hknown
      · exact hlater.eq_of_served hconstant hbare hknown h₂ hcache
      · cases hknown
  | handled _ _ _ _ _ hlater =>
    obtain ⟨rfl, rfl⟩ := Prod.mk.inj (Option.some.inj h₁)
    exact hlater.eq_of_cached hconstant hmem h₂ (htext ▸ learn_cache_self hconstant _ _)

lemma Loop.consistent (h : Loop d reentry allowance s w turns s' w') : Consistent turns where
  once := (h.nodup_handledTexts hconstant).1
  same before t₁ between t₂ after hturns m₁ m₂ result₁ result₂ h₁ h₂ htext hbare := by
    subst hturns
    exact h.eq_of_text_eq hconstant hbare h₁ h₂ htext

end Constant

end Sweep

/-! ## One resolution -/

/-- The turns of a log that a directive took. -/
def turnsOf (name : String) (log : List Entry) : List Turn :=
  log.filterMap fun e => if e.1 = name then some e.2 else none

lemma turnsOf_append (name : String) (log log' : List Entry) :
    turnsOf name (log ++ log') = turnsOf name log ++ turnsOf name log' := List.filterMap_append

lemma turnsOf_map_self (name : String) (turns : List Turn) :
    turnsOf name (turns.map (name, ·)) = turns := by
  simp [turnsOf, List.filterMap_map]

lemma turnsOf_eq_nil {name : String} {log : List Entry} (h : ∀ e ∈ log, e.1 ≠ name) :
    turnsOf name log = [] :=
  List.filterMap_eq_nil_iff.mpr fun e he => if_neg (h e he)

/-- Each entry of a log stands in a relation to all that came before it, some of it before the
log. -/
def Throughout {α : Type} (holds : List α → α → Prop) : List α → List α → Prop
  | _, [] => True
  | past, e :: log => holds past e ∧ Throughout holds (past ++ [e]) log

section Throughout

variable {α : Type} {holds : List α → α → Prop} {past log : List α}

lemma throughout_append {log' : List α} : Throughout holds past (log ++ log') ↔
    Throughout holds past log ∧ Throughout holds (past ++ log) log' := by
  induction log generalizing past with
  | nil => simp [Throughout]
  | cons e log ih =>
    rw [List.cons_append, Throughout, Throughout, ih, and_assoc, List.append_assoc]
    rfl

lemma Throughout.of_eq {before after : List α} {e : α} (h : Throughout holds past log)
    (hlog : log = before ++ e :: after) : holds (past ++ before) e := by
  subst hlog
  exact (throughout_append.mp h).2.1

/-- A relation that no entry can be in but those with some property. -/
lemma throughout_of_forall (h : ∀ past, ∀ e ∈ log, holds past e) : Throughout holds past log := by
  induction log generalizing past with
  | nil => trivial
  | cons e log ih =>
    exact ⟨h past e List.mem_cons_self,
      ih fun past e' he' => h past e' (List.mem_cons_of_mem _ he')⟩

end Throughout

lemma Fields.merge_append {α : Type} (fields new more : Fields α) :
    fields.merge (new ++ more) = (fields.merge new).merge more := List.foldl_append

/-- The values that a context had at first and those that a log gave it. -/
def valuesAfter (given : Fields String) (log : List Entry) : Fields String :=
  given.merge (outputsOf log)

lemma valuesAfter_append (given : Fields String) (log log' : List Entry) :
    valuesAfter given (log ++ log') = (valuesAfter given log).merge (outputsOf log') := by
  rw [valuesAfter, outputsOf, List.flatMap_append, Fields.merge_append]
  rfl

lemma valuesAfter_concat (given : Fields String) (log : List Entry) (e : Entry) :
    valuesAfter given (log ++ [e]) = (valuesAfter given log).merge e.2.outputs := by
  rw [valuesAfter_append, outputsOf, List.flatMap_singleton]

/-- What the handler of a directive gave for an occurrence or the context's value is what takes the
place of another; for one that nothing shapes the handler runs only where there is no value. -/
structure Serves (name : String) (given : Fields String) (past : List Entry) (e : Entry) :
    Prop where
  known : ∀ m result, e = (name, Turn.known m result) →
    (∃ m' reply, (name, Turn.handled m' reply) ∈ past ∧ reply.text = result) ∨
      (valuesAfter given past).get? name = some result
  unread : ∀ m reply, e = (name, Turn.handled m reply) → m.IsBare →
    (valuesAfter given past).get? name = none

lemma serves_other {name : String} {given : Fields String} {past : List Entry} {e : Entry}
    (h : e.1 ≠ name) : Serves name given past e :=
  ⟨fun _ _ he => absurd (congrArg Prod.fst he) h, fun _ _ he => absurd (congrArg Prod.fst he) h⟩

/-- A sweep knows what the turns of a log taught: the context's values, and no text in its cache but
what the handler gave. -/
structure Sweep.Tracks (s : Sweep) (name : String) (given : Fields String) (past : List Entry) :
    Prop where
  values : s.context.values = valuesAfter given past
  cache : ∀ text result, s.cache.get? text = some result →
    ∃ m reply, (name, Turn.handled m reply) ∈ past ∧ reply.text = result

section Runs

variable {d : Directive σ} {reentry : Option (Reentry σ)} {given : Fields String}
  {past : List Entry}

namespace Sweep

variable {s s' : Sweep}

/-- A turn without a reply teaches nothing. -/
lemma Tracks.turn (h : s.Tracks d.name given past) {e : Entry} (houtputs : e.2.outputs = [])
    (hcontext : s'.context = s.context) (hcache : s'.cache = s.cache) :
    s'.Tracks d.name given (past ++ [e]) where
  values := by
    rw [valuesAfter_concat, houtputs, hcontext]
    exact h.values
  cache text result htext := by
    obtain ⟨m, reply, hmem, hresult⟩ := h.cache text result (hcache ▸ htext)
    exact ⟨m, reply, List.mem_append_left _ hmem, hresult⟩

lemma Tracks.learn (h : s.Tracks d.name given past) (m : Occurrence) (reply : Reply) :
    (s.learn d m reply).Tracks d.name given (past ++ [(d.name, .handled m reply)]) where
  values := by
    rw [valuesAfter_concat, ← h.values]
    simp only [Sweep.learn]
    split
    · rename_i hempty
      exact (congrArg s.context.values.merge (List.isEmpty_iff.mp hempty)).symm
    · rfl
  cache text result htext := by
    rcases learn_cache htext with hold | rfl
    · obtain ⟨m', reply', hmem, hresult⟩ := h.cache text result hold
      exact ⟨m', reply', List.mem_append_left _ hmem, hresult⟩
    · exact ⟨m, reply, by simp, rfl⟩

lemma Loop.tracks {allowance : Nat} {w w' : σ} {turns : List Turn}
    (h : Loop d reentry allowance s w turns s' w') (htracks : s.Tracks d.name given past) :
    s'.Tracks d.name given (past ++ turns.map (d.name, ·)) := by
  induction h generalizing past with
  | spent | absent => simpa using htracks
  | refused _ _ _ _ _ ih | known _ _ _ _ ih =>
    rw [List.map_cons, List.append_cons]
    exact ih (htracks.turn rfl rfl rfl)
  | @handled s s' w w₁ w₂ w' m reply turns _ _ _ _ _ _ ih =>
    rw [List.map_cons, List.append_cons]
    have hlearned := htracks.learn m reply
    exact ih ⟨hlearned.values, hlearned.cache⟩

lemma Loop.serves (hconstant : d.constant = true) {allowance : Nat} {w w' : σ} {turns : List Turn}
    (h : Loop d reentry allowance s w turns s' w') (htracks : s.Tracks d.name given past) :
    Throughout (Serves d.name given) past (turns.map (d.name, ·)) := by
  induction h generalizing past with
  | spent | absent => trivial
  | refused _ _ _ _ _ ih =>
    exact ⟨⟨fun _ _ he => (by cases he), fun _ _ he => (by cases he)⟩,
      ih (htracks.turn rfl rfl rfl)⟩
  | @known s s' w w' m result turns _ _ hknown _ ih =>
    refine ⟨⟨fun m' result' he => ?_, fun _ _ he => (by cases he)⟩, ih (htracks.turn rfl rfl rfl)⟩
    cases he
    exact (Directive.known?_stems hknown).imp (htracks.cache _ _) (htracks.values ▸ ·)
  | @handled s s' w w₁ w₂ w' m reply turns _ _ hknown _ _ _ ih =>
    have hlearned := htracks.learn m reply
    refine ⟨⟨fun _ _ he => (by cases he), fun m' reply' he hbare => ?_⟩,
      ih ⟨hlearned.values, hlearned.cache⟩⟩
    cases he
    exact htracks.values ▸ Directive.value_of_unknown hconstant hknown hbare

end Sweep

lemma Progress.Round.serves {limit : Nat} {ds : List (Directive σ)} {p p' : Progress} {w w' : σ}
    {log : List Entry} (hconstant : d.constant = true)
    (hsame : ∀ d' ∈ ds, d'.name = d.name → d' = d) (h : Round limit reentry ds p w log p' w')
    (hvalues : p.context.values = valuesAfter given past) :
    Throughout (Serves d.name given) past log ∧
      p'.context.values = valuesAfter given (past ++ log) := by
  induction h generalizing past with
  | nil => exact ⟨trivial, by simpa using hvalues⟩
  | @cons d' ds p p' w w₁ w' s turns log first rest ih =>
    have htracks : (⟨p.text, p.context, 0, [], 0⟩ : Sweep).Tracks d'.name given past :=
      ⟨hvalues, fun _ _ htext => by cases htext⟩
    have hfirst : Throughout (Serves d.name given) past (turns.map (d'.name, ·)) := by
      by_cases hname : d'.name = d.name
      · obtain rfl := hsame d' List.mem_cons_self hname
        exact first.serves hconstant htracks
      · refine throughout_of_forall fun past e he => serves_other ?_
        obtain ⟨t, -, rfl⟩ := List.mem_map.mp he
        exact hname
    obtain ⟨hrest, hafter⟩ := ih (fun d' hd' => hsame d' (List.mem_cons_of_mem _ hd'))
      (first.tracks htracks).values
    exact ⟨throughout_append.mpr ⟨hfirst, hrest⟩, by rwa [← List.append_assoc]⟩

lemma Progress.Rounds.serves {limit : Nat} {ds : List (Directive σ)} {p p' : Progress} {w w' : σ}
    {logs : List (List Entry)} (hconstant : d.constant = true)
    (hsame : ∀ d' ∈ ds, d'.name = d.name → d' = d) (h : Rounds limit reentry ds p w logs p' w')
    (hvalues : p.context.values = valuesAfter given past) :
    Throughout (Serves d.name given) past logs.flatten := by
  induction h generalizing past with
  | last round _ =>
    rw [List.flatten_singleton]
    exact (round.serves hconstant hsame hvalues).1
  | more round _ _ ih =>
    obtain ⟨hserves, hafter⟩ := round.serves hconstant hsame hvalues
    rw [List.flatten_cons]
    exact throughout_append.mpr ⟨hserves, ih hafter⟩

/-- The turns that a directive took in a pass are those of one sweep. -/
lemma Progress.Round.exists_loop {limit : Nat} {ds : List (Directive σ)} {p p' : Progress}
    {w w' : σ} {log : List Entry} (hd : d ∈ ds) (hnames : (ds.map (·.name)).Nodup)
    (h : Round limit reentry ds p w log p' w') :
    ∃ allowance text context w₁ s w₂,
      Sweep.Loop d reentry allowance ⟨text, context, 0, [], 0⟩ w₁ (turnsOf d.name log) s w₂ := by
  induction h with
  | nil => cases hd
  | @cons d' ds p p' w w₁ w' s turns log first rest ih =>
    rw [List.map_cons, List.nodup_cons] at hnames
    rw [turnsOf_append]
    rcases List.mem_cons.mp hd with rfl | hlater
    · have hnone : turnsOf d.name log = [] := turnsOf_eq_nil fun e he heq =>
        hnames.1 (heq ▸ rest.names e he)
      rw [turnsOf_map_self, hnone, List.append_nil]
      exact ⟨_, _, _, _, _, _, first⟩
    · have hother : d'.name ≠ d.name := fun heq =>
        hnames.1 (heq ▸ List.mem_map_of_mem hlater)
      have hnone : turnsOf d.name (turns.map (d'.name, ·)) = [] := turnsOf_eq_nil fun e he => by
        obtain ⟨t, -, rfl⟩ := List.mem_map.mp he
        exact hother
      rw [hnone, List.nil_append]
      exact ih hlater hnames.2

lemma Progress.Rounds.exists_round {limit : Nat} {ds : List (Directive σ)} {p p' : Progress}
    {w w' : σ} {logs : List (List Entry)} (h : Rounds limit reentry ds p w logs p' w')
    {log : List Entry} (hlog : log ∈ logs) :
    ∃ p₁ w₁ p₂ w₂, Round limit reentry ds p₁ w₁ log p₂ w₂ := by
  induction h with
  | last round _ =>
    obtain rfl := List.mem_singleton.mp hlog
    exact ⟨_, _, _, _, round⟩
  | more round _ _ ih =>
    rcases List.mem_cons.mp hlog with rfl | hlater
    · exact ⟨_, _, _, _, round⟩
    · exact ih hlater

namespace Resolver

variable {r : Resolver σ} {text : String} {context : Context} {w w' : σ}
  {logs : List (List Entry)} {result : String × Context}

/-- What a directive's sweeps do in one resolution, if it is constant. -/
theorem Course.consistent (hd : d ∈ r.registry.directives) (hconstant : d.constant = true)
    (h : r.Course reentry text context w logs result w') :
    (∀ log ∈ logs, Consistent (turnsOf d.name log)) ∧
      Throughout (Serves d.name context.values) [] logs.flatten := by
  have hordered : d ∈ r.registry.ordered := Registry.mem_ordered.mpr hd
  have hsame : ∀ d' ∈ r.registry.ordered, d'.name = d.name → d' = d := fun d' hd' hname =>
    List.inj_on_of_nodup_map r.registry.nodup_names hd' hordered hname
  cases h with
  | unmarked _ => exact ⟨by simp, trivial⟩
  | resolved _ rounds =>
    refine ⟨fun log hlog => ?_, rounds.serves hconstant hsame rfl⟩
    obtain ⟨p₁, w₁, p₂, w₂, hround⟩ := rounds.exists_round hlog
    obtain ⟨allowance, text, context, w₃, s, w₄, hloop⟩ :=
      hround.exists_loop hordered r.registry.nodup_names
    exact hloop.consistent hconstant

end Resolver

end Runs

/-! ## One reading -/

lemma Fields.get?_merge_of_ne {α : Type} {fields new : Fields α} {key : String}
    (h : ∀ f ∈ new, f.1 ≠ key) : (fields.merge new).get? key = fields.get? key := by
  induction new generalizing fields with
  | nil => rfl
  | cons f new ih =>
    calc (fields.merge (f :: new)).get? key = ((fields.set f.1 f.2).merge new).get? key := rfl
      _ = (fields.set f.1 f.2).get? key := ih fun g hg => h g (List.mem_cons_of_mem _ hg)
      _ = fields.get? key := by rw [get?_set, if_neg (h f List.mem_cons_self)]

/-- The reply remembers its text under a name. -/
def Remembers (name : String) (reply : Reply) : Prop :=
  ∃ value, reply = .named value [(name, value)]

/-- In a log, one text takes the place of all occurrences that a directive replaces: the value that
the context had under its name at first, or what the handler gave the one time that it ran. -/
structure ReadsOnce (name : String) (given : Fields String) (log : List Entry) (value : String) :
    Prop where
  same : ∀ t m result, (name, t) ∈ log → t.replacement? = some (m, result) → result = value
  outset : ∀ v, given.get? name = some v → v = value
  handlings_eq : handlings name log =
    if given.get? name = none ∧ replacements name log ≠ 0 then 1 else 0

section ReadsOnce

variable {name : String} {given : Fields String} {log : List Entry}

lemma Turn.replaces_eq (t : Turn) : t.replaces = t.replacement?.isSome := by
  cases t <;> rfl

lemma replacements_pos {t : Turn} (h : (name, t) ∈ log) (hreplaced : t.replacement?.isSome = true) :
    0 < replacements name log :=
  List.countP_pos_iff.mpr ⟨(name, t), h, by simp [Turn.replaces_eq, hreplaced]⟩

lemma replacements_concat (t : Turn) : replacements name (log ++ [(name, t)]) =
    replacements name log + if t.replacement?.isSome then 1 else 0 := by
  rw [replacements_append]
  simp [replacements, List.countP_singleton, Turn.replaces_eq]

lemma handlings_append (log log' : List Entry) :
    handlings name (log ++ log') = handlings name log + handlings name log' := List.countP_append

/-- Where a log stands: nothing is known of a directive and nothing was replaced, or the context has
the value that took the place of all that was. -/
inductive Stands (name : String) (given : Fields String) (log : List Entry) : Prop
  | blank (hgiven : given.get? name = none) (hvalue : (valuesAfter given log).get? name = none)
      (hnone : replacements name log = 0)
  | holding (value : String) (hvalue : (valuesAfter given log).get? name = some value)
      (hsome : given.get? name = none → replacements name log ≠ 0)
      (h : ReadsOnce name given log value)

/-- An entry that replaces nothing for the directive and teaches nothing under its name. -/
lemma Stands.pass (h : Stands name given log) {e : Entry}
    (hkeeps : (valuesAfter given (log ++ [e])).get? name = (valuesAfter given log).get? name)
    (hidle : ∀ t, e = (name, t) → t.replacement? = none) : Stands name given (log ++ [e]) := by
  have hsingle : replacements name [e] = 0 := by
    refine List.countP_eq_zero.mpr fun e' he' => ?_
    obtain rfl := List.mem_singleton.mp he'
    by_cases hname : e'.1 = name
    · simp [Turn.replaces_eq, hidle e'.2 (by rw [← hname])]
    · simp [hname]
  have hreplacements : replacements name (log ++ [e]) = replacements name log := by
    rw [replacements_append, hsingle, Nat.add_zero]
  have hhandlings : handlings name (log ++ [e]) = handlings name log := by
    have hle := handlings_le name [e]
    rw [handlings_append, Nat.le_zero.mp (hle.trans hsingle.le), Nat.add_zero]
  cases h with
  | blank hgiven hvalue hnone =>
    exact .blank hgiven (hkeeps.trans hvalue) (hreplacements.trans hnone)
  | holding value hvalue hsome hreads =>
    refine .holding value (hkeeps.trans hvalue) (hreplacements ▸ hsome)
      ⟨fun t m result hmem hreplaced => ?_, hreads.outset, ?_⟩
    · rcases List.mem_append.mp hmem with hold | hnew
      · exact hreads.same t m result hold hreplaced
      · rw [hidle t (List.mem_singleton.mp hnew).symm] at hreplaced
        cases hreplaced
    · rw [hhandlings, hreplacements]
      exact hreads.handlings_eq

/-- What is known is the value that the log holds. -/
lemma Stands.known (h : Stands name given log) {m : Occurrence} {result : String}
    (hserves : Serves name given log (name, .known m result)) :
    Stands name given (log ++ [(name, .known m result)]) := by
  have hvalues : valuesAfter given (log ++ [(name, .known m result)]) = valuesAfter given log := by
    rw [valuesAfter_concat]
    rfl
  have hmore : replacements name (log ++ [(name, .known m result)]) = replacements name log + 1 :=
    replacements_concat _
  cases h with
  | blank _ hvalue hnone =>
    -- nothing can be known
    rcases hserves.known m result rfl with ⟨m', reply, hmem, -⟩ | hserved
    · exact absurd (replacements_pos hmem rfl) (by omega)
    · rw [hvalue] at hserved
      cases hserved
  | holding value hvalue hsome hreads =>
    have hresult : result = value := by
      rcases hserves.known m result rfl with ⟨m', reply, hmem, htext⟩ | hserved
      · exact htext ▸ hreads.same _ m' reply.text hmem rfl
      · exact Option.some.inj (hserved.symm.trans hvalue)
    refine .holding value (by rw [hvalues, hvalue]) (fun _ => by omega)
      ⟨fun t m' result' hmem hreplaced => ?_, hreads.outset, ?_⟩
    · rcases List.mem_append.mp hmem with hold | hnew
      · exact hreads.same t m' result' hold hreplaced
      · obtain ⟨-, rfl⟩ := Prod.mk.inj (List.mem_singleton.mp hnew)
        obtain ⟨-, rfl⟩ := Prod.mk.inj (Option.some.inj hreplaced)
        exact hresult
    · have hhandlings : handlings name [(name, Turn.known m result)] = 0 := by
        simp [handlings, Turn.runs]
      rw [handlings_append, hhandlings, Nat.add_zero, hreads.handlings_eq]
      refine if_congr ⟨fun h => ⟨h.1, by omega⟩, fun h => ⟨h.1, hsome h.1⟩⟩ rfl rfl

/-- The handler runs only while nothing is known, and what it gives is known from then on. -/
lemma Stands.handled (h : Stands name given log) {m : Occurrence} {reply : Reply}
    (hserves : Serves name given log (name, .handled m reply)) (hbare : m.IsBare)
    (hreply : Remembers name reply) : Stands name given (log ++ [(name, .handled m reply)]) := by
  have hunread := hserves.unread m reply rfl hbare
  obtain ⟨value, rfl⟩ := hreply
  have hmore : replacements name (log ++ [(name, .handled m (.named value [(name, value)]))]) =
      replacements name log + 1 := replacements_concat _
  cases h with
  | holding _ hvalue _ _ =>
    rw [hvalue] at hunread
    cases hunread
  | blank hgiven _ hnone =>
    refine .holding value ?_ (fun _ => by omega)
      ⟨fun t m' result hmem hreplaced => ?_, fun v hv => ?_, ?_⟩
    · rw [valuesAfter_concat]
      exact (Fields.get?_set _ _ _ _).trans (if_pos rfl)
    · rcases List.mem_append.mp hmem with hold | hnew
      · exact absurd (replacements_pos hold (by rw [hreplaced]; rfl)) (by omega)
      · obtain ⟨-, rfl⟩ := Prod.mk.inj (List.mem_singleton.mp hnew)
        obtain ⟨-, rfl⟩ := Prod.mk.inj (Option.some.inj hreplaced)
        rfl
    · rw [hgiven] at hv
      cases hv
    · have hone : handlings name [(name, Turn.handled m (.named value [(name, value)]))] = 1 := by
        simp [handlings, Turn.runs]
      have hbefore : handlings name log = 0 :=
        Nat.le_zero.mp ((handlings_le name log).trans hnone.le)
      rw [handlings_append, hone, hbefore, if_pos ⟨hgiven, by omega⟩]

lemma stands_of_serves (h : Throughout (Serves name given) [] log)
    (hhandled : ∀ m reply, (name, Turn.handled m reply) ∈ log → m.IsBare ∧ Remembers name reply)
    (hothers : ∀ e ∈ log, e.1 ≠ name → ∀ o ∈ e.2.outputs, o.1 ≠ name) :
    Stands name given log := by
  induction log using List.reverseRecOn with
  | nil =>
    cases hgiven : given.get? name with
    | none => exact .blank hgiven hgiven rfl
    | some value =>
      refine .holding value hgiven (fun hnone => by cases hgiven.symm.trans hnone)
        ⟨by simp, fun v hv => ?_, by simp [handlings, replacements]⟩
      exact Option.some.inj (hv.symm.trans hgiven)
  | append_singleton log e ih =>
    obtain ⟨hlog, hserves, -⟩ := throughout_append.mp h
    have hstands := ih hlog (fun m reply hmem => hhandled m reply (List.mem_append_left _ hmem))
      fun e he => hothers e (List.mem_append_left _ he)
    obtain ⟨n, t⟩ := e
    by_cases hname : n = name
    · subst hname
      cases t with
      | refused m =>
        refine hstands.pass (by rw [valuesAfter_concat]; rfl) fun t ht => ?_
        cases ht
        rfl
      | known m result => exact hstands.known hserves
      | handled m reply =>
        obtain ⟨hbare, hreply⟩ := hhandled m reply (by simp)
        exact hstands.handled hserves hbare hreply
    · refine hstands.pass ?_ fun t ht => absurd (congrArg Prod.fst ht) hname
      rw [valuesAfter_concat]
      exact Fields.get?_merge_of_ne (hothers (n, t) (by simp) hname)

/-- If the handler runs for nothing but occurrences without body and parameters and remembers what
it gives, and nobody else remembers anything under its name, then one text takes the place of all
that the directive replaces. -/
theorem exists_readsOnce (h : Throughout (Serves name given) [] log)
    (hhandled : ∀ m reply, (name, Turn.handled m reply) ∈ log → m.IsBare ∧ Remembers name reply)
    (hothers : ∀ e ∈ log, e.1 ≠ name → ∀ o ∈ e.2.outputs, o.1 ≠ name) :
    ∃ value, ReadsOnce name given log value := by
  cases stands_of_serves h hhandled hothers with
  | holding value _ _ hreads => exact ⟨value, hreads⟩
  | blank hgiven _ hnone =>
    refine ⟨"", fun t m result hmem hreplaced => ?_, fun v hv => ?_, ?_⟩
    · exact absurd (replacements_pos hmem (by rw [hreplaced]; rfl)) (by omega)
    · rw [hgiven] at hv
      cases hv
    · rw [if_neg (fun h => h.2 hnone)]
      exact Nat.le_zero.mp ((handlings_le name log).trans hnone.le)

end ReadsOnce

end Pinboard
