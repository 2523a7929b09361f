import Pinboard.Proofs.Markup.Nesting
import Pinboard.Proofs.Resolution.Bounds

/-!
# What a resolution leaves behind

A sweep goes on behind an occurrence that the rules refuse, so it asks about the occurrences that
successive searches meet and about no others. When no directive has reached its limit, the ones that
they meet in the final text are refused; an occurrence around a refused one is left as it is,
whatever its rules would say.
-/
namespace Pinboard

open Markup

variable {σ : Type}

/-- A rule whose question leaves the state as it was. -/
def Rule.ReadsOnly (rule : Rule σ) : Prop :=
  ∀ text context w, (((rule.check text context).run).run w).2 = w

namespace Directive

/-- The rules refuse an occurrence. -/
def Refuses (d : Directive σ) (context : Context) (w : σ) (m : Occurrence) : Prop :=
  ((d.applies m.text context).run w).1 = false

/-- The occurrences that the directive's searches meet in a text. -/
def Reaches (d : Directive σ) (text : List Char) (m : Occurrence) : Prop :=
  Meets (!d.eager) d.spellings text 0 m

/-- The rules refuse every occurrence that is reached, and none has a known text. -/
def Leaves (d : Directive σ) (text : List Char) (context : Context) (w : σ) : Prop :=
  ∀ m, d.Reaches text m → d.known? context [] m = none ∧ d.Refuses context w m

instance (d : Directive σ) (context : Context) (w : σ) (m : Occurrence) :
    Decidable (d.Refuses context w m) :=
  inferInstanceAs (Decidable (_ = false))

lemma anyAccepts_reads {rules : List (Rule σ)} (h : ∀ rule ∈ rules, rule.ReadsOnly) (text : String)
    (context : Context) (w : σ) : ((anyAccepts text context rules).run w).2 = w := by
  induction rules with
  | nil => rfl
  | cons rule rules ih =>
    have hread : ((Action.orElse (rule.check text context) false).run w).2 = w := by
      have hrule := h rule List.mem_cons_self text context w
      simp only [Action.orElse, StateT.run]
      split <;> simp_all [StateT.run]
    have htail := ih fun r hr => h r (List.mem_cons_of_mem _ hr)
    cases hask : (Action.orElse (rule.check text context) false).run w with
    | mk accepted w₁ =>
      obtain rfl : w₁ = w := by simpa [hask] using hread
      simp only [anyAccepts, StateT.run_bind, hask]
      cases accepted with
      | true => rfl
      | false => exact htail

lemma applies_reads {d : Directive σ} (h : ∀ rule ∈ d.rules, rule.ReadsOnly) (text : String)
    (context : Context) (w : σ) : ((d.applies text context).run w).2 = w := by
  unfold applies
  split
  · rfl
  · exact anyAccepts_reads h text context w

end Directive

namespace Sweep

variable {d : Directive σ} {reentry : Option (Reentry σ)} {allowance : Nat} {s s' : Sweep}
  {w w' : σ} {turns : List Turn}

/-- A sweep that replaces nothing is refused what the searches before it meet, and nothing else. -/
lemma Loop.refused_iff (h : Loop d reentry allowance s w turns s' w')
    (hquiet : turns.countP Turn.replaces = 0) (hleft : s.replaced < allowance) {m : Occurrence} :
    Turn.refused m ∈ turns ↔ Meets (!d.eager) d.spellings s.text s.position m := by
  induction h with
  | spent hspent => omega
  | absent _ hnone =>
    refine ⟨fun hm => by simp at hm, fun hm => ?_⟩
    cases hm with
    | next hfind | behind hfind => simp [hnone] at hfind
  | @refused s s' w w₁ w' first turns _ hfind hknown hask rest ih =>
    have hrest := ih (by simpa [Turn.replaces] using hquiet) hleft
    rw [List.mem_cons, hrest, Turn.refused.injEq]
    constructor
    · rintro (rfl | hm)
      · exact .next hfind
      · exact .behind hfind hm
    · intro hm
      cases hm with
      | next hfind' => exact .inl (by simpa [hfind] using hfind'.symm)
      | behind hfind' hm =>
        obtain rfl := Option.some.inj (hfind.symm.trans hfind')
        exact .inr hm
  | known | handled => simp [Turn.replaces] at hquiet

variable (hrules : ∀ rule ∈ d.rules, rule.ReadsOnly)
include hrules

/-- A sweep that replaces nothing moves on and does nothing else. -/
lemma Loop.quiet (h : Loop d reentry allowance s w turns s' w')
    (hquiet : turns.countP Turn.replaces = 0) :
    s' = { s with position := s'.position } ∧ w' = w := by
  induction h with
  | spent | absent => exact ⟨rfl, rfl⟩
  | @refused s s' w w₁ w' m turns hleft hfind hknown hask rest ih =>
    obtain rfl : w₁ = w := by simpa [hask] using Directive.applies_reads hrules m.text s.context w
    exact ih (by simpa [Turn.replaces] using hquiet)
  | known | handled => simp [Turn.replaces] at hquiet

/-- What a sweep that replaces nothing is refused is refused at its beginning. -/
lemma Loop.of_refused (h : Loop d reentry allowance s w turns s' w')
    (hquiet : turns.countP Turn.replaces = 0) {m : Occurrence} (hm : Turn.refused m ∈ turns) :
    d.known? s.context s.cache m = none ∧ d.Refuses s.context w m := by
  induction h with
  | spent | absent => simp at hm
  | @refused s s' w w₁ w' first turns hleft hfind hknown hask rest ih =>
    rcases List.mem_cons.mp hm with hsame | hlater
    · obtain rfl := Turn.refused.inj hsame
      refine ⟨hknown, ?_⟩
      rw [Directive.Refuses, hask]
    · obtain rfl : w₁ = w := by
        simpa [hask] using Directive.applies_reads hrules first.text s.context w
      exact ih (by simpa [Turn.replaces] using hquiet) hlater
  | known | handled => simp [Turn.replaces] at hquiet

/-- A sweep replaces nothing if the rules refuse what the searches before it meet. -/
lemma Loop.quiet_of_refuses (h : Loop d reentry allowance s w turns s' w')
    (hrefuses : ∀ m, Meets (!d.eager) d.spellings s.text s.position m →
      d.known? s.context s.cache m = none ∧ d.Refuses s.context w m) :
    turns.countP Turn.replaces = 0 := by
  induction h with
  | spent | absent => rfl
  | @refused s s' w w₁ w' m turns _ hfind hknown hask rest ih =>
    obtain rfl : w₁ = w := by simpa [hask] using Directive.applies_reads hrules m.text s.context w
    have hrest := ih fun m' hm' => hrefuses m' (.behind hfind hm')
    simpa [Turn.replaces] using hrest
  | @known s s' w w' m result turns _ hfind hknown rest ih =>
    have hnone := (hrefuses m (.next hfind)).1
    simp [hknown] at hnone
  | @handled s s' w w₁ w₂ w' m reply turns _ hfind hknown hask hrun rest ih =>
    have hrefused := (hrefuses m (.next hfind)).2
    simp [Directive.Refuses, hask] at hrefused

/-- A sweep over a whole text that replaces nothing asks about what is reached and about nothing
else, and is refused. -/
lemma Loop.settled {text : List Char} {context : Context}
    (h : Loop d reentry allowance ⟨text, context, 0, [], 0⟩ w turns s' w')
    (hquiet : turns.countP Turn.replaces = 0) (hleft : 0 < allowance) :
    d.Leaves text context w ∧ ∀ m, Turn.refused m ∈ turns ↔ d.Reaches text m := by
  have hasked : ∀ m, Turn.refused m ∈ turns ↔ d.Reaches text m := fun m =>
    h.refused_iff hquiet hleft
  exact ⟨fun m hm => h.of_refused hrules hquiet ((hasked m).mpr hm), hasked⟩

end Sweep

namespace Progress

variable {limit : Nat} {reentry : Option (Reentry σ)} {ds : List (Directive σ)}
  {p p' : Progress} {w w' : σ} {log : List Entry}

section Rules

variable (hrules : ∀ d ∈ ds, ∀ rule ∈ d.rules, rule.ReadsOnly)
include hrules

/-- A pass that replaces nothing leaves text, context and state as they were. -/
lemma Round.quiet (h : Round limit reentry ds p w log p' w') (hquiet : totalReplacements log = 0) :
    p'.text = p.text ∧ p'.context = p.context ∧ w' = w := by
  induction h with
  | nil => exact ⟨rfl, rfl, rfl⟩
  | @cons d ds p p' w w₁ w' s turns log first rest ih =>
    rw [totalReplacements_append, totalReplacements_map] at hquiet
    obtain ⟨hs, rfl⟩ := first.quiet (hrules d List.mem_cons_self) (by omega)
    obtain ⟨htext, hcontext, rfl⟩ :=
      ih (fun d' hd' => hrules d' (List.mem_cons_of_mem _ hd')) (by omega)
    rw [hs] at htext hcontext
    exact ⟨htext, hcontext, rfl⟩

/-- A pass replaces nothing if the rules of each directive have left the text. -/
lemma Round.quiet_of_leaves (h : Round limit reentry ds p w log p' w')
    (hleaves : ∀ d ∈ ds, d.Leaves p.text p.context w) : totalReplacements log = 0 := by
  induction h with
  | nil => rfl
  | @cons d ds p p' w w₁ w' s turns log first rest ih =>
    have hturns : turns.countP Turn.replaces = 0 :=
      first.quiet_of_refuses (hrules d List.mem_cons_self) (hleaves d List.mem_cons_self)
    obtain ⟨hs, rfl⟩ := first.quiet (hrules d List.mem_cons_self) hturns
    have hafter : (p.after d s).text = p.text ∧ (p.after d s).context = p.context := by
      rw [hs]
      exact ⟨rfl, rfl⟩
    have hlog := ih (fun d' hd' => hrules d' (List.mem_cons_of_mem _ hd')) fun d' hd' => by
      rw [hafter.1, hafter.2]
      exact hleaves d' (List.mem_cons_of_mem _ hd')
    rw [totalReplacements_append, totalReplacements_map, hturns, hlog]

/-- A pass that replaces nothing, no directive being at its limit, asks about what is reached and
about nothing else, and is refused. -/
lemma Round.settled (h : Round limit reentry ds p w log p' w') (hquiet : totalReplacements log = 0)
    (hnames : (ds.map (·.name)).Nodup) (hleft : ∀ d ∈ ds, p.count d.name < limit) :
    ∀ d ∈ ds, d.Leaves p.text p.context w ∧
      ∀ m, (d.name, Turn.refused m) ∈ log ↔ d.Reaches p.text m := by
  induction h with
  | nil => simp
  | @cons d ds p p' w w₁ w' s turns log first rest ih =>
    rw [totalReplacements_append, totalReplacements_map] at hquiet
    rw [List.map_cons, List.nodup_cons] at hnames
    have hfirst := hleft d List.mem_cons_self
    obtain ⟨hs, rfl⟩ := first.quiet (hrules d List.mem_cons_self) (by omega)
    have hafter : (p.after d s).text = p.text ∧ (p.after d s).context = p.context := by
      rw [hs]
      exact ⟨rfl, rfl⟩
    have hcount : ∀ d' ∈ ds, (p.after d s).count d'.name < limit := fun d' hd' => by
      have hother : d.name ≠ d'.name := fun hsame =>
        hnames.1 (hsame ▸ List.mem_map_of_mem hd')
      rw [count_after, if_neg hother]
      exact hleft d' (List.mem_cons_of_mem _ hd')
    have hrest := ih (fun d' hd' => hrules d' (List.mem_cons_of_mem _ hd')) (by omega) hnames.2
      hcount
    rw [hafter.1, hafter.2] at hrest
    intro d' hd'
    rcases List.mem_cons.mp hd' with rfl | hd'
    · have hlater : ∀ m, (d'.name, Turn.refused m) ∉ log := fun m hm =>
        hnames.1 (rest.names _ hm)
      have hasked : ∀ m, (d'.name, Turn.refused m) ∈ turns.map (d'.name, ·) ++ log ↔
          Turn.refused m ∈ turns := fun m => by simp [hlater m]
      obtain ⟨hleaves, hiff⟩ := first.settled (hrules d' List.mem_cons_self) (by omega) (by omega)
      exact ⟨hleaves, fun m => (hasked m).trans (hiff m)⟩
    · obtain ⟨hleaves, hiff⟩ := hrest d' hd'
      refine ⟨hleaves, fun m => ?_⟩
      have hother : d.name ≠ d'.name := fun hsame => hnames.1 (hsame ▸ List.mem_map_of_mem hd')
      rw [← hiff m]
      simp [hother]

/-- What the last of several passes asked about, and what it left. -/
lemma Rounds.settled {logs : List (List Entry)} (h : Rounds limit reentry ds p w logs p' w')
    (hnames : (ds.map (·.name)).Nodup) (hleft : ∀ d ∈ ds, p'.count d.name < limit) :
    ∀ d ∈ ds, d.Leaves p'.text p'.context w' ∧
      ∀ m, Reads d.spellings p'.text p'.text.length m →
        ((d.name, Turn.refused m) ∈ logs.getLastD [] ↔ d.Reaches p'.text m) := by
  induction h with
  | @last p p' w w' log round hend =>
    by_cases hmarker : hasMarker p'.text = true
    · have hquiet : totalReplacements log = 0 := by
        have hsame : ¬p'.changed = true := by simpa [hmarker] using hend
        rw [round.changed_iff] at hsame
        omega
      obtain ⟨htext, hcontext, rfl⟩ := round.quiet hrules hquiet
      have hcount : ∀ d ∈ ds, ({ p with changed := false } : Progress).count d.name < limit :=
        fun d hd => by
          have hd' := hleft d hd
          rw [round.count_eq] at hd'
          omega
      rw [htext, hcontext]
      intro d hd
      obtain ⟨hleaves, hiff⟩ := round.settled hrules hquiet hnames hcount d hd
      exact ⟨hleaves, fun m _ => hiff m⟩
    · exact fun d _ => ⟨fun m hm => absurd hm.reads.1.hasMarker hmarker,
        fun m hm => absurd hm.1.hasMarker hmarker⟩
  | @more p p₁ p' w w₁ w' log logs round hmore rest ih =>
    have hlogs : logs ≠ [] := by cases rest <;> simp
    have hlast : (log :: logs).getLastD [] = logs.getLastD [] := by
      cases logs with
      | nil => exact absurd rfl hlogs
      | cons => rfl
    rw [hlast]
    exact ih hleft

/-- A pass over a text that the rules of each directive have left is the last. -/
lemma Rounds.of_leaves (limit : Nat) (reentry : Option (Reentry σ))
    (hleaves : ∀ d ∈ ds, d.Leaves p.text p.context w) :
    ∃ log p', Rounds limit reentry ds p w [log] p' w ∧ p'.text = p.text ∧
      p'.context = p.context := by
  obtain ⟨log, p', w', round⟩ := Round.total limit reentry ds { p with changed := false } w
  have hquiet := round.quiet_of_leaves hrules hleaves
  obtain ⟨htext, hcontext, rfl⟩ := round.quiet hrules hquiet
  have hsame : ¬p'.changed = true := by
    rw [round.changed_iff]
    simp [hquiet]
  exact ⟨log, p', .last round (by simp [hsame]), htext, hcontext⟩

end Rules

end Progress

namespace Resolver

variable {r : Resolver σ} (hrules : ∀ d ∈ r.registry.directives, ∀ rule ∈ d.rules, rule.ReadsOnly)
include hrules

lemma Course.settled {reentry : Option (Reentry σ)} {text text' : String}
    {context context' : Context} {w w' : σ} {logs : List (List Entry)}
    (h : r.Course reentry text context w logs (text', context') w')
    (hleft : ∀ d ∈ r.registry.directives, replacements d.name logs.flatten < r.limitIn context) :
    ∀ d ∈ r.registry.directives, d.Leaves text'.toList context' w' ∧
      ∀ m, Reads d.spellings text'.toList text'.toList.length m →
        ((d.name, Turn.refused m) ∈ logs.getLastD [] ↔ d.Reaches text'.toList m) := by
  cases h with
  | unmarked hmarker =>
    exact fun d _ => ⟨fun m hm => absurd hm.reads.1.hasMarker (by simp [hmarker]),
      fun m hm => absurd hm.1.hasMarker (by simp [hmarker])⟩
  | @resolved p w' logs hmarker rounds =>
    have hcount : ∀ d ∈ r.registry.ordered, p.count d.name < r.limitIn context := fun d hd => by
      have hstart : p.count d.name = 0 + replacements d.name logs.flatten := rounds.count_eq d.name
      have hd' := hleft d (Registry.mem_ordered.mp hd)
      omega
    have hsettled := rounds.settled (fun d hd => hrules d (Registry.mem_ordered.mp hd))
      r.registry.nodup_names hcount
    intro d hd
    simpa using hsettled d (Registry.mem_ordered.mpr hd)

/-- Where no directive comes to its limit, a resolution ends with a text in which all that is
reached is refused in the final context and state, and it is what the last pass asked about. Such a
text comes back as it is, whatever the rules would say about its other occurrences. A directive
whose spellings begin with no brace reaches its innermost occurrences, or the outermost ones if it
is eager, and no others. -/
theorem resolveIn_leaves (reentry : Option (Reentry σ)) (text : String) (context : Context)
    (w : σ) :
    (∃ logs text' context' w', r.Course reentry text context w logs (text', context') w' ∧
      (r.resolveIn reentry text context).run w = ((text', context'), w') ∧
      ((∀ d ∈ r.registry.directives, replacements d.name logs.flatten < r.limitIn context) →
        ∀ d ∈ r.registry.directives, d.Leaves text'.toList context' w' ∧
          ∀ m, Reads d.spellings text'.toList text'.toList.length m →
            ((d.name, Turn.refused m) ∈ logs.getLastD [] ↔ d.Reaches text'.toList m))) ∧
    ((∀ d ∈ r.registry.directives, d.Leaves text.toList context w) →
      (r.resolveIn reentry text context).run w = ((text, context), w)) ∧
    ∀ d ∈ r.registry.directives, (∀ spelling ∈ d.spellings, Unbraced spelling) → ∀ text m,
      d.Reaches text m ↔
        Reads d.spellings text text.length m ∧ IsExposed (!d.eager) d.spellings text m := by
  refine ⟨?_, ?_, fun d _ hs text m => meets_iff hs⟩
  · obtain ⟨logs, ⟨text', context'⟩, w', hcourse⟩ := Course.total r reentry text context w
    exact ⟨logs, text', context', w', hcourse, hcourse.resolveIn_eq, hcourse.settled hrules⟩
  · intro hleaves
    cases hmarker : hasMarker text.toList with
    | false => exact (Course.unmarked hmarker).resolveIn_eq
    | true =>
      let start : Progress := ⟨text.toList, context, [], false⟩
      have hstart : ∀ d ∈ r.registry.ordered, d.Leaves start.text start.context w := fun d hd =>
        hleaves d (Registry.mem_ordered.mp hd)
      obtain ⟨log, p, rounds, htext, hcontext⟩ := Progress.Rounds.of_leaves
        (fun d hd => hrules d (Registry.mem_ordered.mp hd)) (r.limitIn context) reentry hstart
      have hend := (Course.resolved hmarker rounds).resolveIn_eq
      rwa [htext, hcontext, String.ofList_toList] at hend

end Resolver

/-- A note that is replaced only where its text asks to keep it. -/
def keptNote : Directive Unit where
  name := "note"
  aliases := []
  description := ""
  example_ := ""
  kind := .static
  constant := false
  eager := false
  rules := [⟨"contains", fun text _ => pure (Text.contains "keep" text)⟩]
  handler := fun _ _ _ => pure (.ofText "done")

def keptNotes : Resolver Unit := ⟨⟨[keptNote], rfl⟩, none⟩

def bareContext : Context := ⟨none, [], 0, Settings.default⟩

/-- A note to be kept around one that is not. -/
def nestedNotes : String := "\x7b\x7bnote keep:\x7b\x7bnote\x7d\x7d\x7d\x7d"

def innerNote : Occurrence := ⟨"\x7b\x7bnote\x7d\x7d", 12, 20, "note", [], [], none, none⟩

def outerNote : Occurrence :=
  ⟨nestedNotes, 0, 22, "note", [], ["keep"], some "\x7b\x7bnote\x7d\x7d", none⟩

/-- The whole resolution asks once, about the inner note. -/
lemma nestedNotes_course : keptNotes.Course none nestedNotes bareContext ()
    [[("note", .refused innerNote)]] (nestedNotes, bareContext) () := by
  have hinner : find? keptNote.spellings true 0 nestedNotes.toList = some innerNote := rfl
  have hbehind : find? keptNote.spellings true 20 nestedNotes.toList = none := rfl
  let start : Progress := ⟨nestedNotes.toList, bareContext, [], false⟩
  let swept : Sweep := ⟨nestedNotes.toList, bareContext, 20, [], 0⟩
  have hsweep : Sweep.Loop keptNote none 250 ⟨start.text, start.context, 0, [], 0⟩ ()
      [.refused innerNote] swept () :=
    .refused (by decide) hinner rfl rfl (.absent (by decide) hbehind)
  have hround : Progress.Round 250 none [keptNote] start ()
      ([Turn.refused innerNote].map (keptNote.name, ·) ++ []) (start.after keptNote swept) () :=
    .cons hsweep .nil
  have hrounds : Progress.Rounds (keptNotes.limitIn bareContext) none keptNotes.registry.ordered
      start () [[("note", .refused innerNote)]] (start.after keptNote swept) () :=
    .last hround rfl
  exact .resolved rfl hrounds

lemma keptNotes_readsOnly : ∀ d ∈ keptNotes.registry.directives, ∀ rule ∈ d.rules,
    rule.ReadsOnly := by
  intro d hd rule hrule
  obtain rfl := List.mem_singleton.mp hd
  obtain rfl := List.mem_singleton.mp hrule
  exact fun _ _ _ => rfl

lemma nestedNotes_within_limit : ∀ d ∈ keptNotes.registry.directives,
    replacements d.name [[("note", Turn.refused innerNote)]].flatten <
      keptNotes.limitIn bareContext := by
  intro d hd
  obtain rfl := List.mem_singleton.mp hd
  decide

/-- The inner note is refused in the text that is left. -/
theorem resolveIn_leaves_nestedNotes :
    (∀ d ∈ keptNotes.registry.directives, ∀ rule ∈ d.rules, rule.ReadsOnly) ∧
    keptNotes.Course none nestedNotes bareContext () [[("note", .refused innerNote)]]
      (nestedNotes, bareContext) () ∧
    IsExposed true keptNote.spellings nestedNotes.toList innerNote ∧
    keptNote.Refuses bareContext () innerNote := by
  refine ⟨keptNotes_readsOnly, nestedNotes_course, ?_⟩
  obtain ⟨⟨logs, text', context', w', hcourse, -, hsettled⟩, -, hreaches⟩ :=
    Resolver.resolveIn_leaves keptNotes_readsOnly none nestedNotes bareContext ()
  obtain ⟨rfl, hresult, rfl⟩ := hcourse.unique nestedNotes_course
  obtain ⟨rfl, rfl⟩ := Prod.mk.inj hresult
  have hinner : find? keptNote.spellings true 0 nestedNotes.toList = some innerNote := rfl
  have hreads := (find?_reads hinner).1
  obtain ⟨hleaves, hasked⟩ := hsettled nestedNotes_within_limit keptNote List.mem_cons_self
  have hreached := (hasked innerNote hreads).mp List.mem_cons_self
  have hexposed := (hreaches keptNote List.mem_cons_self (by decide) _ _).mp hreached
  exact ⟨hexposed.2, (hleaves innerNote hreached).2⟩

/-- The outer note, which its rule accepts, is left behind. -/
theorem outerNote_left_behind :
    (∀ d ∈ keptNotes.registry.directives, ∀ rule ∈ d.rules, rule.ReadsOnly) ∧
    keptNotes.Course none nestedNotes bareContext () [[("note", .refused innerNote)]]
      (nestedNotes, bareContext) () ∧
    (keptNotes.resolveIn none nestedNotes bareContext).run () =
      ((nestedNotes, bareContext), ()) ∧
    (∀ d ∈ keptNotes.registry.directives,
      replacements d.name [[("note", Turn.refused innerNote)]].flatten <
        keptNotes.limitIn bareContext) ∧
    OccursIn keptNote.spellings nestedNotes.toList nestedNotes.toList.length outerNote ∧
    ¬keptNote.Refuses bareContext () outerNote := by
  have houter : find? keptNote.spellings false 0 nestedNotes.toList = some outerNote := rfl
  exact ⟨keptNotes_readsOnly, nestedNotes_course, nestedNotes_course.resolveIn_eq,
    nestedNotes_within_limit, (find?_reads houter).1.1, by decide⟩

end Pinboard
