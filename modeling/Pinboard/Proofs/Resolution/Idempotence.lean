import Pinboard.Proofs.Resolution.Settled

/-!
# Resolving a text again

The last pass of a resolution that no limit has stopped replaces nothing, so it leaves text, context
and state as they are. A resolution of the text that was left starts where this pass started and
takes the same turns: it is the same pass once more.
-/
namespace Pinboard

open Markup

variable {σ : Type}

namespace Sweep

variable {d : Directive σ} {reentry : Option (Reentry σ)} {allowance allowance' : Nat}
  {s s' : Sweep} {w w' : σ} {turns : List Turn}

/-- A sweep that replaces nothing takes the same turns under any allowance. -/
lemma Loop.replay (h : Loop d reentry allowance s w turns s' w')
    (hquiet : turns.countP Turn.replaces = 0) (hleft : s.replaced < allowance)
    (hleft' : s.replaced < allowance') (reentry' : Option (Reentry σ)) :
    Loop d reentry' allowance' s w turns s' w' := by
  induction h with
  | spent hspent => omega
  | absent _ hnone => exact .absent hleft' hnone
  | refused _ hfind hknown hask _ ih =>
    exact .refused hleft' hfind hknown hask
      (ih (by simpa [Turn.replaces] using hquiet) hleft hleft')
  | known | handled => simp [Turn.replaces] at hquiet

/-- Handlers cannot change the settings. -/
lemma Loop.settings_eq (h : Loop d reentry allowance s w turns s' w') :
    s'.context.settings = s.context.settings := by
  induction h with
  | spent | absent => rfl
  | refused _ _ _ _ _ ih => exact ih
  | known _ _ _ _ ih => exact ih
  | @handled s s' w w₁ w₂ w' m reply turns _ _ _ _ _ _ ih =>
    rw [ih]
    simp only [substitute, learn]
    split <;> rfl

end Sweep

namespace Progress

variable {limit limit' : Nat} {reentry : Option (Reentry σ)} {ds : List (Directive σ)}
  {p p' q : Progress} {w w' : σ}

lemma Round.settings_eq {log : List Entry} (h : Round limit reentry ds p w log p' w') :
    p'.context.settings = p.context.settings := by
  induction h with
  | nil => rfl
  | cons first _ ih => exact ih.trans first.settings_eq

lemma Rounds.settings_eq {logs : List (List Entry)}
    (h : Rounds limit reentry ds p w logs p' w') :
    p'.context.settings = p.context.settings := by
  induction h with
  | last round _ => exact round.settings_eq
  | more round _ _ ih => exact ih.trans round.settings_eq

section Rules

variable (hrules : ∀ d ∈ ds, ∀ rule ∈ d.rules, rule.ReadsOnly)
include hrules

/-- A pass that replaces nothing is the same from any counts below the limit. -/
lemma Round.replay {log : List Entry} (h : Round limit reentry ds p w log p' w')
    (hquiet : totalReplacements log = 0) (hnames : (ds.map (·.name)).Nodup)
    (hleft : ∀ d ∈ ds, p.count d.name < limit) (htext : q.text = p.text)
    (hcontext : q.context = p.context) (hleft' : ∀ d ∈ ds, q.count d.name < limit')
    (reentry' : Option (Reentry σ)) : ∃ q', Round limit' reentry' ds q w log q' w' := by
  induction h generalizing q with
  | nil => exact ⟨q, .nil⟩
  | @cons d ds p p' w w₁ w' s turns log first rest ih =>
    rw [totalReplacements_append, totalReplacements_map] at hquiet
    rw [List.map_cons, List.nodup_cons] at hnames
    have hfirst := hleft d List.mem_cons_self
    have hfirst' := hleft' d List.mem_cons_self
    obtain ⟨hs, -⟩ := first.quiet (hrules d List.mem_cons_self) (by omega)
    have hagain : Sweep.Loop d reentry' (limit' - q.count d.name) ⟨q.text, q.context, 0, [], 0⟩ w
        turns s w₁ := by
      rw [htext, hcontext]
      exact first.replay (by omega) (show 0 < limit - p.count d.name by omega)
        (show 0 < limit' - q.count d.name by omega) reentry'
    have hothers : ∀ d' ∈ ds, d.name ≠ d'.name := fun d' hd' hsame =>
      hnames.1 (hsame ▸ List.mem_map_of_mem hd')
    have hcount : ∀ d' ∈ ds, (p.after d s).count d'.name < limit := fun d' hd' => by
      rw [count_after, if_neg (hothers d' hd')]
      exact hleft d' (List.mem_cons_of_mem _ hd')
    have hcount' : ∀ d' ∈ ds, (q.after d s).count d'.name < limit' := fun d' hd' => by
      rw [count_after, if_neg (hothers d' hd')]
      exact hleft' d' (List.mem_cons_of_mem _ hd')
    obtain ⟨q', hrest⟩ := ih (fun d' hd' => hrules d' (List.mem_cons_of_mem _ hd')) (by omega)
      hnames.2 hcount (show (q.after d s).text = (p.after d s).text from rfl) rfl hcount'
    exact ⟨q', .cons hagain hrest⟩

/-- Where no directive has come to its limit, the last of several passes can be made once more and
is then the only one. -/
lemma Rounds.replay {logs : List (List Entry)} (h : Rounds limit reentry ds p w logs p' w')
    (hnames : (ds.map (·.name)).Nodup) (hleft : ∀ d ∈ ds, p'.count d.name < limit)
    (hmarker : hasMarker p'.text = true) (htext : q.text = p'.text)
    (hcontext : q.context = p'.context) (hleft' : ∀ d ∈ ds, q.count d.name < limit')
    (reentry' : Option (Reentry σ)) :
    ∃ q', Rounds limit' reentry' ds q w' [logs.getLastD []] q' w' ∧ q'.text = p'.text ∧
      q'.context = p'.context ∧ totalReplacements (logs.getLastD []) = 0 := by
  induction h with
  | @last p p' w w' log round hend =>
    have hquiet : totalReplacements log = 0 := by
      have hsame : ¬p'.changed = true := by simpa [hmarker] using hend
      rw [round.changed_iff] at hsame
      omega
    obtain ⟨hptext, hpcontext, rfl⟩ := round.quiet hrules hquiet
    have hcount : ∀ d ∈ ds, ({ p with changed := false } : Progress).count d.name < limit :=
      fun d hd => by
        have hd' := hleft d hd
        rw [round.count_eq] at hd'
        omega
    obtain ⟨q', hround⟩ := round.replay hrules hquiet hnames hcount
      (q := { q with changed := false }) (htext.trans hptext) (hcontext.trans hpcontext) hleft'
      reentry'
    obtain ⟨hqtext, hqcontext, -⟩ := hround.quiet hrules hquiet
    have hunchanged : ¬q'.changed = true := by
      rw [hround.changed_iff]
      simp [hquiet]
    exact ⟨q', .last hround (by simp [hunchanged]), hqtext.trans htext, hqcontext.trans hcontext,
      hquiet⟩
  | @more p p₁ p' w w₁ w' log logs round hmore rest ih =>
    have hlast : (log :: logs).getLastD [] = logs.getLastD [] := by
      cases rest <;> rfl
    rw [hlast]
    exact ih hleft hmarker htext hcontext

end Rules

end Progress

namespace Resolver

variable {r : Resolver σ} {reentry : Option (Reentry σ)} {text text' : String}
  {context context' : Context} {w w' : σ} {logs : List (List Entry)}

lemma Course.limitIn_eq (h : r.Course reentry text context w logs (text', context') w') :
    r.limitIn context' = r.limitIn context := by
  cases h with
  | unmarked _ => rfl
  | @resolved p w' logs _ rounds =>
    have hsettings : p.context.settings = context.settings := rounds.settings_eq
    rw [limitIn, limitIn, hsettings]

/-- The passes that are made when a finished text is resolved again: the last one of before, if the
text still holds a marker. -/
def repeated (text : String) (logs : List (List Entry)) : List (List Entry) :=
  if hasMarker text.toList then [logs.getLastD []] else []

variable (hrules : ∀ d ∈ r.registry.directives, ∀ rule ∈ d.rules, rule.ReadsOnly)
include hrules

lemma Course.replay (h : r.Course reentry text context w logs (text', context') w')
    (hleft : ∀ d ∈ r.registry.directives, replacements d.name logs.flatten < r.limitIn context)
    (reentry' : Option (Reentry σ)) :
    r.Course reentry' text' context' w' (repeated text' logs) (text', context') w' ∧
      totalReplacements (repeated text' logs).flatten = 0 := by
  cases hmarker : hasMarker text'.toList with
  | false =>
    rw [repeated, if_neg (by simp [hmarker])]
    exact ⟨.unmarked hmarker, rfl⟩
  | true =>
    have hlimit := h.limitIn_eq
    rw [repeated, if_pos hmarker, List.flatten_singleton]
    cases h with
    | unmarked hunmarked => simp [hunmarked] at hmarker
    | @resolved p w' logs hstart rounds =>
      have hcount : ∀ d ∈ r.registry.ordered, p.count d.name < r.limitIn context := fun d hd => by
        have hall : p.count d.name = 0 + replacements d.name logs.flatten := rounds.count_eq d.name
        have hd' := hleft d (Registry.mem_ordered.mp hd)
        omega
      let start : Progress := ⟨(String.ofList p.text).toList, p.context, [], false⟩
      have hfresh : ∀ d ∈ r.registry.ordered, start.count d.name < r.limitIn p.context :=
        fun d hd => by
          have hd' := hcount d hd
          have hzero : start.count d.name = 0 := rfl
          omega
      rw [String.toList_ofList] at hmarker
      obtain ⟨q, hrounds, hqtext, hqcontext, hquiet⟩ := rounds.replay
        (fun d hd => hrules d (Registry.mem_ordered.mp hd)) r.registry.nodup_names hcount hmarker
        (q := start) String.toList_ofList rfl hfresh reentry'
      have hcourse := Course.resolved (by rwa [String.toList_ofList]) hrounds
      rw [hqtext, hqcontext] at hcourse
      exact ⟨hcourse, hquiet⟩

/-- Where no directive comes to its limit, a resolution that follows on the text, context and state
of another gives them back. It makes the last pass of the other once more, if there is a marker at
all, and in it no handler is run and nothing is replaced. -/
theorem resolveIn_idempotent (reentry : Option (Reentry σ)) (text : String) (context : Context)
    (w : σ) :
    ∃ logs text' context' w', r.Course reentry text context w logs (text', context') w' ∧
      (r.resolveIn reentry text context).run w = ((text', context'), w') ∧
      ((∀ d ∈ r.registry.directives, replacements d.name logs.flatten < r.limitIn context) →
        ∀ reentry' : Option (Reentry σ),
          (r.resolveIn reentry' text' context').run w' = ((text', context'), w') ∧
          r.Course reentry' text' context' w' (repeated text' logs) (text', context') w' ∧
          ∀ e ∈ (repeated text' logs).flatten, e.2.runs = false ∧ e.2.replaces = false) := by
  obtain ⟨logs, ⟨text', context'⟩, w', hcourse⟩ := Course.total r reentry text context w
  refine ⟨logs, text', context', w', hcourse, hcourse.resolveIn_eq, fun hleft reentry' => ?_⟩
  obtain ⟨hagain, hquiet⟩ := hcourse.replay hrules hleft reentry'
  refine ⟨hagain.resolveIn_eq, hagain, fun e he => ?_⟩
  have hkeeps : ¬e.2.replaces = true := List.countP_eq_zero.mp hquiet e he
  obtain ⟨name, turn⟩ := e
  cases turn with
  | refused m => exact ⟨rfl, rfl⟩
  | known | handled => exact absurd rfl hkeeps

end Resolver

/-- A note to be kept before one that is not. -/
def notesInRow : String := "\x7b\x7bnote keep\x7d\x7d\x7b\x7bnote\x7d\x7d"

def notesLeft : String := "done\x7b\x7bnote\x7d\x7d"

def firstNote : Occurrence := ⟨"\x7b\x7bnote keep\x7d\x7d", 0, 13, "note", [], ["keep"], none, none⟩

def secondNote : Occurrence := ⟨"\x7b\x7bnote\x7d\x7d", 4, 12, "note", [], [], none, none⟩

/-- The first note is replaced and the second one refused, in the first pass and in the second. -/
lemma notesInRow_course : keptNotes.Course none notesInRow bareContext ()
    [[("note", .handled firstNote (.ofText "done")), ("note", .refused secondNote)],
      [("note", .refused secondNote)]] (notesLeft, bareContext) () := by
  have hfirst : find? keptNote.spellings true 0 notesInRow.toList = some firstNote := rfl
  have hsecond : find? keptNote.spellings true 0 notesLeft.toList = some secondNote := rfl
  have hbehind : find? keptNote.spellings true 12 notesLeft.toList = none := rfl
  let start : Progress := ⟨notesInRow.toList, bareContext, [], false⟩
  let swept : Sweep := ⟨notesLeft.toList, bareContext, 12, [], 1⟩
  have hsweep : Sweep.Loop keptNote none 250 ⟨start.text, start.context, 0, [], 0⟩ ()
      [.handled firstNote (.ofText "done"), .refused secondNote] swept () :=
    .handled (by decide) hfirst rfl rfl rfl
      (.refused (by decide) hsecond rfl rfl (.absent (by decide) hbehind))
  let next : Progress := { start.after keptNote swept with changed := false }
  let still : Sweep := ⟨notesLeft.toList, bareContext, 12, [], 0⟩
  have hstill : Sweep.Loop keptNote none 249 ⟨next.text, next.context, 0, [], 0⟩ ()
      [.refused secondNote] still () :=
    .refused (by decide) hsecond rfl rfl (.absent (by decide) hbehind)
  have hfirstRound : Progress.Round 250 none [keptNote] start ()
      ([Turn.handled firstNote (.ofText "done"), Turn.refused secondNote].map (keptNote.name, ·)
        ++ []) (start.after keptNote swept) () := .cons hsweep .nil
  have hsecondRound : Progress.Round 250 none [keptNote] next ()
      ([Turn.refused secondNote].map (keptNote.name, ·) ++ []) (next.after keptNote still) () :=
    .cons hstill .nil
  have hrounds : Progress.Rounds (keptNotes.limitIn bareContext) none keptNotes.registry.ordered
      start () [[("note", .handled firstNote (.ofText "done")), ("note", .refused secondNote)],
        [("note", .refused secondNote)]] (next.after keptNote still) () :=
    .more hfirstRound rfl (.last hsecondRound rfl)
  exact .resolved rfl hrounds

/-- What is left of two notes comes back as it is. -/
theorem resolveIn_idempotent_notesInRow :
    (∀ d ∈ keptNotes.registry.directives, ∀ rule ∈ d.rules, rule.ReadsOnly) ∧
    (keptNotes.resolveIn none notesInRow bareContext).run () = ((notesLeft, bareContext), ()) ∧
    (keptNotes.resolveIn none notesLeft bareContext).run () = ((notesLeft, bareContext), ()) ∧
    keptNotes.Course none notesLeft bareContext () [[("note", .refused secondNote)]]
      (notesLeft, bareContext) () := by
  obtain ⟨logs, text', context', w', hcourse, hresult, hagain⟩ :=
    Resolver.resolveIn_idempotent keptNotes_readsOnly none notesInRow bareContext ()
  obtain ⟨rfl, hsame, -⟩ := hcourse.unique notesInRow_course
  obtain ⟨rfl, rfl⟩ := Prod.mk.inj hsame
  have hlimit : ∀ d ∈ keptNotes.registry.directives, replacements d.name
      [[("note", .handled firstNote (.ofText "done")), ("note", .refused secondNote)],
        [("note", .refused secondNote)]].flatten < keptNotes.limitIn bareContext := by
    intro d hd
    obtain rfl := List.mem_singleton.mp hd
    decide
  obtain ⟨hback, hcourse', -⟩ := hagain hlimit none
  exact ⟨keptNotes_readsOnly, hresult, hback, hcourse'⟩

end Pinboard
