import Mathlib.Data.List.TakeWhile
import Pinboard.Proofs.Builtin.Grouping

/-!
# Local changes

A directive that moves, deletes or creates a pin changes the one pin that it is about. All others
stay as they are and where they are. At most one group is added, and only if one is wanted that is
not there yet.
-/
namespace Pinboard

open Action Markup

variable {σ : Type}

/-- A text has only blanks if nothing of it is left without them. -/
lemma Text.isEmpty_strip (s : String) : (strip s).isEmpty = isBlankText s := by
  have hends : stripChars s.toList = [] ↔ ∀ c ∈ s.toList, isBlank c = true := by
    rw [stripChars, stripOf, List.reverse_eq_nil_iff, List.dropWhile_eq_nil_iff]
    simp only [List.mem_reverse]
    constructor
    · intro hleft
      rw [← List.dropWhile_eq_nil_iff]
      by_contra hsome
      have hhead := List.head_dropWhile_not isBlank hsome
      rw [hleft _ (List.head_mem hsome)] at hhead
      cases hhead
    · intro hall c hc
      exact hall c (List.dropWhile_subset _ hc)
  rw [Bool.eq_iff_iff, String.isEmpty_iff, strip, isBlankText, List.all_eq_true, ← hends]
  exact ⟨fun h => by simpa using congrArg String.toList h, fun h => by rw [h]⟩

/-! ## The first pin of a name -/

/-- A text names the pin that stands between some pins, and none of those before it. -/
structure FirstNamed (ref : String) (pins before : List Pin) (p : Pin) (after : List Pin) :
    Prop where
  split : pins = before ++ p :: after
  named : p.isNamed ref = true
  first : ∀ q ∈ before, q.isNamed ref = false

lemma exists_firstNamed {ref : String} {pins : List Pin} {p : Pin}
    (h : pins.find? (·.isNamed ref) = some p) :
    ∃ before after, FirstNamed ref pins before p after := by
  obtain ⟨hnamed, before, after, hsplit, hfirst⟩ := List.find?_eq_some_iff_append.mp h
  exact ⟨before, after, hsplit, hnamed, fun q hq => by simpa using hfirst q hq⟩

namespace FirstNamed

variable {ref : String} {h : Holdings} {before after : List Pin} {p : Pin}

lemma updated (hfirst : FirstNamed ref h.pins before p after) (hids : (h.pins.map (·.id)).Nodup)
    {q : Pin} (hid : q.id = p.id) : (h.after (.updated q)).pins = before ++ q :: after := by
  rw [hfirst.split] at hids
  rw [Holdings.after]
  dsimp only
  rw [hfirst.split]
  exact Memory.update_middle hids hid

lemma removed (hfirst : FirstNamed ref h.pins before p after) (hids : (h.pins.map (·.id)).Nodup) :
    (h.after (.removed p)).pins = before ++ after := by
  rw [hfirst.split] at hids
  rw [Holdings.after]
  dsimp only
  rw [hfirst.split]
  exact Memory.remove_middle hids

end FirstNamed

/-! ## What the directives are for -/

/-- The groups once one is there for a text. A new one is appended if one is wanted and none goes by
the text. -/
inductive Grouped (text : String) (groups groups' : List Group) : Prop
  | there (hthere : text = noGroup ∨ ∃ g ∈ groups, g.isNamed text = true)
      (hsame : groups' = groups)
  | added {g : Group} (hwanted : text ≠ noGroup) (hmissing : ∀ g ∈ groups, g.isNamed text = false)
      (hname : g.name = text) (hgroups : groups' = groups ++ [g])

/-- The first pin that a text names is put into a group. -/
inductive Moves (ref group : String) (h h' : Holdings) : Prop
  | unknown (hnone : ∀ p ∈ h.pins, p.isNamed ref = false) (hsame : h' = h)
  | moved {before after : List Pin} {p : Pin} (hfirst : FirstNamed ref h.pins before p after)
      (hpins : h'.pins = before ++ { p with group } :: after)
      (hgroups : Grouped group h.groups h'.groups)

/-- The first pin that a text names is removed, with consent. -/
inductive Deletes (ref : String) (consents : Pin → Prop) (h h' : Holdings) : Prop
  | unknown (hnone : ref = "" ∨ ∀ p ∈ h.pins, p.isNamed ref = false) (hsame : h' = h)
  | kept {before after : List Pin} {p : Pin} (hfirst : FirstNamed ref h.pins before p after)
      (hrefused : ¬consents p) (hsame : h' = h)
  | deleted {before after : List Pin} {p : Pin} (href : ref ≠ "")
      (hfirst : FirstNamed ref h.pins before p after) (hconsents : consents p)
      (hpins : h'.pins = before ++ after) (hgroups : h'.groups = h.groups)

/-- A pin is appended. -/
structure Creates (name target group : String) (h h' : Holdings) : Prop where
  pins : ∃ p, p.name = name ∧ p.target = target ∧ p.group = group ∧ h'.pins = h.pins ++ [p]
  groups : Grouped group h.groups h'.groups

namespace Builtin

/-- The deletion of a pin is silent, or the user is asked and accepts it. -/
def Consents (services : Services σ) (m : Occurrence) (w : σ) (p : Pin) : Prop :=
  Text.lower (m.paramText "silent") ∈ ["true", "yes", "1"] ∨
    ∃ notifier ∈ services.notifier,
      ((notifier.confirm ("Are you sure you want to delete the pin '" ++ p.name ++ "'?")
        "Delete Pin").run.run w).1 = .ok true

lemma mayDelete_iff (services : Services σ) (m : Occurrence) (p : Pin) (w : σ) :
    ((mayDelete services m p).run.run w).1 = .ok true ↔ Consents services m w p := by
  by_cases hsilent : isTruthy (m.paramText "silent") = true
  · rw [mayDelete, if_pos hsilent]
    exact iff_of_true rfl (.inl (by simpa [isTruthy, truthyWords] using hsilent))
  · have hasked : Text.lower (m.paramText "silent") ∉ ["true", "yes", "1"] := by
      simpa [isTruthy, truthyWords] using hsilent
    rw [mayDelete, if_neg hsilent, Consents, or_iff_right hasked]
    unfold Services.needNotifier
    cases services.notifier with
    | none => simp [Action.demand]
    | some notifier => simp [Action.demand]

section Runs

variable {services : Services σ} {holdings : σ → Holdings} (hservices : services.Holds holdings)
include hservices

lemma ends_listed {α : Type} {x : Action σ α} {value : Holdings → α} (hcall : services.Calls x)
    (hvalue : ∀ w, (x.run.run w).1 = .ok (value (holdings w))) (w : σ) :
    x.Ends holdings w (.ok (value (holdings w))) (holdings w) :=
  ⟨(x.run.run w).2, Prod.ext (hvalue w) rfl, hservices.others hcall w⟩

lemma ends_findPin (ref : String) (w : σ) : (findPin services ref).Ends holdings w
    (.ok ((holdings w).pins.find? (·.isNamed ref))) (holdings w) :=
  (ends_listed hservices .listPins hservices.listPins w).bind_pure _

lemma ends_findGroup (ref : String) (w : σ) : (findGroup services ref).Ends holdings w
    (.ok ((holdings w).groups.find? (·.isNamed ref))) (holdings w) :=
  (ends_listed hservices .listGroups hservices.listGroups w).bind_pure _

variable (hfresh : ∀ w, ∃ fresh w', services.fresh.run.run w = (.ok fresh, w'))
include hfresh

lemma ends_fresh (w : σ) :
    ∃ fresh, services.fresh.Ends holdings w (.ok fresh) (holdings w) := by
  obtain ⟨fresh, w', hrun⟩ := hfresh w
  have hsame := leaves_fresh hservices w
  rw [hrun] at hsame
  exact ⟨fresh, w', hrun, hsame⟩

/-- A group is there for a text once it is ensured, and nothing else changes. -/
lemma ends_ensureGroup (name : String) (w : σ) :
    ∃ h', (ensureGroup services name).Ends holdings w (.ok ()) h' ∧
      h'.pins = (holdings w).pins ∧ Grouped name (holdings w).groups h'.groups := by
  rw [ensureGroup_eq]
  by_cases hnone : name = noGroup
  · rw [if_pos (by simpa using hnone)]
    exact ⟨_, ends_pure (), rfl, .there (.inl hnone) rfl⟩
  rw [if_neg (by simpa using hnone)]
  have hfind := ends_findGroup hservices name w
  cases hfound : (holdings w).groups.find? (·.isNamed name) with
  | some g =>
    have hthere : ∃ g ∈ (holdings w).groups, g.isNamed name = true :=
      ⟨g, List.mem_of_find?_eq_some hfound,
        List.find?_some (p := fun g : Group => g.isNamed name) hfound⟩
    rw [hfound] at hfind
    exact ⟨_, hfind.bind fun w' hsame => hsame ▸ ends_pure (), rfl, .there (.inr hthere) rfl⟩
  | none =>
    have hmissing : ∀ g ∈ (holdings w).groups, g.isNamed name = false := by simpa using hfound
    rw [hfound] at hfind
    obtain ⟨w₁, hfindRun, hsame₁⟩ := hfind
    obtain ⟨fresh, w₂, hfreshRun, hsame₂⟩ := ends_fresh hservices hfresh w₁
    obtain ⟨added, w₃, hadd, hafter⟩ := hservices.addGroup (newGroup fresh name) w₂
    rw [hsame₂, hsame₁] at hafter
    refine ⟨(holdings w).after (.grouped (newGroup fresh name)), ⟨w₃, ?_, hafter⟩, rfl,
      .added hnone hmissing (name_newGroup fresh name) rfl⟩
    rw [run_bind_ok hfindRun]
    dsimp only
    rw [run_bind_ok hfreshRun, run_bind_ok hadd]
    rfl

variable (m : Occurrence) (context : Context) (reentry : Option (Reentry σ)) (w : σ)

lemma moves_movePin (hids : ((holdings w).pins.map (·.id)).Nodup) {ref group : String}
    {rest : List String} (hargs : m.arguments 2 = ref :: group :: rest)
    (href : Text.isBlankText ref = false) (hgroup : Text.isBlankText group = false) :
    ∃ h', ((movePin services).handler m context reentry).Ends holdings w (.ok Reply.nothing) h' ∧
      Moves (Text.strip ref) (Text.strip group) (holdings w) h' := by
  simp only [movePin, directive, hargs, href, hgroup, Bool.not_false, Bool.and_self, if_true]
  have hfind := ends_findPin hservices (Text.strip ref) w
  cases hfound : (holdings w).pins.find? (·.isNamed (Text.strip ref)) with
  | none =>
    rw [hfound] at hfind
    exact ⟨_, hfind.bind fun w' hsame => hsame ▸ ends_pure _, .unknown (by simpa using hfound) rfl⟩
  | some p =>
    rw [hfound] at hfind
    obtain ⟨w₁, hfindRun, hsame₁⟩ := hfind
    obtain ⟨h₂, ⟨w₂, hensure, hsame₂⟩, hpins₂, hgroups₂⟩ :=
      ends_ensureGroup hservices hfresh (Text.strip group) w₁
    obtain ⟨w₃, hupdate, hafter⟩ := hservices.updatePin { p with group := Text.strip group } w₂
    obtain ⟨before, after, hfirst⟩ := exists_firstNamed hfound
    rw [hsame₁] at hpins₂ hgroups₂
    rw [hsame₂] at hafter
    refine ⟨_, ⟨w₃, ?_, hafter⟩, .moved hfirst ?_ hgroups₂⟩
    · rw [run_bind_ok hfindRun]
      dsimp only
      rw [run_bind_ok hensure, run_bind_ok hupdate]
      rfl
    · have hfirst₂ : FirstNamed (Text.strip ref) h₂.pins before p after := hpins₂ ▸ hfirst
      exact hfirst₂.updated (hpins₂ ▸ hids) rfl

omit hfresh in
/-- A pin that was found is removed with consent, and stays without. -/
lemma removed_if_consents (p : Pin) :
    (Consents services m w p →
      holdings ((do if ← mayDelete services m p then services.pins.remove [p]
                    pure Reply.nothing : Action σ Reply).run.run w).2 =
        (holdings w).after (.removed p)) ∧
    (¬Consents services m w p →
      holdings ((do if ← mayDelete services m p then services.pins.remove [p]
                    pure Reply.nothing : Action σ Reply).run.run w).2 = holdings w) := by
  have hleft := leaves_mayDelete hservices m p w
  have hconsents := mayDelete_iff services m p w
  cases hasked : (mayDelete services m p).run.run w with
  | mk allowed w₁ =>
  rw [hasked] at hleft hconsents
  have hsame : holdings w₁ = holdings w := hleft
  cases allowed with
  | error fault =>
    rw [run_bind_error hasked]
    exact ⟨fun hyes => (nomatch hconsents.mpr hyes), fun _ => hsame⟩
  | ok yes =>
    rw [run_bind_ok hasked]
    cases yes with
    | false => exact ⟨fun hyes => (nomatch hconsents.mpr hyes), fun _ => hsame⟩
    | true =>
      obtain ⟨w₂, hremove, hafter⟩ := hservices.removePin p w₁
      rw [if_pos rfl, run_bind_ok hremove]
      exact ⟨fun _ => hsame ▸ hafter, fun hno => absurd (hconsents.mp rfl) hno⟩

omit hfresh in
lemma deletes_deletePin (hids : ((holdings w).pins.map (·.id)).Nodup) :
    Deletes (reference m) (Consents services m (services.pins.list.run.run w).2) (holdings w)
      (holdings (((deletePin services).handler m context reentry).run.run w).2) := by
  simp only [deletePin, directive]
  by_cases href : reference m = ""
  · rw [if_pos (by simpa using href)]
    exact .unknown (.inl href) rfl
  rw [if_neg (by simpa using href)]
  obtain ⟨w₁, hlist, hsame₁⟩ := ends_listed hservices .listPins hservices.listPins w
  rw [hlist]
  have hfind : (findPin services (reference m)).run.run w =
      (.ok ((holdings w).pins.find? (·.isNamed (reference m))), w₁) := by
    rw [findPin, run_bind_ok hlist]
    rfl
  cases hfound : (holdings w).pins.find? (·.isNamed (reference m)) with
  | none =>
    rw [hfound] at hfind
    rw [run_bind_ok hfind]
    exact .unknown (.inr (by simpa using hfound)) hsame₁
  | some p =>
    rw [hfound] at hfind
    rw [run_bind_ok hfind]
    dsimp only
    obtain ⟨before, after, hfirst⟩ := exists_firstNamed hfound
    obtain ⟨hyes, hno⟩ := removed_if_consents hservices m w₁ p
    by_cases hconsents : Consents services m w₁ p
    · have hafter := hyes hconsents
      rw [hsame₁] at hafter
      have hgroups := congrArg Holdings.groups hafter
      exact .deleted href hfirst hconsents (hafter ▸ hfirst.removed hids) hgroups
    · exact .kept hfirst hconsents ((hno hconsents).trans hsame₁)

lemma creates_createPin {name : String} {rest : List String}
    (hargs : m.arguments 3 = name :: rest) (hname : Text.isBlankText name = false) :
    ∃ h', ((createPin services).handler m context reentry).Ends holdings w (.ok Reply.nothing) h' ∧
      Creates (Text.strip name) (wantedTarget (Text.strip name) (name :: rest))
        (wantedGroup m (name :: rest)) (holdings w) h' := by
  have hnonempty : ¬(Text.strip name).isEmpty = true := by
    rw [Text.isEmpty_strip, hname]
    decide
  simp only [createPin, directive, hargs, List.head?_cons, Option.getD_some]
  rw [if_neg hnonempty]
  obtain ⟨h₁, ⟨w₁, hensure, hsame₁⟩, hpins₁, hgroups₁⟩ :=
    ends_ensureGroup hservices hfresh (wantedGroup m (name :: rest)) w
  obtain ⟨fresh, w₂, hfreshRun, hsame₂⟩ := ends_fresh hservices hfresh w₁
  obtain ⟨added, w₃, hadd, hafter⟩ := hservices.addPin (Pin.new fresh (Text.strip name)
    (wantedTarget (Text.strip name) (name :: rest)) (wantedGroup m (name :: rest))) w₂
  rw [hsame₂, hsame₁] at hafter
  refine ⟨_, ⟨w₃, ?_, hafter⟩, ⟨_, rfl, rfl, rfl, congrArg (· ++ _) hpins₁⟩, hgroups₁⟩
  rw [run_bind_ok hensure, run_bind_ok hfreshRun, run_bind_ok hadd]
  rfl

end Runs

/-- Where the stores work and the pins have distinct ids, a directive changes only what it is
about, whatever its arguments. A pin is moved where it stands, a pin is deleted if its deletion is
silent or accepted, and a pin is created at the end. A group is added for a move and for a creation
only, if it is wanted and not there. -/
theorem mutations_local {services : Services σ} {holdings : σ → Holdings}
    (hservices : services.Holds holdings)
    (hfresh : ∀ w, ∃ fresh w', services.fresh.run.run w = (.ok fresh, w')) (m : Occurrence)
    (context : Context) (reentry : Option (Reentry σ)) (w : σ)
    (hids : ((holdings w).pins.map (·.id)).Nodup) :
    (∀ ref group rest, m.arguments 2 = ref :: group :: rest → Text.isBlankText ref = false →
      Text.isBlankText group = false →
      ∃ h', ((movePin services).handler m context reentry).Ends holdings w (.ok Reply.nothing) h' ∧
        Moves (Text.strip ref) (Text.strip group) (holdings w) h') ∧
    Deletes (reference m) (Consents services m (services.pins.list.run.run w).2) (holdings w)
      (holdings (((deletePin services).handler m context reentry).run.run w).2) ∧
    (∀ name rest, m.arguments 3 = name :: rest → Text.isBlankText name = false →
      ∃ h', ((createPin services).handler m context reentry).Ends holdings w (.ok Reply.nothing) h' ∧
        Creates (Text.strip name) (wantedTarget (Text.strip name) (name :: rest))
          (wantedGroup m (name :: rest)) (holdings w) h') :=
  ⟨fun _ _ _ hargs href hgroup =>
      moves_movePin hservices hfresh m context reentry w hids hargs href hgroup,
    deletes_deletePin hservices m context reentry w hids,
    fun _ _ hargs hname => creates_createPin hservices hfresh m context reentry w hargs hname⟩

end Builtin

namespace Holdings

/-- Two pins, of which the second has the name of the first with a group after it. -/
def pair : Holdings := ⟨[Desktop.pin "p" "x", Desktop.pin "p: Home" "y"], [workGroup], []⟩

def homeward : Occurrence := .ofCall "movePin" ["p", " Home "] [("silent", "Yes")]

/-- One pin is moved into a new group, another is deleted without a question, and one is created. -/
theorem mutations_local_homeward :
    (services.Holds id ∧ (∀ h, ∃ fresh h', services.fresh.run.run h = (.ok fresh, h')) ∧
      (pair.pins.map (·.id)).Nodup ∧ homeward.arguments 2 = ["p", " Home "] ∧
      homeward.arguments 3 = ["p", " Home "] ∧ Text.isBlankText "p" = false ∧
      Text.isBlankText " Home " = false) ∧
    (∃ h', ((Builtin.movePin services).handler homeward bareContext none).Ends id pair
        (.ok Reply.nothing) h' ∧ Moves "p" "Home" pair h' ∧
      h'.pins.map (·.group) = ["Home", "None"] ∧ h'.groups.map (·.name) = ["Work", "Home"]) ∧
    (∃ h', (((Builtin.deletePin services).handler homeward bareContext none).run.run pair).2 = h' ∧
      Deletes "p: Home" (Builtin.Consents services homeward pair) pair h' ∧
      h'.pins = [Desktop.pin "p" "x"]) ∧
    ∃ h', ((Builtin.createPin services).handler homeward bareContext none).Ends id pair
        (.ok Reply.nothing) h' ∧ Creates "p" " Home " "None" pair h' ∧
      h'.pins.map (·.name) = ["p", "p: Home", "p"] := by
  have hfresh : ∀ h, ∃ fresh h', services.fresh.run.run h = (.ok fresh, h') :=
    fun h => ⟨_, h, rfl⟩
  have hids : (pair.pins.map (·.id)).Nodup := by decide
  have hmoving : homeward.arguments 2 = ["p", " Home "] := by decide +kernel
  have hcreating : homeward.arguments 3 = ["p", " Home "] := by decide +kernel
  have hp : Text.isBlankText "p" = false := by decide
  have hhome : Text.isBlankText " Home " = false := by decide
  obtain ⟨hmoves, hdeletes, hcreates⟩ := Builtin.mutations_local holds_services hfresh homeward
    bareContext none pair hids
  refine ⟨⟨holds_services, hfresh, hids, hmoving, hcreating, hp, hhome⟩, ?_, ?_, ?_⟩
  · obtain ⟨h', ⟨_, hrun, rfl⟩, hmoved⟩ := hmoves _ _ _ hmoving hp hhome
    have hend : (((Builtin.movePin services).handler homeward bareContext none).run.run
        pair).2.pins.map (·.group) = ["Home", "None"] ∧
        (((Builtin.movePin services).handler homeward bareContext none).run.run pair).2.groups.map
          (·.name) = ["Work", "Home"] := by
      decide +kernel
    rw [hrun] at hend
    exact ⟨_, ⟨_, hrun, rfl⟩, hmoved, hend⟩
  · refine ⟨_, rfl, hdeletes, ?_⟩
    decide +kernel
  · obtain ⟨h', ⟨_, hrun, rfl⟩, hcreated⟩ := hcreates _ _ hcreating hp
    have hend : (((Builtin.createPin services).handler homeward bareContext none).run.run
        pair).2.pins.map (·.name) = ["p", "p: Home", "p"] := by
      decide +kernel
    rw [hrun] at hend
    exact ⟨_, ⟨_, hrun, rfl⟩, hcreated, hend⟩

end Holdings

end Pinboard
