import Pinboard.Proofs.Builtin.Transitions
import Pinboard.Proofs.Launch.Ledger
import Pinboard.Proofs.Resolution.Settled

/-!
# Pins and their groups

A pin belongs to a group by the group's name. The built-in directives tell the stores of few changes:
a group is created under a text that names none, a pin is added or moved under a text that names a
group or is its id, a pin is removed, and a use is counted. So a pin that belongs to a group never
loses it, but one that is filed under an id belongs to none.
-/
namespace Pinboard

open Markup Time

variable {σ : Type}

/-- What a store is told: one group or one pin that it is to take, replace or give up. -/
inductive Change where
  | grouped (g : Group)
  | added (p : Pin)
  | updated (p : Pin)
  | removed (p : Pin)

/-- The pins and groups that are stored, and every change that the stores were told so far. -/
structure Holdings where
  pins : List Pin
  groups : List Group
  told : List Change

/-- The pin that is filed under its group, if the change files one. -/
def Change.filed? : Change → Option Pin
  | .added p => some p
  | .updated p => some p
  | _ => none

namespace Holdings

/-- No group, or the name of a stored one. -/
def Names (h : Holdings) (text : String) : Prop := text = noGroup ∨ ∃ g ∈ h.groups, g.name = text

/-- No group, or the name or id of a stored one. -/
def Refers (h : Holdings) (text : String) : Prop :=
  text = noGroup ∨ ∃ g ∈ h.groups, g.isNamed text = true

instance (h : Holdings) (text : String) : Decidable (h.Names text) :=
  inferInstanceAs (Decidable (text = noGroup ∨ ∃ g ∈ h.groups, g.name = text))

/-- Every pin is in no group or in one that is stored. -/
def Valid (h : Holdings) : Prop := ∀ p ∈ h.pins, h.Names p.group

instance (h : Holdings) : Decidable h.Valid :=
  inferInstanceAs (Decidable (∀ p ∈ h.pins, h.Names p.group))

def after (h : Holdings) (c : Change) : Holdings where
  pins := match c with
    | .grouped _ => h.pins
    | .added p => Memory.add [p] h.pins
    | .updated p => Memory.update [p] h.pins
    | .removed p => Memory.remove [p] h.pins
  groups := match c with
    | .grouped g => Memory.add [g] h.groups
    | _ => h.groups
  told := h.told ++ [c]

/-- A group is created under a text that refers to none yet, a pin is filed where the text refers to
a group, and all other changes are of stored pins. -/
def Allows (h : Holdings) : Change → Prop
  | .grouped g => ¬h.Refers g.name
  | .added p => h.Refers p.group
  | .updated p => ∃ q ∈ h.pins,
      h.Refers p.group ∧ p = { q with group := p.group } ∨ ∃ now average, p = q.usedAt now average
  | .removed p => p ∈ h.pins

def afterAll (h : Holdings) (changes : List Change) : Holdings := changes.foldl after h

/-- Every change is allowed after those before it. -/
def Admits (h : Holdings) : List Change → Prop
  | [] => True
  | c :: changes => h.Allows c ∧ (h.after c).Admits changes

/-- Every pin is in no group or in one that is stored after any number of the changes. -/
def ValidThroughout (h : Holdings) (changes : List Change) : Prop :=
  ∀ earlier later, changes = earlier ++ later → (h.afterAll earlier).Valid

/-- Every pin that is filed is in no group or in one that is stored at that moment. -/
def FilesByName (h : Holdings) (changes : List Change) : Prop :=
  ∀ earlier c later p, changes = earlier ++ c :: later → c.filed? = some p →
    (h.afterAll earlier).Names p.group

variable {h : Holdings} {c : Change} {changes more : List Change} {text : String}

lemma told_afterAll (h : Holdings) (changes : List Change) :
    (h.afterAll changes).told = h.told ++ changes := by
  induction changes generalizing h with
  | nil => exact (List.append_nil _).symm
  | cons c changes ih => exact (ih (h.after c)).trans (List.append_assoc ..)

lemma afterAll_append : h.afterAll (changes ++ more) = (h.afterAll changes).afterAll more :=
  List.foldl_append

lemma Admits.append (hfirst : h.Admits changes) (hthen : (h.afterAll changes).Admits more) :
    h.Admits (changes ++ more) := by
  induction changes generalizing h with
  | nil => exact hthen
  | cons c changes ih => exact ⟨hfirst.1, ih hfirst.2 hthen⟩

/-! ## One change -/

lemma Names.refers (hnames : h.Names text) : h.Refers text :=
  hnames.imp_right fun ⟨g, hg, hname⟩ => ⟨g, hg, by simp [Group.isNamed, hname]⟩

lemma groups_after (h : Holdings) (c : Change) : h.groups ⊆ (h.after c).groups := by
  cases c with
  | grouped g => exact List.subset_append_left _ _
  | _ => exact List.Subset.refl _

lemma Names.after (hnames : h.Names text) (c : Change) : (h.after c).Names text :=
  hnames.imp_right fun ⟨g, hg, hname⟩ => ⟨g, groups_after h c hg, hname⟩

lemma Refers.after (hrefers : h.Refers text) (c : Change) : (h.after c).Refers text :=
  hrefers.imp_right fun ⟨g, hg, hnamed⟩ => ⟨g, groups_after h c hg, hnamed⟩

/-- A pin after a change was stored before it, or is the one that is filed. -/
lemma mem_after {p : Pin} (hp : p ∈ (h.after c).pins) : p ∈ h.pins ∨ c.filed? = some p := by
  cases c with
  | grouped g => exact .inl hp
  | added q =>
    exact (List.mem_append.mp hp).imp_right fun hnew =>
      congrArg some (List.mem_singleton.mp hnew).symm
  | updated q => exact (Launch.mem_update hp).symm.imp_right fun hq => congrArg some hq.symm
  | removed q => exact .inl (Memory.mem_remove.mp hp).1

/-- The group of a filed pin is one that a stored pin has, or the pin refers to a group. -/
lemma Allows.filed {p : Pin} (hallowed : h.Allows c) (hfiled : c.filed? = some p) :
    (∃ q ∈ h.pins, q.group = p.group) ∨ h.Refers p.group := by
  cases c with
  | added q => exact .inr (Option.some.inj hfiled ▸ hallowed)
  | updated q =>
    obtain rfl := Option.some.inj hfiled
    obtain ⟨stored, hstored, ⟨hrefers, -⟩ | ⟨now, average, rfl⟩⟩ := hallowed
    · exact .inr hrefers
    · exact .inl ⟨stored, hstored, rfl⟩
  | _ => cases hfiled

/-- A filed pin is stored afterwards, and the groups are the same. -/
lemma Allows.mem_of_filed {p : Pin} (hallowed : h.Allows c) (hfiled : c.filed? = some p) :
    (h.after c).groups = h.groups ∧ p ∈ (h.after c).pins := by
  cases c with
  | added q =>
    obtain rfl := Option.some.inj hfiled
    exact ⟨rfl, List.mem_append_right _ List.mem_cons_self⟩
  | updated q =>
    obtain rfl := Option.some.inj hfiled
    obtain ⟨stored, hstored, hchange⟩ := hallowed
    have hid : stored.id = q.id := by
      rcases hchange with ⟨-, hmoved⟩ | ⟨now, average, rfl⟩
      · rw [hmoved]
      · rfl
    refine ⟨rfl, List.mem_map.mpr ⟨stored, hstored, ?_⟩⟩
    simp [Memory.latest?, Item.id, hid]
  | _ => cases hfiled

/-- A change keeps all groups valid exactly if it files under the name of a group what it files. -/
lemma Valid.after_iff (hvalid : h.Valid) (hallowed : h.Allows c) :
    (h.after c).Valid ↔ ∀ p, c.filed? = some p → h.Names p.group := by
  refine ⟨fun hafter p hfiled => ?_, fun hnames p hp => ?_⟩
  · obtain ⟨hgroups, hp⟩ := hallowed.mem_of_filed hfiled
    have hname := hafter p hp
    rwa [Names, hgroups] at hname
  · rcases mem_after hp with hold | hfiled
    · exact (hvalid p hold).after c
    · exact (hnames p hfiled).after c

/-! ## Many changes -/

lemma Admits.refers (hadmits : h.Admits changes) (hstart : ∀ p ∈ h.pins, h.Refers p.group) :
    ∀ p ∈ (h.afterAll changes).pins, (h.afterAll changes).Refers p.group := by
  induction changes generalizing h with
  | nil => exact hstart
  | cons c changes ih =>
    refine ih hadmits.2 fun p hp => ?_
    rcases mem_after hp with hold | hfiled
    · exact (hstart p hold).after c
    · rcases hadmits.1.filed hfiled with ⟨q, hq, hgroup⟩ | hrefers
      · exact hgroup ▸ (hstart q hq).after c
      · exact hrefers.after c

lemma validThroughout_nil : h.ValidThroughout [] ↔ h.Valid := by
  refine ⟨fun hall => hall [] [] rfl, fun hvalid earlier later heq => ?_⟩
  obtain ⟨rfl, rfl⟩ := List.append_eq_nil_iff.mp heq.symm
  exact hvalid

lemma validThroughout_cons :
    h.ValidThroughout (c :: changes) ↔ h.Valid ∧ (h.after c).ValidThroughout changes := by
  constructor
  · exact fun hall => ⟨hall [] _ rfl, fun earlier later heq =>
      hall (c :: earlier) later (congrArg (c :: ·) heq)⟩
  · rintro ⟨hvalid, hrest⟩ earlier later heq
    rcases List.cons_eq_append_iff.mp heq with ⟨rfl, -⟩ | ⟨before, rfl, htail⟩
    · exact hvalid
    · exact hrest before later htail

lemma filesByName_nil : h.FilesByName [] := fun earlier c later p heq => by simp at heq

lemma filesByName_cons : h.FilesByName (c :: changes) ↔
    (∀ p, c.filed? = some p → h.Names p.group) ∧ (h.after c).FilesByName changes := by
  constructor
  · exact fun hall => ⟨fun p => hall [] c changes p rfl, fun earlier c' later p heq =>
      hall (c :: earlier) c' later p (congrArg (c :: ·) heq)⟩
  · rintro ⟨hfirst, hrest⟩ earlier c' later p heq
    rcases List.cons_eq_append_iff.mp heq with ⟨rfl, hcons⟩ | ⟨before, rfl, htail⟩
    · obtain ⟨rfl, rfl⟩ := List.cons.inj hcons
      exact hfirst p
    · exact hrest before c' later p htail

/-- From valid holdings all that follow are valid exactly if every pin is filed under the name of a
group. -/
theorem Admits.validThroughout_iff (hadmits : h.Admits changes) (hvalid : h.Valid) :
    h.ValidThroughout changes ↔ h.FilesByName changes := by
  induction changes generalizing h with
  | nil => exact iff_of_true (validThroughout_nil.mpr hvalid) filesByName_nil
  | cons c changes ih =>
    rw [validThroughout_cons, filesByName_cons, ← hvalid.after_iff hadmits.1]
    constructor
    · rintro ⟨-, hrest⟩
      have hnext : (h.after c).Valid := hrest [] changes rfl
      exact ⟨hnext, (ih hadmits.2 hnext).mp hrest⟩
    · rintro ⟨hnext, hrest⟩
      exact ⟨hvalid, (ih hadmits.2 hnext).mpr hrest⟩

end Holdings

/-! ## What the directives do -/

/-- Stores that work for pins and groups, and what they were told. No other call of the built-in
directives reaches them. -/
structure Services.Holds (services : Services σ) (holdings : σ → Holdings) : Prop where
  listPins : ∀ w, (services.pins.list.run.run w).1 = .ok (holdings w).pins
  listGroups : ∀ w, (services.groups.list.run.run w).1 = .ok (holdings w).groups
  addPin : ∀ p w, ∃ added w', (services.pins.add [p]).run.run w = (.ok added, w') ∧
    holdings w' = (holdings w).after (.added p)
  updatePin : ∀ p w, ∃ w', (services.pins.update [p]).run.run w = (.ok (), w') ∧
    holdings w' = (holdings w).after (.updated p)
  removePin : ∀ p w, ∃ w', (services.pins.remove [p]).run.run w = (.ok (), w') ∧
    holdings w' = (holdings w).after (.removed p)
  addGroup : ∀ g w, ∃ added w', (services.groups.add [g]).run.run w = (.ok added, w') ∧
    holdings w' = (holdings w).after (.grouped g)
  others : ∀ ⦃α : Type⦄ ⦃x : Action σ α⦄, services.Calls x → x.Leaves holdings

namespace Action

variable {α β γ : Type}

/-- From what is seen at the start the action ends with a value and what is seen then, or in a fault
with what is seen after it. -/
def Leads (view : σ → γ) (P : γ → Prop) (x : Action σ α) (Q : α → γ → Prop) (E : γ → Prop) :
    Prop :=
  ∀ w, P (view w) → match x.run.run w with
    | (.ok a, w') => Q a (view w')
    | (.error _, w') => E (view w')

variable {view : σ → γ} {P : γ → Prop} {Q : α → γ → Prop} {E : γ → Prop}

lemma leads_pure {a : α} (h : ∀ seen, P seen → Q a seen) :
    Leads view P (pure a : Action σ α) Q E := fun w hw => h (view w) hw

lemma Leads.bind {x : Action σ α} {f : α → Action σ β} {S : β → γ → Prop}
    (hx : Leads view P x Q E) (hf : ∀ a, Leads view (Q a) (f a) S E) :
    Leads view P (x >>= f) S E := by
  intro w hw
  have hfirst := hx w hw
  cases hrun : x.run.run w with
  | mk result w₁ =>
  rw [hrun] at hfirst
  cases result with
  | ok a =>
    rw [run_bind_ok hrun]
    exact hf a w₁ hfirst
  | error fault =>
    rw [run_bind_error hrun]
    exact hfirst

lemma Leads.weaken {x : Action σ α} {P' : γ → Prop} (h : Leads view P x Q E)
    (hP : ∀ seen, P' seen → P seen) : Leads view P' x Q E := fun w hw => h w (hP _ hw)

/-- A reading of what is seen. -/
lemma Leaves.leads_value {x : Action σ α} {value : γ → α} (h : x.Leaves view)
    (hvalue : ∀ w, (x.run.run w).1 = .ok (value (view w))) :
    Leads view P x (fun a seen => P seen ∧ a = value seen) E := by
  intro w hw
  have hsame := h w
  have hread := hvalue w
  cases hrun : x.run.run w with
  | mk result w₁ =>
  rw [hrun] at hsame hread
  obtain rfl : result = .ok (value (view w)) := hread
  have hsame' : view w₁ = view w := hsame
  exact ⟨hsame' ▸ hw, by rw [hsame']⟩

lemma Leaves.leads {x : Action σ α} (h : x.Leaves view) (hE : ∀ seen, P seen → E seen) :
    Leads view P x (fun _ => P) E := by
  intro w hw
  have hsame := h w
  cases hrun : x.run.run w with
  | mk result w₁ =>
  rw [hrun] at hsame
  have hw₁ : P (view w₁) := hsame ▸ hw
  cases result with
  | ok a => exact hw₁
  | error fault => exact hE _ hw₁

end Action

/-- Changes that are allowed lead from the first holdings to the last. -/
def Holdings.Reaches (h h' : Holdings) : Prop :=
  ∃ changes, h.Admits changes ∧ h' = h.afterAll changes

lemma Holdings.Reaches.trans {h h' h'' : Holdings} (hfirst : h.Reaches h')
    (hthen : h'.Reaches h'') : h.Reaches h'' := by
  obtain ⟨changes, hchanges, rfl⟩ := hfirst
  obtain ⟨more, hmore, rfl⟩ := hthen
  exact ⟨changes ++ more, hchanges.append hmore, afterAll_append.symm⟩

lemma Holdings.Reaches.step {h₀ h : Holdings} {c : Change} (hreached : h₀.Reaches h)
    (hallowed : h.Allows c) : h₀.Reaches (h.after c) :=
  hreached.trans ⟨[c], ⟨hallowed, trivial⟩, rfl⟩

/-- What the second state holds is reached from what the first does. -/
def Changed (holdings : σ → Holdings) (w w' : σ) : Prop := (holdings w).Reaches (holdings w')

lemma Holdings.Reaches.refl (h : Holdings) : h.Reaches h := ⟨[], trivial, rfl⟩

instance (holdings : σ → Holdings) : Std.Refl (Changed holdings) := ⟨fun _ => .refl _⟩

instance (holdings : σ → Holdings) : IsTrans σ (Changed holdings) :=
  ⟨fun _ _ _ hfirst hthen => Holdings.Reaches.trans hfirst hthen⟩

namespace Builtin

open Action Holdings

/-- The group that is created under a name. -/
def newGroup (fresh : Fresh) (name : String) : Group :=
  if name == expiredGroup then Group.new fresh name "BellDisabled" .hidden
  else Group.new fresh name "None" .useParent

lemma name_newGroup (fresh : Fresh) (name : String) : (newGroup fresh name).name = name := by
  unfold newGroup
  split <;> rfl

lemma ensureGroup_eq (services : Services σ) (name : String) : ensureGroup services name =
    if name == noGroup then pure ()
    else findGroup services name >>= fun
      | some _ => pure ()
      | none => services.fresh >>= fun fresh =>
        services.groups.add [newGroup fresh name] >>= fun _ => pure () :=
  rfl

section Changes

variable {α : Type} {services : Services σ} {holdings : σ → Holdings} {P Q E : Holdings → Prop}
  {h₀ : Holdings}

lemma keepsTo_of_leads {x : Action σ α}
    (h : ∀ h₀, x.Leads holdings (· = h₀) (fun _ => h₀.Reaches) h₀.Reaches) :
    x.KeepsTo (Changed holdings) := by
  intro w
  have hend := h (holdings w) w rfl
  cases hrun : x.run.run w with
  | mk result w₁ =>
  rw [hrun] at hend
  cases result <;> exact hend

/-- A call that never fails and makes one change. -/
lemma leads_change {x : Action σ α} {c : Change}
    (hx : ∀ w, ∃ a w', x.run.run w = (.ok a, w') ∧ holdings w' = (holdings w).after c)
    (hchange : ∀ h, P h → Q (h.after c)) : x.Leads holdings P (fun _ => Q) E := by
  intro w hw
  obtain ⟨a, w', hrun, hafter⟩ := hx w
  have hQ : Q (holdings w') := hafter ▸ hchange _ hw
  rwa [hrun]

variable (hservices : services.Holds holdings)
include hservices

lemma leaves_fresh : services.fresh.Leaves holdings :=
  .bind (hservices.others .freshNumber) fun _ => .bind (hservices.others .now) fun _ =>
    leaves_pure _

lemma leads_findPin (ref : String) : (findPin services ref).Leads holdings P
    (fun found h => P h ∧ ∀ p ∈ found, p ∈ h.pins) E :=
  .bind ((hservices.others .listPins).leads_value hservices.listPins) fun _ =>
    leads_pure fun _ ⟨hP, hlisted⟩ => ⟨hP, fun _ hp => hlisted ▸ List.mem_of_find?_eq_some hp⟩

lemma leads_findGroup (ref : String) : (findGroup services ref).Leads holdings P
    (fun found h => P h ∧ found = h.groups.find? (·.isNamed ref)) E :=
  .bind ((hservices.others .listGroups).leads_value hservices.listGroups) fun _ =>
    leads_pure fun _ ⟨hP, hlisted⟩ => ⟨hP, by rw [hlisted]⟩

/-- A text refers to a group once the group is ensured, and the pins stay. -/
lemma leads_ensureGroup (kept : List Pin) (name : String) : (ensureGroup services name).Leads
    holdings (fun h => h₀.Reaches h ∧ kept ⊆ h.pins)
      (fun _ h => (h₀.Reaches h ∧ kept ⊆ h.pins) ∧ h.Refers name) h₀.Reaches := by
  rw [ensureGroup_eq]
  split
  · rename_i hnone
    exact leads_pure fun h hh => ⟨hh, .inl (by simpa using hnone)⟩
  · rename_i hsome
    refine .bind (leads_findGroup hservices name) fun found => ?_
    cases found with
    | some g =>
      refine leads_pure fun h ⟨hh, hfound⟩ => ⟨hh, .inr ⟨g, ?_, ?_⟩⟩
      · exact List.mem_of_find?_eq_some hfound.symm
      · exact List.find?_some (p := fun g : Group => g.isNamed name) hfound.symm
    | none =>
      refine .bind ((leaves_fresh hservices).leads fun h hh => hh.1.1) fun fresh => ?_
      refine .bind (leads_change (c := .grouped (newGroup fresh name)) (hservices.addGroup _)
        (Q := fun h => (h₀.Reaches h ∧ kept ⊆ h.pins) ∧ h.Refers name) ?_) fun _ =>
          leads_pure fun h hh => hh
      rintro h ⟨⟨hreached, hkept⟩, hfound⟩
      have hnew : ¬h.Refers (newGroup fresh name).name := by
        rw [name_newGroup]
        rintro (hname | ⟨other, hother, hisNamed⟩)
        · exact hsome (by simpa using hname)
        · exact List.find?_eq_none.mp hfound.symm other hother hisNamed
      refine ⟨⟨hreached.step hnew, hkept⟩, .inr ⟨newGroup fresh name, ?_, ?_⟩⟩
      · exact List.mem_append_right _ List.mem_cons_self
      · simp [Group.isNamed, name_newGroup]

lemma keepsTo_createPin (m : Occurrence) (context : Context) (reentry : Option (Reentry σ)) :
    ((createPin services).handler m context reentry).KeepsTo (Changed holdings) := by
  refine keepsTo_of_leads fun h₀ => ?_
  have hstart := Reaches.refl h₀
  simp only [createPin, directive]
  split
  · exact leads_pure fun _ hh => hh ▸ hstart
  · refine .bind (Leads.weaken (leads_ensureGroup hservices [] _) ?_) fun _ => ?_
    · exact fun _ hh => ⟨hh ▸ hstart, List.nil_subset _⟩
    refine .bind ((leaves_fresh hservices).leads fun h hh => hh.1.1) fun fresh => ?_
    refine .bind (leads_change (c := .added _) (hservices.addPin _) (Q := h₀.Reaches) ?_) fun _ =>
      leads_pure fun _ hh => hh
    rintro h ⟨⟨hreached, -⟩, hrefers⟩
    exact hreached.step hrefers

lemma leaves_mayDelete (m : Occurrence) (p : Pin) :
    (mayDelete services m p).Leaves holdings := by
  unfold mayDelete
  split
  · exact leaves_pure _
  · exact .demand_bind fun n hn => hservices.others (.confirm hn _ _)

lemma keepsTo_deletePin (m : Occurrence) (context : Context) (reentry : Option (Reentry σ)) :
    ((deletePin services).handler m context reentry).KeepsTo (Changed holdings) := by
  refine keepsTo_of_leads fun h₀ => ?_
  have hstart := Reaches.refl h₀
  simp only [deletePin, directive]
  split <;> refine .bind (Q := fun found h => h = h₀ ∧ ∀ p ∈ found, p ∈ h.pins) ?_ fun found => ?_
  · exact leads_pure fun _ hh => ⟨hh, by simp⟩
  rotate_left
  · exact leads_findPin hservices _
  all_goals
    cases found with
    | none => exact leads_pure fun _ hh => hh.1 ▸ hstart
    | some p =>
      refine .bind ((leaves_mayDelete hservices m p).leads fun _ hh => hh.1 ▸ hstart)
        fun allowed => ?_
      split
      · refine .bind (leads_change (c := .removed p) (fun w => ⟨(), hservices.removePin _ w⟩)
          (Q := h₀.Reaches) ?_) fun _ => leads_pure fun _ hh => hh
        rintro h ⟨rfl, hstored⟩
        exact hstart.step (hstored p rfl)
      · exact leads_pure fun _ hh => hh.1 ▸ hstart

lemma keepsTo_movePin (m : Occurrence) (context : Context) (reentry : Option (Reentry σ)) :
    ((movePin services).handler m context reentry).KeepsTo (Changed holdings) := by
  refine keepsTo_of_leads fun h₀ => ?_
  have hstart := Reaches.refl h₀
  simp only [movePin, directive]
  split
  · rename_i ref group _ _
    split
    · refine .bind (leads_findPin hservices _) fun found => ?_
      cases found with
      | none => exact leads_pure fun _ hh => hh.1 ▸ hstart
      | some p =>
        refine .bind (Leads.weaken (leads_ensureGroup hservices [p] _) ?_) fun _ => ?_
        · rintro h ⟨rfl, hstored⟩
          exact ⟨hstart, by simpa using hstored p rfl⟩
        refine .bind (leads_change (c := .updated { p with group := Text.strip group })
          (fun w => ⟨(), hservices.updatePin _ w⟩) (Q := h₀.Reaches) ?_) fun _ =>
            leads_pure fun _ hh => hh
        rintro h ⟨⟨hreached, hkept⟩, hrefers⟩
        exact hreached.step ⟨p, hkept List.mem_cons_self, .inl ⟨hrefers, rfl⟩⟩
    · exact leads_pure fun _ hh => hh ▸ hstart
  · exact leads_pure fun _ hh => hh ▸ hstart

lemma keepsTo_recordUse (p : Pin) (elapsed : Nat) :
    (Launch.recordUse services p elapsed).KeepsTo (Changed holdings) := by
  refine keepsTo_of_leads fun h₀ => ?_
  have hstart := Reaches.refl h₀
  unfold Launch.recordUse
  refine .bind ((hservices.others .listPins).leads_value hservices.listPins) fun pins => ?_
  split
  · exact leads_pure fun _ hh => hh.1 ▸ hstart
  · rename_i stored hstored
    split
    · exact fun w hw => hw.1 ▸ hstart
    · rename_i average haverage
      refine .bind ((hservices.others .now).leads fun h hh => hh.1 ▸ hstart) fun now => ?_
      have hchange := leads_change (P := fun h => h = h₀ ∧ pins = h.pins) (Q := h₀.Reaches)
        (E := h₀.Reaches) (c := .updated (stored.usedAt now average))
        (fun w => ⟨(), hservices.updatePin _ w⟩)
      refine hchange ?_
      rintro h ⟨rfl, rfl⟩
      exact hstart.step ⟨stored, List.mem_of_find?_eq_some hstored, .inr ⟨now, average, rfl⟩⟩

lemma changesKeepTo : ChangesKeepTo (Changed holdings) services where
  createPin := keepsTo_createPin hservices
  deletePin := keepsTo_deletePin hservices
  movePin := keepsTo_movePin hservices
  recordUse := keepsTo_recordUse hservices

lemma keepsTo_changed_services : services.KeepsTo (Changed holdings) := fun _ _ hcall =>
  (hservices.others hcall).keepsTo fun w w' hsame => by
    rw [Changed, hsame]
    exact .refl _

end Changes

/-- One use of the directives: a text is resolved, a directive is called, or a pin is opened. -/
inductive Use where
  | resolution (text : String) (context : Context)
  | call (name : String) (m : Occurrence) (context : Context)
  | opening (p : Pin) (environment : Option Environment) (extras : Fields Json) (depth : Nat)

/-- Use the directives of a resolver, whatever comes of it. -/
def Use.run (services : Services σ) (r : Resolver σ) : Use → StateM σ Unit
  | .resolution text context => do let _ ← r.resolve text context
  | .call name m context =>
    match r.registry.get? name with
    | some d => do let _ ← Resolver.invokeOn (some r.outermost) d m context
    | none => pure ()
  | .opening p environment extras depth => do
    let _ ← Action.outcome
      (Launch.openPin services r.outermost.resolve p environment extras depth)

/-- Uses one after the other. -/
def runAll (services : Services σ) (r : Resolver σ) : List Use → StateM σ Unit
  | [] => pure ()
  | use :: uses => do
    use.run services r
    runAll services r uses

section Uses

variable {services : Services σ} {R : σ → σ → Prop} [Std.Refl R] [IsTrans σ R]
  (h : services.KeepsTo R) (hchanges : ChangesKeepTo R services) {r : Resolver σ}
  (hr : r.registry.directives ⊆ directives services)
include h hchanges hr

lemma keepsTo_use (use : Use) : Pinboard.KeepsTo R (use.run services r) := by
  have hdirectives : ∀ re : Reentry σ, re.KeepsTo R →
      ∀ d ∈ r.registry.directives, d.KeepsTo R (some re) :=
    fun re hre d hd => keepsTo_of_mem h hchanges hre (hr hd)
  have hway : r.outermost.KeepsTo R := Resolver.keepsTo_reentry hdirectives _
  cases use with
  | resolution text context =>
    exact .bind (Resolver.keepsTo_resolveIn (hdirectives _ hway) text context) fun _ =>
      Pinboard.keepsTo_pure _
  | call name m context =>
    rw [Use.run]
    split
    · rename_i d hd
      have hcalled := hdirectives _ hway d (List.mem_of_find?_eq_some hd)
      exact .bind (Resolver.keepsTo_invokeOn hcalled m context) fun _ => Pinboard.keepsTo_pure _
    · exact Pinboard.keepsTo_pure _
  | opening p environment extras depth =>
    exact .bind (Launch.keepsTo_openPin h hway.resolve hchanges.recordUse p environment extras depth)
      fun _ => Pinboard.keepsTo_pure _

lemma keepsTo_runAll (uses : List Use) : Pinboard.KeepsTo R (runAll services r uses) := by
  induction uses with
  | nil => exact Pinboard.keepsTo_pure _
  | cons use uses ih => exact .bind (keepsTo_use h hchanges hr use) fun _ => ih

end Uses

/-- Whatever is done with built-in directives, the stores are told of changes that are allowed. If
every pin is in no group or a stored one at the start, then each stays in none, in one, or under the
id of one; and all are in none or one throughout exactly if every pin that a store is told to take or
replace is in none or in one at that moment. -/
theorem groups_kept {services : Services σ} {holdings : σ → Holdings}
    (hservices : services.Holds holdings) {r : Resolver σ}
    (hr : r.registry.directives ⊆ directives services) (uses : List Use) (w : σ) :
    ∃ changes, (holdings ((runAll services r uses).run w).2).told = (holdings w).told ++ changes ∧
      holdings ((runAll services r uses).run w).2 = (holdings w).afterAll changes ∧
      (holdings w).Admits changes ∧
      ((holdings w).Valid →
        (∀ p ∈ ((holdings w).afterAll changes).pins,
          ((holdings w).afterAll changes).Refers p.group) ∧
        ((holdings w).ValidThroughout changes ↔ (holdings w).FilesByName changes)) := by
  obtain ⟨changes, hadmits, hend⟩ : Changed holdings w ((runAll services r uses).run w).2 :=
    keepsTo_runAll (keepsTo_changed_services hservices) (changesKeepTo hservices) hr uses w
  refine ⟨changes, hend ▸ told_afterAll _ _, hend, hadmits, fun hvalid => ?_⟩
  exact ⟨hadmits.refers fun p hp => (hvalid p hp).refers, hadmits.validThroughout_iff hvalid⟩

end Builtin

/-! ## Stores in memory -/

namespace Holdings

def groupShelf : Memory.Shelf Holdings (List Group) where
  value := Holdings.groups
  put := fun groups h => { h with groups := groups }

def pinShelf : Memory.Shelf Holdings (List Pin) where
  value := Holdings.pins
  put := fun pins h => { h with pins := pins }

/-- A store in memory that also keeps what it is told. -/
def journaled {α : Type} [Item α] (shelf : Memory.Shelf Holdings (List α))
    (added updated removed : α → List Change) : CollectionStore Holdings α where
  list := (Memory.collection shelf).list
  add := fun items => do
    modify fun h => { h with told := h.told ++ items.flatMap added }
    (Memory.collection shelf).add items
  update := fun items => do
    modify fun h => { h with told := h.told ++ items.flatMap updated }
    (Memory.collection shelf).update items
  remove := fun items => do
    modify fun h => { h with told := h.told ++ items.flatMap removed }
    (Memory.collection shelf).remove items

/-- Stores for pins and groups, with nothing else that could be called. -/
def services : Services Holdings where
  pins := journaled pinShelf ([.added ·]) ([.updated ·]) ([.removed ·])
  groups := journaled groupShelf ([.grouped ·]) (fun _ => []) (fun _ => [])
  tags :=
    { list := pure []
      add := fun _ => pure []
      update := fun _ => pure ()
      remove := fun _ => pure () }
  storage :=
    { get? := fun _ => pure none
      set := fun _ _ => pure ()
      erase := fun _ => pure () }
  platform := none
  notifier := none
  completion := none
  host :=
    { user := ""
      home := "/home"
      name := ""
      zone := "UTC"
      now := pure Journal.nine
      freshNumber := pure 0
      stopwatch := pure 0
      pathExists := fun _ => pure true
      sample := fun _ _ => pure [] }
  settings := Settings.default

lemma holds_services : services.Holds id where
  listPins _ := rfl
  listGroups _ := rfl
  addPin p _ := ⟨[p], _, rfl, rfl⟩
  updatePin _ _ := ⟨_, rfl, rfl⟩
  removePin _ _ := ⟨_, rfl, rfl⟩
  addGroup g _ := ⟨[g], _, rfl, rfl⟩
  others α x hcall := by
    cases hcall with
    | clipboard h | selectedText h | application h | directory h | files h | tab h | track h
    | setClipboard h | paste h | runShell h | openTarget h | speak h | runInBrowser h
    | showMessage h | showAlert h | showToast h | prompt h | confirm h | complete h => cases h
    | _ => exact fun _ => rfl

def workGroup : Group := Group.new ⟨"g1", Journal.nine⟩ "Work" "Minus" .useParent

def looseAndWork : Holdings := ⟨[Desktop.pin "p" "x"], [workGroup], []⟩

def builtIn : Resolver Holdings := ⟨Builtin.registry services, none⟩

/-- What is stored after a text was resolved with all built-in directives. -/
def resolving (text : String) (h : Holdings) : Holdings :=
  ((Builtin.runAll services builtIn [.resolution text bareContext]).run h).2

/-- A pin is created in a new group, and another is moved to a stored one. -/
def createAndMove : String :=
  "\x7b\x7bcreatePin:q:t:Home\x7d\x7d\x7b\x7bmovePin:p:Work\x7d\x7d"

/-- Both pins are in groups that are stored, since each is filed under the name of one. -/
theorem groups_kept_createAndMove :
    services.Holds id ∧ builtIn.registry.directives ⊆ Builtin.directives services ∧
    looseAndWork.Valid ∧ (resolving createAndMove looseAndWork).Valid ∧
    (resolving createAndMove looseAndWork).pins.map (·.group) = ["Work", "Home"] ∧
    ∃ changes, resolving createAndMove looseAndWork = looseAndWork.afterAll changes ∧
      looseAndWork.Admits changes ∧
      (looseAndWork.ValidThroughout changes ↔ looseAndWork.FilesByName changes) := by
  obtain ⟨changes, -, hchanged, hadmits, hkept⟩ := Builtin.groups_kept holds_services
    (List.Subset.refl builtIn.registry.directives) [.resolution createAndMove bareContext]
    looseAndWork
  have hvalid : looseAndWork.Valid := by decide
  have hend : (resolving createAndMove looseAndWork).Valid ∧
      (resolving createAndMove looseAndWork).pins.map (·.group) = ["Work", "Home"] := by
    decide +kernel
  exact ⟨holds_services, List.Subset.refl _, hvalid, hend.1, hend.2, changes, hchanged,
    hadmits, (hkept hvalid).2⟩

/-- A pin that is moved under the id of a group is in a group that is not stored. -/
theorem movePin_under_id : looseAndWork.Valid ∧
    ¬(resolving "\x7b\x7bmovePin:p:g1\x7d\x7d" looseAndWork).Valid := by
  decide +kernel

end Holdings

end Pinboard
