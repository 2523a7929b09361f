import Pinboard.Proofs.Launch.Ledger
import Pinboard.Proofs.Launch.Plan
import Pinboard.Proofs.Resolution.Reentry

/-!
# Launch trees

To open a pin whose target launches others is to open these first, one level deeper, and whatever
they launch before them. Past the limit nothing is opened. So the openings are the launch paths from
the pin that the limit leaves room for, in post-order, though the pins may launch each other in
circles.
-/
namespace Pinboard

open Markup Action

variable {σ : Type}

/-- A pin with the ones through which it was launched, the first of them first. -/
structure Route where
  ancestors : List Pin
  pin : Pin
  deriving DecidableEq

namespace Route

/-- All pins of a route, from the first to the last. -/
def pins (r : Route) : List Pin := r.ancestors ++ [r.pin]

def within (p : Pin) (r : Route) : Route := { r with ancestors := p :: r.ancestors }

@[simp] lemma pin_within (p : Pin) (r : Route) : (r.within p).pin = r.pin := rfl

@[simp] lemma pins_within (p : Pin) (r : Route) : (r.within p).pins = p :: r.pins := rfl

end Route

/-- The first of some pins that a text refers to; without characters it refers to none. -/
def Pin.named? (stored : List Pin) (ref : String) : Option Pin :=
  if (Text.strip ref).isEmpty then none else stored.find? (·.isNamed (Text.strip ref))

lemma Pin.named?_unused (stored : List Pin) (ref : String) :
    named? (stored.map unused) ref = (named? stored ref).map unused := by
  unfold named?
  split
  · rfl
  · rw [List.find?_map]; rfl

/-- A pin whose target is a plan with so many calls at most. -/
structure Pin.Planned (plans : String → Plan) (limit : Nat) (p : Pin) : Prop where
  target : p.fragment = false
  written : p.target = (plans p.target).source
  few : (plans p.target).refs.length ≤ limit

namespace Launch

section Routes

variable (plans : String → Plan) (stored : List Pin)

/-- The pins that a pin launches. -/
def launched (p : Pin) : List Pin := (plans p.target).refs.filterMap (Pin.named? stored)

/-- The launch paths from a pin with at most so many pins, each after those that go on from it. -/
def routes : Nat → Pin → List Route
  | 0, _ => []
  | room + 1, p =>
    (launched plans stored p).flatMap (fun q => (routes room q).map (Route.within p)) ++ [⟨[], p⟩]

variable {plans stored} {room : Nat} {p : Pin} {r : Route}

/-- They are the paths along launches, without a repeat being excluded. -/
theorem mem_routes : r ∈ routes plans stored room p ↔
    r.pins.length ≤ room ∧ r.pins.head? = some p ∧
      r.pins.IsChain fun p q => q ∈ launched plans stored p := by
  induction room generalizing p r with
  | zero => simp [routes, Route.pins]
  | succ room ih =>
    rw [routes, List.mem_append, List.mem_flatMap, List.mem_singleton]
    constructor
    · rintro (⟨q, hq, hr⟩ | rfl)
      · obtain ⟨r, hrest, rfl⟩ := List.mem_map.mp hr
        obtain ⟨hlength, hhead, hchain⟩ := ih.mp hrest
        refine ⟨by simpa using hlength, rfl, ?_⟩
        rw [Route.pins_within, List.isChain_cons]
        refine ⟨fun q' hq' => ?_, hchain⟩
        rw [hhead] at hq'
        obtain rfl := Option.some.inj hq'
        exact hq
      · simp [Route.pins]
    · rintro ⟨hlength, hhead, hchain⟩
      obtain ⟨ancestors, pin⟩ := r
      cases ancestors with
      | nil =>
        obtain rfl : pin = p := by simpa [Route.pins] using hhead
        exact .inr rfl
      | cons first ancestors =>
        obtain rfl : first = p := by simpa [Route.pins] using hhead
        let rest : Route := ⟨ancestors, pin⟩
        have hpins : Route.pins ⟨first :: ancestors, pin⟩ = first :: rest.pins := rfl
        rw [hpins, List.isChain_cons] at hchain
        rw [hpins, List.length_cons] at hlength
        obtain ⟨q, hq⟩ : ∃ q, rest.pins.head? = some q := by
          cases ancestors with
          | nil => exact ⟨pin, rfl⟩
          | cons q _ => exact ⟨q, rfl⟩
        refine .inl ⟨q, hchain.1 q hq, List.mem_map.mpr ⟨rest, ih.mpr ⟨?_, hq, hchain.2⟩, rfl⟩⟩
        omega

end Routes

/-! ## Openings -/

/-- An opening of the pin at the end of a launch path, with what it handed over. -/
structure Opening where
  route : Route
  handed : Option Handing

namespace Opening

def within (p : Pin) (o : Opening) : Opening := { o with route := o.route.within p }

/-- What is stored as the id of the last pin after an opening, if it was `last` before. -/
def lastPin (last : Option Json) (o : Opening) : Option Json :=
  if o.handed.isSome then some (.str o.route.pin.id) else last

end Opening

/-- Openings along some launch paths account for all that is seen from one moment to another, if
targets are resolved so. -/
structure Accounts (resolved : String → String) (along : List Route) (opens : List Opening)
    (before after : Ledger) : Prop where
  routes_eq : opens.map (·.route) = along
  delivers : ∀ o ∈ opens, Delivers o.route.pin (resolved o.route.pin.target) o.handed
  handed : after.handed = before.handed ++ opens.filterMap (·.handed)
  lastPin : after.lastPin = opens.foldl Opening.lastPin before.lastPin
  tallies : after.pins.map Pin.tally =
    before.pins.map (Pin.tallyAfter (along.map (·.pin.id)))
  counted : (∀ q ∈ before.pins, q.Counted) → ∀ q ∈ after.pins, q.Counted

section Accounts

variable {resolved : String → String} {along along' : List Route} {opens opens' : List Opening}
  {L L₁ L' : Ledger}

lemma Accounts.nil (resolved : String → String) (L : Ledger) : Accounts resolved [] [] L L where
  routes_eq := rfl
  delivers := by simp
  handed := (List.append_nil _).symm
  lastPin := rfl
  tallies := List.map_congr_left fun q _ => by simp [Pin.tally, Pin.tallyAfter]
  counted h := h

lemma Accounts.append (h : Accounts resolved along opens L L₁)
    (h' : Accounts resolved along' opens' L₁ L') :
    Accounts resolved (along ++ along') (opens ++ opens') L L' where
  routes_eq := by rw [List.map_append, h.routes_eq, h'.routes_eq]
  delivers o ho := (List.mem_append.mp ho).elim (h.delivers o) (h'.delivers o)
  handed := by rw [h'.handed, h.handed, List.filterMap_append, List.append_assoc]
  lastPin := by rw [h'.lastPin, h.lastPin, List.foldl_append]
  tallies := by
    have hadd : ∀ ids : List String, Pin.tallyAfter ids =
        (fun u : Pin × Int => (u.1, u.2 + ids.count u.1.id)) ∘ Pin.tally := fun ids => rfl
    rw [h'.tallies, hadd, ← List.map_map, h.tallies, List.map_map]
    refine List.map_congr_left fun q _ => ?_
    simp [Pin.tallyAfter, Pin.unused, Int.add_assoc]
  counted hcounted := h'.counted (h.counted hcounted)

lemma Accounts.within (h : Accounts resolved along opens L L') (p : Pin) :
    Accounts resolved (along.map (Route.within p)) (opens.map (Opening.within p)) L L' where
  routes_eq := by
    rw [← h.routes_eq, List.map_map, List.map_map]
    rfl
  delivers o ho := by
    obtain ⟨o, hmem, rfl⟩ := List.mem_map.mp ho
    exact h.delivers o hmem
  handed := by
    rw [h.handed, List.filterMap_map]
    rfl
  lastPin := by
    rw [h.lastPin, List.foldl_map]
    rfl
  tallies := by
    rw [h.tallies, List.map_map]
    rfl
  counted := h.counted

lemma Accounts.unused_eq (h : Accounts resolved along opens L L') :
    L'.pins.map Pin.unused = L.pins.map Pin.unused := by
  have htallies := congrArg (List.map Prod.fst) h.tallies
  rwa [List.map_map, List.map_map] at htallies

/-- If no target is empty and none a path, every opening hands its target over. -/
lemma Accounts.handed_eq (h : Accounts resolved along opens L L')
    (hall : ∀ r ∈ along, (resolved r.pin.target).isEmpty = false ∧ isPath r.pin.target = false) :
    L'.handed = L.handed ++ along.map fun r => handing r.pin (resolved r.pin.target) := by
  have hhanded : ∀ o ∈ opens, o.handed =
      some (handing o.route.pin (resolved o.route.pin.target)) := by
    intro o ho
    obtain ⟨htarget, hpath⟩ := hall o.route (h.routes_eq ▸ List.mem_map_of_mem ho)
    exact (h.delivers o ho).eq_some htarget hpath
  rw [h.handed, ← h.routes_eq, List.map_map, ← List.filterMap_eq_map]
  congr 1
  exact List.filterMap_congr hhanded

end Accounts

/-- Pins with different ids that launch each other. -/
structure Stocked (plans : String → Plan) (limit : Nat) (pins : List Pin) : Prop where
  ids : (pins.map (·.id)).Nodup
  planned : ∀ q ∈ pins, q.Planned plans limit
  counted : ∀ q ∈ pins, q.Counted

/-- Openings leave pins that can be opened. -/
lemma Stocked.after {plans : String → Plan} {limit : Nat} {resolved : String → String}
    {along : List Route} {opens : List Opening} {L L' : Ledger} (h : Stocked plans limit L.pins)
    (hopens : Accounts resolved along opens L L') : Stocked plans limit L'.pins where
  ids := by
    have hids := congrArg (List.map Pin.id) hopens.unused_eq
    simp only [List.map_map] at hids
    exact (show L'.pins.map (·.id) = L.pins.map (·.id) from hids) ▸ h.ids
  planned q hq := by
    have hmem : q.unused ∈ L.pins.map Pin.unused := hopens.unused_eq ▸ List.mem_map_of_mem hq
    obtain ⟨q', hq', hsame⟩ := List.mem_map.mp hmem
    have hplanned := h.planned q' hq'
    have htarget : q'.unused.target = q.unused.target := congrArg Pin.target hsame
    have hfragment : q'.unused.fragment = q.unused.fragment := congrArg Pin.fragment hsame
    simp only [Pin.unused] at htarget hfragment
    exact ⟨hfragment ▸ hplanned.target, htarget ▸ hplanned.written, htarget ▸ hplanned.few⟩
  counted := hopens.counted h.counted

lemma run_findPin {services : Services σ} {ref : String} {w w' : σ} {held : List Pin}
    (hlist : services.pins.list.run.run w = (.ok held, w')) :
    (Builtin.findPin services ref).run.run w = (.ok (held.find? (·.isNamed ref)), w') := by
  rw [Builtin.findPin, run_bind_ok hlist]
  rfl

section Runs

variable {services : Services σ} {ledger : σ → Ledger} (hworks : services.Works ledger)
include hworks

lemma run_launchPin_unnamed {m : Occurrence} {w : σ}
    (hnone : Pin.named? (ledger w).pins m.bodyText = none) (context : Context)
    (reentry : Option (Reentry σ)) :
    ∃ w', ((Builtin.launchPin services).run m context reentry).run w = (Reply.nothing, w') ∧
      ledger w' = ledger w := by
  rw [Builtin.run_launchPin]
  simp only [Builtin.launchPin, Builtin.directive]
  change (if (Builtin.reference m).isEmpty then none else
    (ledger w).pins.find? (·.isNamed (Builtin.reference m))) = none at hnone
  split at hnone
  · rename_i hempty
    rw [if_pos hempty]
    exact ⟨w, rfl, rfl⟩
  · rename_i hempty
    obtain ⟨w', hlist, hsame⟩ := hworks.list w
    rw [if_neg hempty, run_bind_ok (run_findPin hlist), hnone]
    exact ⟨w', rfl, hsame⟩

/-- What a call does that refers to a pin is to open this pin one level deeper, faulting or not. -/
lemma run_launchPin_named {m : Occurrence} {w : σ} {p : Pin}
    (hsome : Pin.named? (ledger w).pins m.bodyText = some p) (context : Context)
    (reentry : Reentry σ) :
    ∃ w', ledger w' = ledger w ∧
      ((Builtin.launchPin services).run m context (some reentry)).run w = (Reply.nothing,
        ((openPin services reentry.resolve p none [] (context.depth + 1)).run.run w').2) := by
  rw [Builtin.run_launchPin]
  simp only [Builtin.launchPin, Builtin.directive]
  change (if (Builtin.reference m).isEmpty then none else
    (ledger w).pins.find? (·.isNamed (Builtin.reference m))) = some p at hsome
  split at hsome
  · cases hsome
  · rename_i hempty
    obtain ⟨w', hlist, hsame⟩ := hworks.list w
    rw [if_neg hempty, run_bind_ok (run_findPin hlist), hsome]
    refine ⟨w', hsame, ?_⟩
    dsimp only
    rw [run_bind_pure, Builtin.openNested, run_bind_pure]

/-- The calls of a target account for the launch paths from the pins that they launch, if the
openings of these do. -/
lemma exists_below {plans : String → Plan} {limit : Nat} {resolved : String → String}
    {stored : List Pin} {room : Nat} {context : Context} {reentry : Reentry σ}
    (hopen : ∀ q w, (ledger w).pins.map Pin.unused = stored → Stocked plans limit (ledger w).pins →
      q ∈ (ledger w).pins → ∃ opens, Accounts resolved (routes plans stored room q.unused) opens
        (ledger w) (ledger ((openPin services reentry.resolve q none []
          (context.depth + 1)).run.run w).2))
    {refs : List String} {w w' : σ}
    (hruns : (Builtin.launchPin services).RunsFor (some reentry) context refs w w')
    (hstored : (ledger w).pins.map Pin.unused = stored)
    (hstocked : Stocked plans limit (ledger w).pins) :
    ∃ opens, Accounts resolved
      ((refs.filterMap (Pin.named? stored)).flatMap (routes plans stored room)) opens
        (ledger w) (ledger w') := by
  induction hruns with
  | nil => exact ⟨[], .nil resolved _⟩
  | @cons m refs w w₁ w' hrun _ ih =>
    rw [List.filterMap_cons, ← hstored, Pin.named?_unused, hstored]
    cases hnamed : Pin.named? (ledger w).pins m.bodyText with
    | none =>
      obtain ⟨w₂, hrun', hsame⟩ := run_launchPin_unnamed hworks hnamed context (some reentry)
      obtain ⟨-, rfl⟩ := Prod.mk.inj (hrun.symm.trans hrun')
      rw [← hsame] at hstored hstocked ⊢
      exact ih hstored hstocked
    | some q =>
      have hmem : q ∈ (ledger w).pins := by
        unfold Pin.named? at hnamed
        split at hnamed
        · cases hnamed
        · exact List.mem_of_find?_eq_some hnamed
      obtain ⟨w₂, hsame, hrun'⟩ := run_launchPin_named hworks hnamed context reentry
      obtain ⟨-, rfl⟩ := Prod.mk.inj (hrun.symm.trans hrun')
      rw [← hsame] at hstored hstocked hmem ⊢
      obtain ⟨opens, hopens⟩ := hopen q w₂ hstored hstocked hmem
      obtain ⟨opens', hopens'⟩ := ih (hopens.unused_eq.trans hstored) (hstocked.after hopens)
      exact ⟨opens ++ opens', hopens.append hopens'⟩

end Runs

/-- Past the limit an opening faults at once. -/
lemma run_openPin_past {services : Services σ} {depth : Nat}
    (hdepth : services.settings.maxLaunchDepth < depth)
    (resolve : String → Context → Action σ String) (p : Pin) (environment : Option Environment)
    (extras : Fields Json) (w : σ) :
    (openPin services resolve p environment extras depth).run.run w =
      (.error (.launchTooDeep p.name services.settings.maxLaunchDepth), w) := by
  rw [openPin, if_pos hdepth]
  rfl

/-- What a target is resolved to, if it is a plan. -/
def targetText (services : Services σ) (plans : String → Plan) (target : String) : String :=
  (plans target).resolved services.host.home

/-- The opening itself, after all that the target launches. -/
lemma accounts_own {services : Services σ} {plans : String → Plan} {p : Pin}
    {handed : Option Handing} {L L' : Ledger} {pins : List Pin}
    (hdelivers : Delivers p (targetText services plans p.target) handed)
    (hseen : L' = { L.over p handed with pins := pins })
    (htallies : pins.map Pin.tally = L.pins.map (Pin.tallyAfter [p.id]))
    (hcounted : ∀ q ∈ pins, q.Counted) :
    Accounts (targetText services plans) [⟨[], p.unused⟩] [⟨⟨[], p.unused⟩, handed⟩] L L' where
  routes_eq := rfl
  delivers o ho := by
    obtain rfl := List.mem_singleton.mp ho
    cases hdelivers with
    | empty htarget => exact .empty htarget
    | missing htarget hpath => exact .missing htarget hpath
    | handed htarget => exact .handed htarget
  handed := by
    subst hseen
    cases handed <;> simp [Ledger.over]
  lastPin := by
    subst hseen
    cases handed <;> simp [Ledger.over, Opening.lastPin, Pin.unused]
  tallies := by
    subst hseen
    exact htallies
  counted _ := by
    subst hseen
    exact hcounted

section Trees

variable {services : Services σ} {ledger : σ → Ledger} (hworks : services.Works ledger)
  {plans : String → Plan} {limit : Option Nat} (hhome : Braceless services.host.home.toList)
include hworks hhome

/-- The openings below the limit, by the number of pins that a launch path may still have. -/
lemma exists_opens {room : Nat} {p : Pin}
    (hp : p.Planned plans (limit.getD services.settings.maxIterations)) {depth levels : Nat}
    (hroom : depth + room = services.settings.maxLaunchDepth + 1) (hlevels : room ≤ levels)
    (environment : Option Environment) (extras : Fields Json) {w : σ}
    (hstocked : Stocked plans (limit.getD services.settings.maxIterations) (ledger w).pins) :
    ∃ opens result w',
      (openPin services ((Builtin.resolver services limit).reentry levels).resolve p environment
        extras depth).run.run w = (result, w') ∧
      Accounts (targetText services plans)
        (routes plans ((ledger w).pins.map Pin.unused) room p.unused) opens (ledger w) (ledger w') ∧
      (room ≠ 0 → ∃ earlier handed, opens = earlier ++ [⟨⟨[], p.unused⟩, handed⟩] ∧
        result = .ok (if handed.isSome then targetText services plans p.target else "")) := by
  induction room generalizing p depth levels environment extras w with
  | zero => exact ⟨[], _, w, run_openPin_past (by omega) .., .nil _ _, fun h => absurd rfl h⟩
  | succ room ih =>
    obtain ⟨levels, rfl⟩ : ∃ k, levels = k + 1 := ⟨levels - 1, by omega⟩
    obtain ⟨t, -, w₁, hstart, hsame⟩ := hworks.stopwatch w
    obtain ⟨plan, hsource, hrefs, hleft⟩ := Plan.exists_expanded hhome (plans p.target)
    let reentry := (Builtin.resolver services limit).reentry levels
    let context := Context.assemble services.settings (some p) environment extras depth
    have hlimit : plan.refs.length ≤ (Builtin.resolver services limit).limitIn context :=
      hrefs ▸ hp.few
    obtain ⟨w₂, hruns, hresolve⟩ :=
      Builtin.resolveIn_plan services limit (some reentry) hlimit w₁
    rw [← hsame] at hstocked
    have hopen : ∀ q w', (ledger w').pins.map Pin.unused = (ledger w₁).pins.map Pin.unused →
        Stocked plans (limit.getD services.settings.maxIterations) (ledger w').pins →
        q ∈ (ledger w').pins → ∃ opens, Accounts (targetText services plans)
          (routes plans ((ledger w₁).pins.map Pin.unused) room q.unused) opens (ledger w')
          (ledger ((openPin services reentry.resolve q none [] (context.depth + 1)).run.run w').2) := by
      intro q w' hstored hstocked' hq
      obtain ⟨opens, result, w'', hrun, hopens, -⟩ := ih (hstocked'.planned q hq)
        (by omega : depth + 1 + room = _) (by omega : room ≤ levels) none [] hstocked'
      have hend : ((openPin services reentry.resolve q none [] (context.depth + 1)).run.run w').2 =
          w'' := congrArg Prod.snd hrun
      rw [hstored, ← hend] at hopens
      exact ⟨opens, hopens⟩
    obtain ⟨opens, hbelow⟩ := exists_below hworks hopen hruns rfl hstocked
    have hafter := hstocked.after hbelow
    have hresolve' : (((Builtin.resolver services limit).reentry (levels + 1)).resolve
        (expandHome services.host.home p.target) context).run.run w₁ =
          (.ok (targetText services plans p.target), w₂) := by
      have hexpanded : expandHome services.host.home p.target = plan.source := by
        rw [hsource, ← hp.written]
      rw [hexpanded, Resolver.reentry_succ, Resolver.run_lift_resolve, hresolve, targetText,
        ← hleft]
    obtain ⟨handed, pins, hdelivers, ⟨w', hrun, hseen⟩, htallies, hcounted⟩ :=
      exists_opened hworks hp.target (by omega) hstart hresolve' hafter.ids hafter.counted
    have hown := accounts_own hdelivers hseen htallies hcounted
    have hall := (hbelow.within p.unused).append hown
    rw [List.map_flatMap, hrefs, hsame] at hall
    exact ⟨_, _, w', hrun, hall, fun _ => ⟨_, handed, rfl, rfl⟩⟩

/-- Where no service fails, to open a pin at a depth within the limit is to open the pins at the
ends of all launch paths from it that the limit leaves room for, each after those that go on from it
and the pin itself last. An opening hands its target over once, unless this is empty or a path to
nothing, and all that is seen is accounted for by the openings: what was handed over, in their
order, and one more use of the stored pin for each. If the pin itself was handed over, it is the
last one that was opened. -/
theorem openPin_launches {p : Pin}
    (hp : p.Planned plans (limit.getD services.settings.maxIterations)) {depth levels : Nat}
    (hdepth : depth ≤ services.settings.maxLaunchDepth)
    (hlevels : services.settings.maxLaunchDepth - depth < levels)
    (environment : Option Environment) (extras : Fields Json) {w : σ}
    (hstocked : Stocked plans (limit.getD services.settings.maxIterations) (ledger w).pins) :
    ∃ earlier handed w',
      (openPin services ((Builtin.resolver services limit).reentry levels).resolve p environment
        extras depth).run.run w =
          (.ok (if handed.isSome then targetText services plans p.target else ""), w') ∧
      Accounts (targetText services plans) (routes plans ((ledger w).pins.map Pin.unused)
        (services.settings.maxLaunchDepth - depth + 1) p.unused)
        (earlier ++ [⟨⟨[], p.unused⟩, handed⟩]) (ledger w) (ledger w') ∧
      (handed.isSome → (ledger w').lastPin = some (.str p.id)) ∧
      ∀ r, r ∈ routes plans ((ledger w).pins.map Pin.unused)
          (services.settings.maxLaunchDepth - depth + 1) p.unused ↔
        r.pins.length ≤ services.settings.maxLaunchDepth - depth + 1 ∧
        r.pins.head? = some p.unused ∧ r.pins.IsChain fun p q =>
          q ∈ launched plans ((ledger w).pins.map Pin.unused) p := by
  obtain ⟨opens, result, w', hrun, hopens, hlast⟩ := exists_opens hworks hhome hp
    (by omega : depth + (services.settings.maxLaunchDepth - depth + 1) = _)
    (by omega : services.settings.maxLaunchDepth - depth + 1 ≤ levels) environment extras hstocked
  obtain ⟨earlier, handed, rfl, rfl⟩ := hlast (Nat.succ_ne_zero _)
  refine ⟨earlier, handed, w', hrun, hopens, fun hhanded => ?_, fun r => mem_routes⟩
  rw [hopens.lastPin, List.foldl_append, List.foldl_cons, List.foldl_nil, Opening.lastPin,
    if_pos hhanded]
  rfl

end Trees

/-! ## On a desktop -/

/-- What is seen of a desktop. -/
def ledgerOf (desktop : Desktop) : Ledger :=
  ⟨desktop.pins, desktop.written.get? Stored.lastPinKey, desktop.handed⟩

lemma works_desktop : desk.Works ledgerOf where
  list w := ⟨w, rfl, rfl⟩
  update items w := ⟨_, rfl, rfl⟩
  storage id w := by
    refine ⟨_, rfl, ?_⟩
    simp [ledgerOf, Desktop.writtenShelf, Fields.get?_set]
  automated := rfl
  openTarget platform hplatform target application w := by
    cases hplatform
    exact ⟨_, rfl, rfl⟩
  runShell platform hplatform command w := by
    cases hplatform
    exact ⟨"", _, rfl, rfl⟩
  showMessage notifier hnotifier text w := by
    cases hnotifier
    exact ⟨w, rfl, rfl⟩
  pathExists path w := ⟨true, w, rfl, rfl⟩
  stopwatch w := ⟨0, Nat.zero_le _, w, rfl, rfl⟩
  now w := ⟨Journal.nine, w, rfl, rfl⟩

/-- The plan of a call before a word. -/
def callThen (ref word : Literal) : Plan := .launch ref (.text word .done)

/-- Two pins that launch each other. -/
def firstPin : Pin := Desktop.pin "a" "\x7b\x7blaunchPin:b\x7d\x7dx"

def secondPin : Pin := Desktop.pin "b" "\x7b\x7blaunchPin:a\x7d\x7dy"

def circlePlans (target : String) : Plan :=
  if target = firstPin.target then callThen ⟨"b", by decide⟩ ⟨"x", by decide⟩
  else callThen ⟨"a", by decide⟩ ⟨"y", by decide⟩

lemma counted_new (id target : String) : (Desktop.pin id target).Counted :=
  ⟨le_rfl, le_rfl, Int.natCast_nonneg _⟩

lemma planned_firstPin : firstPin.Planned circlePlans 250 := ⟨rfl, by decide, by decide⟩

lemma stocked_circle : Stocked circlePlans 250 [firstPin, secondPin] where
  ids := by decide
  planned := by
    intro q hq
    obtain rfl | rfl : q = firstPin ∨ q = secondPin := by simpa using hq
    · exact planned_firstPin
    · exact ⟨rfl, by decide, by decide⟩
  counted := by
    intro q hq
    obtain rfl | rfl : q = firstPin ∨ q = secondPin := by simpa using hq
    · exact counted_new _ _
    · exact counted_new _ _

/-- Where the limit leaves room for three, the first pin is opened, before it the second and before
this the first. -/
theorem openPin_launches_circle :
    (desk.Works ledgerOf ∧ Braceless desk.host.home.toList ∧ firstPin.Planned circlePlans 250 ∧
      3 ≤ desk.settings.maxLaunchDepth ∧ desk.settings.maxLaunchDepth - 3 < 3 ∧
      Stocked circlePlans 250 (ledgerOf (Desktop.ofPins [firstPin, secondPin])).pins) ∧
    ∃ desktop,
      (openPin desk ((Builtin.resolver desk none).reentry 3).resolve firstPin none [] 3).run.run
        (Desktop.ofPins [firstPin, secondPin]) = (.ok "x", desktop) ∧
      desktop.handed = [.ran "x", .ran "y", .ran "x"] ∧
      (ledgerOf desktop).lastPin = some (.str "a") ∧
      desktop.pins.map Pin.tally = [(firstPin, 2), (secondPin, 1)] := by
  have hhome : Braceless desk.host.home.toList := by decide
  have hdepth : 3 ≤ desk.settings.maxLaunchDepth := by decide
  have hlevels : desk.settings.maxLaunchDepth - 3 < 3 := by decide
  refine ⟨⟨works_desktop, hhome, planned_firstPin, hdepth, hlevels, stocked_circle⟩, ?_⟩
  obtain ⟨earlier, handed, desktop, hrun, hopens, hlast, -⟩ :=
    @openPin_launches _ desk ledgerOf works_desktop circlePlans none hhome firstPin planned_firstPin
      3 3 hdepth hlevels none [] (Desktop.ofPins [firstPin, secondPin]) stocked_circle
  have hroutes : routes circlePlans ([firstPin, secondPin].map Pin.unused) 3 firstPin.unused =
      [⟨[firstPin, secondPin], firstPin⟩, ⟨[firstPin], secondPin⟩, ⟨[], firstPin⟩] := by
    decide +kernel
  change Accounts _ (routes circlePlans ([firstPin, secondPin].map Pin.unused) 3 firstPin.unused) _
    _ _ at hopens
  rw [hroutes] at hopens
  have hfirst : targetText desk circlePlans firstPin.target = "x" := by decide +kernel
  have hsecond : targetText desk circlePlans secondPin.target = "y" := by decide +kernel
  have hhanded := hopens.handed_eq fun r hr => by
    fin_cases hr
    · exact ⟨by rw [hfirst]; rfl, rfl⟩
    · exact ⟨by rw [hsecond]; rfl, rfl⟩
    · exact ⟨by rw [hfirst]; rfl, rfl⟩
  have hdelivers : Delivers firstPin (targetText desk circlePlans firstPin.target) handed :=
    hopens.delivers ⟨⟨[], firstPin.unused⟩, handed⟩ (by simp)
  rw [hfirst] at hdelivers
  have hown : handed = some (handing firstPin "x") := hdelivers.eq_some rfl rfl
  rw [hown, hfirst] at hrun
  refine ⟨desktop, hrun, ?_, hlast (by rw [hown]; rfl), ?_⟩
  · change desktop.handed = [] ++ [handing firstPin (targetText desk circlePlans firstPin.target),
      handing secondPin (targetText desk circlePlans secondPin.target),
      handing firstPin (targetText desk circlePlans firstPin.target)] at hhanded
    rw [hhanded, hfirst, hsecond]
    rfl
  · exact hopens.tallies

/-- A pin without a name. -/
def namelessPin : Pin := { Desktop.pin "a" "x" with name := "" }

/-- A pin whose target refers to it. -/
def callingPin : Pin := Desktop.pin "b" "\x7b\x7blaunchPin:\x7d\x7dy"

def namelessPlans (target : String) : Plan :=
  if target = "x" then .text ⟨"x", by decide⟩ .done else callThen .empty ⟨"y", by decide⟩

lemma planned_callingPin : callingPin.Planned namelessPlans 250 := ⟨rfl, by decide, by decide⟩

lemma stocked_nameless : Stocked namelessPlans 250 [namelessPin, callingPin] where
  ids := by decide
  planned := by
    intro q hq
    obtain rfl | rfl : q = namelessPin ∨ q = callingPin := by simpa using hq
    · exact ⟨rfl, by decide, by decide⟩
    · exact planned_callingPin
  counted := by
    intro q hq
    obtain rfl | rfl : q = namelessPin ∨ q = callingPin := by simpa using hq
    · exact ⟨le_rfl, le_rfl, Int.natCast_nonneg _⟩
    · exact counted_new _ _

/-- A reference without characters launches nothing, though there is a pin that it names. -/
theorem openPin_passes_nameless :
    callingPin.target = (callThen .empty ⟨"y", by decide⟩).source ∧
    [namelessPin, callingPin].find? (·.isNamed "") = some namelessPin ∧
    ∃ desktop,
      (openPin desk ((Builtin.resolver desk none).reentry 6).resolve callingPin none [] 0).run.run
        (Desktop.ofPins [namelessPin, callingPin]) = (.ok "y", desktop) ∧
      desktop.handed = [.ran "y"] ∧
      desktop.pins.map Pin.tally = [(namelessPin, 0), (callingPin, 1)] := by
  refine ⟨by decide, by decide +kernel, ?_⟩
  obtain ⟨opens, result, desktop, hrun, hopens, hlast⟩ :=
    @exists_opens _ desk ledgerOf works_desktop namelessPlans none (by decide) 6 callingPin
      planned_callingPin 0 6 (by decide) le_rfl none [] (Desktop.ofPins [namelessPin, callingPin])
      stocked_nameless
  have hroutes : routes namelessPlans ([namelessPin, callingPin].map Pin.unused) 6
      callingPin.unused = [⟨[], callingPin⟩] := by decide +kernel
  change Accounts _ (routes namelessPlans ([namelessPin, callingPin].map Pin.unused) 6
    callingPin.unused) _ _ _ at hopens
  rw [hroutes] at hopens
  have htarget : targetText desk namelessPlans callingPin.target = "y" := by decide +kernel
  obtain ⟨earlier, handed, rfl, rfl⟩ := hlast (by decide)
  have hdelivers : Delivers callingPin (targetText desk namelessPlans callingPin.target) handed :=
    hopens.delivers ⟨⟨[], callingPin.unused⟩, handed⟩ (by simp)
  have hhanded := hopens.handed_eq fun r hr => by
    obtain rfl := List.mem_singleton.mp hr
    exact ⟨by rw [htarget]; rfl, rfl⟩
  rw [htarget] at hdelivers hrun
  have hown : handed = some (handing callingPin "y") := hdelivers.eq_some rfl rfl
  rw [hown] at hrun
  refine ⟨desktop, hrun, ?_, hopens.tallies⟩
  change desktop.handed = [] ++ [handing callingPin
    (targetText desk namelessPlans callingPin.target)] at hhanded
  rw [hhanded, htarget]
  rfl

end Launch

end Pinboard
