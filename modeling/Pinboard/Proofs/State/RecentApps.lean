import Pinboard.Proofs.State.Variables
import Pinboard.State.RecentApps

/-!
# Recent applications by recency

The list of recent applications is cut each time an application is recorded. It is the list of all
applications by the time of their last recording, cut once: what a cut forgets comes back only by
being recorded again, and then it is in front.
-/
namespace Pinboard.RecentApps

open Record

variable {σ : Type}

/-! ## The list without a limit -/

/-- The application goes to the front of a list that is not cut, unless it is to be ignored. -/
def advance (ignored : List String) (apps : List AppRef) (app : AppRef) : List AppRef :=
  let others := apps.filter fun a => a.name != app.name && !ignored.contains a.name
  if ignored.contains app.name then others else app :: others

/-- All applications of a history, the latest first. -/
def latest (ignored : List String) (history : List AppRef) : List AppRef :=
  history.foldl (advance ignored) []

/-- The first of them, as many as are kept. -/
def recent (ignored : List String) (history : List AppRef) : List AppRef :=
  (latest ignored history).take limit

/-- The last recording under a name. -/
def lastUnder? (history : List AppRef) (name : String) : Option AppRef :=
  history.reverse.find? fun a => a.name = name

/-- How many recordings were made after the last one under a name. -/
def age (history : List AppRef) (name : String) : Nat :=
  history.reverse.findIdx fun a => a.name = name

/-- Each name of a history that is not to be ignored, once and with its last recording, the latest
first. -/
structure ByRecency (ignored : List String) (history apps : List AppRef) : Prop where
  mem_iff : ∀ a, a ∈ apps ↔ a.name ∉ ignored ∧ lastUnder? history a.name = some a
  sorted : apps.Pairwise fun a b => age history a.name < age history b.name

/-- The list that is kept without a limit has each name once and none that is to be ignored. -/
structure Tidy (ignored : List String) (apps : List AppRef) : Prop where
  nodup : (apps.map (·.name)).Nodup
  kept : ∀ a ∈ apps, a.name ∉ ignored

section Histories

variable {ignored : List String} {history apps : List AppRef} {app : AppRef}

lemma promote_eq (app : AppRef) (ignored : List String) (apps : List AppRef) :
    promote app ignored apps = (advance ignored apps app).take limit := rfl

lemma latest_concat (ignored : List String) (history : List AppRef) (app : AppRef) :
    latest ignored (history ++ [app]) = advance ignored (latest ignored history) app := by
  rw [latest, List.foldl_append]
  rfl

lemma lastUnder?_concat (history : List AppRef) (app : AppRef) (name : String) :
    lastUnder? (history ++ [app]) name =
      if app.name = name then some app else lastUnder? history name := by
  simp only [lastUnder?, List.reverse_concat, List.find?_cons]
  split_ifs <;> simp_all

lemma age_concat (history : List AppRef) (app : AppRef) (name : String) :
    age (history ++ [app]) name = if app.name = name then 0 else age history name + 1 := by
  simp [age, List.findIdx_cons, Bool.cond_eq_ite]

lemma mem_advance {a : AppRef} : a ∈ advance ignored apps app ↔
    a.name ∉ ignored ∧ (a = app ∨ a ∈ apps ∧ a.name ≠ app.name) := by
  by_cases hignored : app.name ∈ ignored
  · simp only [advance, List.contains_eq_mem, hignored, decide_true, if_true, List.mem_filter,
      Bool.and_eq_true, bne_iff_ne, Bool.not_eq_true', decide_eq_false_iff_not]
    constructor
    · exact fun ⟨ha, hname, hkept⟩ => ⟨hkept, .inr ⟨ha, hname⟩⟩
    · rintro ⟨hkept, rfl | ⟨ha, hname⟩⟩
      · exact absurd hignored hkept
      · exact ⟨ha, hname, hkept⟩
  · simp only [advance, List.contains_eq_mem, hignored, decide_false, Bool.false_eq_true, if_false,
      List.mem_cons, List.mem_filter, Bool.and_eq_true, bne_iff_ne, Bool.not_eq_true',
      decide_eq_false_iff_not]
    constructor
    · rintro (rfl | ⟨ha, hname, hkept⟩)
      · exact ⟨hignored, .inl rfl⟩
      · exact ⟨hkept, .inr ⟨ha, hname⟩⟩
    · rintro ⟨hkept, rfl | ⟨ha, hname⟩⟩
      · exact .inl rfl
      · exact .inr ⟨ha, hname, hkept⟩

/-- An application that is to be ignored changes nothing. -/
lemma Tidy.advance_ignored (h : Tidy ignored apps) (happ : app.name ∈ ignored) :
    advance ignored apps app = apps := by
  simp only [advance, List.contains_eq_mem, happ, decide_true, if_true]
  refine List.filter_eq_self.mpr fun a ha => ?_
  have hkept := h.kept a ha
  have hname : a.name ≠ app.name := fun heq => hkept (heq ▸ happ)
  simp [hname, hkept]

lemma Tidy.advance_recorded (h : Tidy ignored apps) (happ : app.name ∉ ignored) :
    advance ignored apps app = app :: apps.filter fun a => a.name != app.name := by
  simp only [advance, List.contains_eq_mem, happ, decide_false, Bool.false_eq_true, if_false]
  refine congrArg _ (List.filter_congr fun a ha => ?_)
  simp [h.kept a ha]

lemma Tidy.advance (h : Tidy ignored apps) (app : AppRef) :
    Tidy ignored (advance ignored apps app) := by
  refine ⟨?_, fun a ha => (mem_advance.mp ha).1⟩
  by_cases happ : app.name ∈ ignored
  · rw [h.advance_ignored happ]
    exact h.nodup
  · rw [h.advance_recorded happ, List.map_cons, List.nodup_cons]
    refine ⟨fun hmem => ?_, h.nodup.sublist (List.filter_sublist.map _)⟩
    obtain ⟨a, ha, hname⟩ := List.mem_map.mp hmem
    simp [hname] at ha

lemma tidy_latest (ignored : List String) (history : List AppRef) :
    Tidy ignored (latest ignored history) := by
  induction history using List.reverseRecOn with
  | nil => exact ⟨List.nodup_nil, by simp [latest]⟩
  | append_singleton history app ih =>
    rw [latest_concat]
    exact ih.advance app

/-! ## By recency -/

/-- A recording makes all others older by one. -/
lemma ByRecency.advance (h : ByRecency ignored history apps) (htidy : Tidy ignored apps)
    (app : AppRef) : ByRecency ignored (history ++ [app]) (advance ignored apps app) := by
  constructor
  · intro a
    rw [mem_advance, lastUnder?_concat]
    refine and_congr_right fun hkept => ?_
    split_ifs with hname
    · constructor
      · rintro (rfl | ⟨-, hne⟩)
        · rfl
        · exact absurd hname.symm hne
      · exact fun heq => .inl (Option.some.inj heq).symm
    · have hne : a ≠ app := fun heq => hname (congrArg (·.name) heq.symm)
      simp [hne, h.mem_iff, hkept, Ne.symm hname]
  · by_cases happ : app.name ∈ ignored
    · rw [htidy.advance_ignored happ]
      have hother : ∀ a ∈ apps, app.name ≠ a.name := fun a ha heq =>
        htidy.kept a ha (heq ▸ happ)
      refine h.sorted.imp_of_mem fun {a b} ha hb hab => ?_
      rwa [age_concat, age_concat, if_neg (hother a ha), if_neg (hother b hb),
        Nat.add_lt_add_iff_right]
    · rw [htidy.advance_recorded happ]
      have hother : ∀ a ∈ apps.filter (fun a => a.name != app.name), app.name ≠ a.name :=
        fun a ha heq => by simp [heq] at ha
      refine List.pairwise_cons.mpr ⟨fun a ha => ?_, ?_⟩
      · rw [age_concat, age_concat, if_pos rfl, if_neg (hother a ha)]
        exact Nat.succ_pos _
      · refine (h.sorted.sublist List.filter_sublist).imp_of_mem fun {a b} ha hb hab => ?_
        rwa [age_concat, age_concat, if_neg (hother a ha), if_neg (hother b hb),
          Nat.add_lt_add_iff_right]

lemma byRecency_latest (ignored : List String) (history : List AppRef) :
    ByRecency ignored history (latest ignored history) := by
  induction history using List.reverseRecOn with
  | nil => exact ⟨by simp [latest, lastUnder?], List.Pairwise.nil⟩
  | append_singleton history app ih =>
    rw [latest_concat]
    exact ih.advance (tidy_latest ignored history) app

/-- No other list is in this order. -/
lemma byRecency_iff : ByRecency ignored history apps ↔ apps = latest ignored history := by
  refine ⟨fun h => ?_, fun h => h ▸ byRecency_latest ignored history⟩
  have hlatest := byRecency_latest ignored history
  have hnodup : ∀ {l : List AppRef}, ByRecency ignored history l → l.Nodup := fun hl =>
    hl.sorted.imp fun hlt heq => (heq ▸ hlt).false
  have hperm : apps.Perm (latest ignored history) :=
    (List.perm_ext_iff_of_nodup (hnodup h) (hnodup hlatest)).mpr fun a => by
      rw [h.mem_iff, hlatest.mem_iff]
  exact hperm.eq_of_pairwise (fun a b _ _ hab hba => absurd hab hba.asymm) h.sorted hlatest.sorted

/-! ## Cutting at every step -/

/-- What a cut to one more than are kept loses is not missed if at most one is filtered out. -/
lemma take_filter_take {apps : List AppRef} (hnodup : (apps.map (·.name)).Nodup) (name : String)
    (n : Nat) : ((apps.take (n + 1)).filter fun a => a.name != name).take n =
      (apps.filter fun a => a.name != name).take n := by
  induction apps generalizing n with
  | nil => rfl
  | cons a apps ih =>
    rw [List.map_cons, List.nodup_cons] at hnodup
    rw [List.take_succ_cons]
    by_cases hname : a.name = name
    · -- no later one has the name
      have hothers : ∀ b ∈ apps, (b.name != name) = true := fun b hb => by
        simpa using fun heq : b.name = name =>
          hnodup.1 (List.mem_map.mpr ⟨b, hb, heq.trans hname.symm⟩)
      rw [List.filter_cons_of_neg (by simpa using hname),
        List.filter_cons_of_neg (by simpa using hname),
        List.filter_eq_self.mpr fun b hb => hothers b (List.mem_of_mem_take hb),
        List.filter_eq_self.mpr hothers, List.take_take, Nat.min_self]
    · rw [List.filter_cons_of_pos (by simpa using hname),
        List.filter_cons_of_pos (by simpa using hname)]
      cases n with
      | zero => rfl
      | succ n => rw [List.take_succ_cons, List.take_succ_cons, ih hnodup.2]

lemma Tidy.promote_take (h : Tidy ignored apps) (app : AppRef) :
    promote app ignored (apps.take limit) = (RecentApps.advance ignored apps app).take limit := by
  have hcut : Tidy ignored (apps.take limit) :=
    ⟨h.nodup.sublist ((List.take_sublist _ _).map _),
      fun a ha => h.kept a (List.mem_of_mem_take ha)⟩
  rw [promote_eq]
  by_cases happ : app.name ∈ ignored
  · rw [h.advance_ignored happ, hcut.advance_ignored happ, List.take_take, Nat.min_self]
  · rw [h.advance_recorded happ, hcut.advance_recorded happ, limit, List.take_succ_cons,
      List.take_succ_cons, take_filter_take h.nodup]

lemma promote_recent (app : AppRef) (ignored : List String) (history : List AppRef) :
    promote app ignored (recent ignored history) = recent ignored (history ++ [app]) := by
  rw [recent, (tidy_latest ignored history).promote_take, recent, latest_concat]

/-- A list that is cut at every step is the list that is cut once. -/
lemma foldl_promote (ignored : List String) (history : List AppRef) :
    history.foldl (fun apps app => promote app ignored apps) [] = recent ignored history := by
  induction history using List.reverseRecOn with
  | nil => rfl
  | append_singleton history app ih => rw [List.foldl_append, ih, ← promote_recent]; rfl

end Histories

/-! ## What is stored -/

/-- What is stored is no text, no JSON or no list. -/
def NoList (stored : Option String) : Prop :=
  ∀ text, stored = some text →
    Json.read text = .error .malformed ∨ ∃ v, Json.read text = .ok v ∧ ∀ items, v ≠ .arr items

/-- A stored value of which these applications are loaded. -/
def Lists (stored : Option Json) (apps : List AppRef) : Prop :=
  ∃ items, Stored.itemsOf stored = .ok items ∧
    (items.filter isRecord).map AppRef.read = apps.map .ok

/-- The text under which applications are saved. -/
def saved (apps : List AppRef) : Json := .str (Json.arr (apps.map AppRef.toJson)).print

lemma read_toJson (a : AppRef) : AppRef.read a.toJson = .ok a := rfl

lemma lists_saved (apps : List AppRef) : Lists (some (saved apps)) apps := by
  have hplain : (Json.arr (apps.map AppRef.toJson)).IsPlain := by simp [AppRef.toJson]
  refine ⟨apps.map AppRef.toJson, Stored.itemsOf_print hplain, ?_⟩
  have hrecords : (apps.map AppRef.toJson).filter isRecord = apps.map AppRef.toJson :=
    List.filter_eq_self.mpr fun item hitem => by
      obtain ⟨a, -, rfl⟩ := List.mem_map.mp hitem
      rfl
  rw [hrecords, List.map_map]
  exact List.map_congr_left fun a _ => read_toJson a

lemma NoList.lists {stored : Option String} (h : NoList stored) : Lists (stored.map .str) [] := by
  refine ⟨[], ?_, rfl⟩
  cases stored with
  | none => rfl
  | some text =>
    rw [Option.map_some, Stored.itemsOf_text, Stored.itemsOfText]
    obtain hread | ⟨v, hread, hv⟩ := h text rfl
    · rw [hread]
    · rw [hread]
      cases v with
      | arr items => exact absurd rfl (hv items)
      | _ => rfl

lemma mapM_ofChecked {items : List Json} {apps : List AppRef}
    (h : items.map AppRef.read = apps.map .ok) :
    (items.mapM fun item => (Action.ofChecked "AppRef" (AppRef.read item) : Action σ AppRef)) =
      pure apps := by
  induction items generalizing apps with
  | nil =>
    obtain rfl : apps = [] := by simpa using h.symm
    rfl
  | cons item items ih =>
    cases apps with
    | nil => cases h
    | cons a apps =>
      obtain ⟨hfirst, hrest⟩ := List.cons.inj h
      rw [List.mapM_cons, hfirst, ih hrest]
      rfl

/-! ## What the calls do -/

/-- A recording and a look at the list. -/
def recordAndLoad (storage : KeyValueStore σ) (ignored : List String) (app : AppRef) :
    Action σ (List AppRef × List AppRef) := do
  let answer ← record storage app ignored
  pure (answer, ← load storage)

/-- The list after each recording of a history, as it was answered and as it was loaded. -/
def answers (ignored : List String) (history : List AppRef) : List (List AppRef × List AppRef) :=
  history.inits.tail.map fun past => (recent ignored past, recent ignored past)

lemma answers_concat (ignored : List String) (history : List AppRef) (app : AppRef) :
    answers ignored (history ++ [app]) = answers ignored history ++
      [(recent ignored (history ++ [app]), recent ignored (history ++ [app]))] := by
  have hinits : (history ++ [app]).inits.tail = history.inits.tail ++ [history ++ [app]] := by
    rw [List.inits_append, List.tail_append_of_ne_nil (by cases history <;> simp)]
    rfl
  rw [answers, hinits, List.map_append]
  rfl

section Calls

variable {storage : KeyValueStore σ} {value : σ → Option Json} {w : σ}
  (hstorage : storage.Keeps Stored.recentAppsKey value)
include hstorage

lemma ends_load {apps : List AppRef} (h : Lists (value w) apps) :
    Action.Ends value (load storage) w (.ok apps) (value w) := by
  obtain ⟨items, hitems, hread⟩ := h
  obtain ⟨w', hget, hvalue⟩ := hstorage.get w
  have hload : (Stored.load storage Stored.recentAppsKey).run.run w = (.ok items, w') := by
    rw [Stored.load, Action.run_bind_ok hget, hitems]
    rfl
  refine ⟨w', ?_, hvalue⟩
  rw [load, Action.run_bind_ok hload, mapM_ofChecked hread]
  rfl

/-- A stored value that cannot be read makes loading fail. -/
lemma ends_load_refused {fault : Fault} (h : Stored.itemsOf (value w) = .error fault) :
    Action.Ends value (load storage) w (.error fault) (value w) := by
  obtain ⟨w', hget, hvalue⟩ := hstorage.get w
  have hstopped : (Stored.load storage Stored.recentAppsKey).run.run w = (.error fault, w') := by
    rw [Stored.load, Action.run_bind_ok hget, h]
    rfl
  exact ⟨w', Action.run_bind_error hstopped, hvalue⟩

lemma ends_record {apps : List AppRef} (h : Lists (value w) apps) (app : AppRef)
    (ignored : List String) :
    Action.Ends value (record storage app ignored) w (.ok (promote app ignored apps))
      (some (saved (promote app ignored apps))) := by
  refine (ends_load hstorage h).bind fun w₁ _ => ?_
  obtain ⟨w₂, hset, hvalue⟩ := hstorage.set (saved (promote app ignored apps)) w₁
  have hsave : Action.Ends value
      (Stored.save storage Stored.recentAppsKey ((promote app ignored apps).map AppRef.toJson)) w₁
      (.ok ()) (some (saved (promote app ignored apps))) := ⟨w₂, hset, hvalue⟩
  exact hsave.bind_pure fun _ => promote app ignored apps

lemma ends_recordAndLoad {apps : List AppRef} (h : Lists (value w) apps) (app : AppRef)
    (ignored : List String) :
    Action.Ends value (recordAndLoad storage ignored app) w
      (.ok (promote app ignored apps, promote app ignored apps))
      (some (saved (promote app ignored apps))) := by
  refine (ends_record hstorage h app ignored).bind fun w₁ h₁ => ?_
  have hload := ends_load hstorage (h₁.symm ▸ lists_saved (promote app ignored apps))
  rw [h₁] at hload
  exact hload.bind_pure fun loaded => (promote app ignored apps, loaded)

/-- Each recording answers with what it stored, and loading gives it back. -/
lemma exists_recordings (h : Lists (value w) []) (ignored : List String) (history : List AppRef) :
    ∃ w', (history.mapM (recordAndLoad storage ignored)).run.run w =
        (.ok (answers ignored history), w') ∧
      Lists (value w') (recent ignored history) ∧
      (history ≠ [] → value w' = some (saved (recent ignored history))) := by
  induction history using List.reverseRecOn with
  | nil => exact ⟨w, rfl, h, fun hsome => absurd rfl hsome⟩
  | append_singleton history app ih =>
    obtain ⟨w₁, hrun, hlists, -⟩ := ih
    obtain ⟨w₂, hstep, hvalue⟩ := ends_recordAndLoad hstorage hlists app ignored
    rw [promote_recent] at hstep hvalue
    refine ⟨w₂, ?_, hvalue ▸ lists_saved _, fun _ => hvalue⟩
    have hlast : ([app].mapM (recordAndLoad storage ignored)).run.run w₁ =
        (.ok [(recent ignored (history ++ [app]), recent ignored (history ++ [app]))], w₂) := by
      rw [List.mapM_cons, Action.run_bind_ok hstep]
      rfl
    rw [List.mapM_append, Action.run_bind_ok hrun, Action.run_bind_ok hlast, answers_concat]
    rfl

end Calls

/-- For every stored text, or without one: if reading it meets a whole number with too many digits,
which takes a row of as many digits in the text, loading and recording fail for it and leave it.
From a text that is no JSON or no list, or without one, any applications may be recorded: each call
answers with the list that it stored, and loading gives it back. It is the beginning of the one list
that has each name that is not to be ignored once, with its last recording, the latest first. -/
theorem recordings_by_recency {storage : KeyValueStore σ} {value : σ → Option Json}
    (hstorage : storage.Keeps Stored.recentAppsKey value) (stored : Option String) {w : σ}
    (hstored : value w = stored.map .str) :
    (∀ text count, stored = some text → Json.read text = .error (.tooManyDigits count) →
      Json.LongRow count text.toList ∧
      Action.Ends value (load storage) w (.error (.tooManyDigits count)) (value w) ∧
      ∀ app ignored, Action.Ends value (record storage app ignored) w
        (.error (.tooManyDigits count)) (value w)) ∧
    (NoList stored → ∀ ignored history,
      (∀ apps, ByRecency ignored history apps ↔ apps = latest ignored history) ∧
      history.foldl (fun apps app => promote app ignored apps) [] =
        (latest ignored history).take limit ∧
      ∃ w', (history.mapM (recordAndLoad storage ignored)).run.run w =
          (.ok (history.inits.tail.map fun past =>
            ((latest ignored past).take limit, (latest ignored past).take limit)), w') ∧
        Action.Ends value (load storage) w' (.ok ((latest ignored history).take limit))
          (value w') ∧
        (history ≠ [] → value w' = some (saved ((latest ignored history).take limit)))) := by
  constructor
  · rintro text count rfl hread
    have hitems : Stored.itemsOf (value w) = .error (.tooManyDigits count) := by
      rw [hstored, Option.map_some, Stored.itemsOf_text, Stored.itemsOfText, hread]
    have hload := ends_load_refused hstorage hitems
    exact ⟨Json.longRow_of_read hread, hload, fun app ignored => hload.bind_error⟩
  · intro hnone ignored history
    obtain ⟨w', hrun, hlists, hvalue⟩ :=
      exists_recordings hstorage (hstored ▸ hnone.lists) ignored history
    exact ⟨fun apps => byRecency_iff, foldl_promote ignored history, w', hrun,
      ends_load hstorage hlists, hvalue⟩

end Pinboard.RecentApps

namespace Pinboard.Journal

open RecentApps

/-- A journal with a text in the place of the recent applications. -/
def keepingApps (text : String) : Journal := [(Stored.recentAppsKey, .str text)]

/-- A terminal, a browser and a terminal again, elsewhere; the dock in between. -/
def day : List AppRef :=
  [⟨"Terminal", "/bin/a"⟩, ⟨"Browser", "/bin/b"⟩, ⟨"Dock", "/bin/c"⟩, ⟨"Terminal", "/bin/d"⟩]

/-- What was stored before is no list; the dock is to be ignored. -/
theorem recordings_by_recency_day :
    NoList (some "7") ∧
    ∃ w', (day.mapM (recordAndLoad storage ["Dock"])).run.run (keepingApps "7") =
        (.ok [([⟨"Terminal", "/bin/a"⟩], [⟨"Terminal", "/bin/a"⟩]),
          ([⟨"Browser", "/bin/b"⟩, ⟨"Terminal", "/bin/a"⟩],
            [⟨"Browser", "/bin/b"⟩, ⟨"Terminal", "/bin/a"⟩]),
          ([⟨"Browser", "/bin/b"⟩, ⟨"Terminal", "/bin/a"⟩],
            [⟨"Browser", "/bin/b"⟩, ⟨"Terminal", "/bin/a"⟩]),
          ([⟨"Terminal", "/bin/d"⟩, ⟨"Browser", "/bin/b"⟩],
            [⟨"Terminal", "/bin/d"⟩, ⟨"Browser", "/bin/b"⟩])], w') ∧
      w'.get? Stored.recentAppsKey =
        some (saved [⟨"Terminal", "/bin/d"⟩, ⟨"Browser", "/bin/b"⟩]) := by
  have hnone : NoList (some "7") := by
    rintro text htext
    obtain rfl := Option.some.inj htext
    exact .inr ⟨.int 7, rfl, by simp⟩
  obtain ⟨-, hruns⟩ := recordings_by_recency (keeps Stored.recentAppsKey) (some "7")
    (w := keepingApps "7") rfl
  obtain ⟨-, -, w', hrun, -, hvalue⟩ := hruns hnone ["Dock"] day
  exact ⟨hnone, w', hrun.trans (congrArg (·, w') (by decide)), hvalue (by decide)⟩

/-- A number with one digit too many is no list, but hides that there is none. -/
theorem onesText_stops_recording :
    (load storage).run.run (keepingApps (onesText 4301)) =
      (.error (.tooManyDigits 4301), keepingApps (onesText 4301)) ∧
    (record storage ⟨"Terminal", "/bin/a"⟩ []).run.run (keepingApps (onesText 4301)) =
      (.error (.tooManyDigits 4301), keepingApps (onesText 4301)) := by
  have hitems : Stored.itemsOf (some (.str (onesText 4301))) = .error (.tooManyDigits 4301) := by
    rw [Stored.itemsOf_text, Stored.itemsOfText, onesText, Json.read_replicate_ones (by decide)]
  have hget : (storage.get? Stored.recentAppsKey).run.run (keepingApps (onesText 4301)) =
      (.ok (some (.str (onesText 4301))), keepingApps (onesText 4301)) := rfl
  have hstopped : (Stored.load storage Stored.recentAppsKey).run.run
      (keepingApps (onesText 4301)) =
      (.error (.tooManyDigits 4301), keepingApps (onesText 4301)) := by
    rw [Stored.load, Action.run_bind_ok hget, hitems]
    rfl
  have hload : (load storage).run.run (keepingApps (onesText 4301)) =
      (.error (.tooManyDigits 4301), keepingApps (onesText 4301)) := Action.run_bind_error hstopped
  exact ⟨hload, Action.run_bind_error hload⟩

end Pinboard.Journal
