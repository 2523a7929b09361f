import Pinboard.Proofs.Schedule.Events

/-!
# Copies of records

Records with equal text and moment cannot be told apart in the stored list. To speak of one of them,
each is numbered as it comes into being: first the records that are stored, then those that are
appended. What goes is the first copy that fits, as in the stored list. The numbers occur in proofs
only.

A visit is what a check of the schedule did to the copies. It delivers the copies that are due, and
clears them away if it gets that far.
-/
namespace Pinboard.Schedule

open Time

/-- A record with the number under which it came into being. -/
structure Copy where
  number : Nat
  record : Deferred
  deriving DecidableEq

/-- The copies that are stored, and how many came into being so far. -/
structure Roll where
  copies : List Copy
  created : Nat
  numbered : ∀ c ∈ copies, c.number < created
  ascending : copies.Pairwise fun c c' => c.number < c'.number

namespace Roll

def empty : Roll := ⟨[], 0, by simp, .nil⟩

def records (r : Roll) : List Deferred := r.copies.map (·.record)

/-- A record comes into being and goes to the end. -/
def append (r : Roll) (d : Deferred) : Roll where
  copies := r.copies ++ [⟨r.created, d⟩]
  created := r.created + 1
  numbered c hc := by
    rcases List.mem_append.mp hc with hc | hc
    · exact Nat.lt_succ_of_lt (r.numbered c hc)
    · simp_all
  ascending := List.pairwise_append.mpr
    ⟨r.ascending, List.pairwise_singleton _ _, fun c hc c' hc' => by
      obtain rfl := List.mem_singleton.mp hc'
      exact r.numbered c hc⟩

/-- The first copy with the text and the moment of a record goes. -/
def remove (r : Roll) (d : Deferred) : Roll where
  copies := r.copies.eraseP fun c => c.record.isAt d.target d.due
  created := r.created
  numbered c hc := r.numbered c (List.mem_of_mem_eraseP hc)
  ascending := r.ascending.sublist List.eraseP_sublist

/-- The stored records as copies. -/
def ofRecords (records : List Deferred) : Roll := records.foldl append empty

def apply (r : Roll) : Event → Roll
  | .scheduled d => r.append d
  | .cancelled d => r.remove d
  | .resolved _ => r

/-- The copies that are stored after some events. -/
def replay (r : Roll) (events : List Event) : Roll := events.foldl apply r

/-- A copy goes for each of a list of processed records. -/
def removeAll (r : Roll) (processed : List Deferred) : Roll := processed.foldl remove r

/-- The copies that are due. -/
def due (r : Roll) (now : Timestamp) : List Copy := r.copies.filter fun c => c.record.isDue now

variable (r : Roll) (d : Deferred) (events : List Event) (processed : List Deferred)
  (now : Timestamp)

/-! ## The records of the copies -/

@[simp] lemma records_empty : empty.records = [] := rfl

@[simp] lemma records_append : (r.append d).records = r.records ++ [d] := by
  simp [records, append]

@[simp] lemma records_remove : (r.remove d).records = removeFirst d.target d.due r.records := by
  simp [records, remove, removeFirst, List.eraseP_map, Function.comp_def]

@[simp] lemma records_apply (e : Event) : (r.apply e).records = e.apply r.records := by
  cases e <;> simp [apply, Event.apply]

@[simp] lemma records_replay : (r.replay events).records = Schedule.replay r.records events := by
  induction events generalizing r with
  | nil => rfl
  | cons e events ih => simpa [replay, Schedule.replay] using ih (r.apply e)

@[simp] lemma records_removeAll :
    (r.removeAll processed).records = Schedule.removeAll processed r.records := by
  induction processed generalizing r with
  | nil => rfl
  | cons d processed ih => simpa [removeAll, Schedule.removeAll] using ih (r.remove d)

lemma records_foldl_append (ds : List Deferred) :
    (ds.foldl append r).records = r.records ++ ds := by
  induction ds generalizing r with
  | nil => simp
  | cons d ds ih => simpa using ih (r.append d)

@[simp] lemma records_ofRecords (ds : List Deferred) : (ofRecords ds).records = ds :=
  records_foldl_append empty ds

lemma map_record_due : (r.due now).map (·.record) = r.records.filter (Deferred.isDue now) := by
  simp [due, records, List.filter_map, Function.comp_def]

/-! ## Where copies come from -/

@[simp] lemma created_remove : (r.remove d).created = r.created := rfl

@[simp] lemma created_removeAll : (r.removeAll processed).created = r.created := by
  induction processed generalizing r with
  | nil => rfl
  | cons d processed ih => exact ih (r.remove d)

lemma created_le_apply (e : Event) : r.created ≤ (r.apply e).created := by
  cases e <;> simp [apply, append]

lemma created_le_replay : r.created ≤ (r.replay events).created := by
  induction events generalizing r with
  | nil => exact le_rfl
  | cons e events ih => exact (r.created_le_apply e).trans (ih (r.apply e))

variable {r d events processed now} {c : Copy}

lemma mem_of_mem_remove (hc : c ∈ (r.remove d).copies) : c ∈ r.copies := List.mem_of_mem_eraseP hc

lemma mem_of_mem_removeAll (hc : c ∈ (r.removeAll processed).copies) : c ∈ r.copies := by
  induction processed generalizing r with
  | nil => exact hc
  | cons d processed ih => exact mem_of_mem_remove (ih (r := r.remove d) hc)

lemma mem_apply {e : Event} (hc : c ∈ (r.apply e).copies) :
    c ∈ r.copies ∨ r.created ≤ c.number := by
  cases e with
  | scheduled d =>
    rcases List.mem_append.mp hc with hc | hc
    · exact .inl hc
    · obtain rfl := List.mem_singleton.mp hc
      exact .inr le_rfl
  | cancelled d => exact .inl (mem_of_mem_remove hc)
  | resolved d => exact .inl hc

/-- A copy was there before some events, or it came into being with them. -/
lemma mem_replay (hc : c ∈ (r.replay events).copies) : c ∈ r.copies ∨ r.created ≤ c.number := by
  induction events generalizing r with
  | nil => exact .inl hc
  | cons e events ih =>
    rcases ih (r := r.apply e) hc with hc | hc
    · exact mem_apply hc
    · exact .inr ((r.created_le_apply e).trans hc)

lemma mem_of_mem_due (hc : c ∈ r.due now) : c ∈ r.copies := List.mem_of_mem_filter hc

/-! ## Copies with the same text and moment

Of the copies that records cannot tell apart, the older ones go first. -/

variable (r d events processed) (bound : Nat) (k : String × Int)

/-- How many copies with a text and a moment have a number below a bound. -/
def older : Nat := r.copies.countP fun c => decide (c.number < bound ∧ c.record.key = k)

variable {bound}

lemma older_append (hbound : bound ≤ r.created) : (r.append d).older bound k = r.older bound k := by
  simp [older, append, List.countP_append, Nat.not_lt.mpr hbound]

lemma older_remove (bound : Nat) :
    (r.remove d).older bound k = r.older bound k - [d].countP fun d => decide (d.key = k) := by
  obtain ⟨copies, created, hnumbered, hascending⟩ := r
  simp only [older, remove, Deferred.isAt_eq, Deferred.of_eq_self]
  clear hnumbered
  induction hascending with
  | nil => simp
  | @cons c copies hfirst _ ih =>
    by_cases hc : c.record.key = d.key
    · rw [List.eraseP_cons_of_pos (by simpa using hc)]
      by_cases hk : d.key = k
      · by_cases hold : c.number < bound
        · simp [hc, hk, hold]
        · -- every later copy has a larger number, so none of them is older
          have hnone : ∀ c' ∈ copies, ¬c'.number < bound := fun c' hc' =>
            fun hlt => hold ((hfirst c' hc').trans hlt)
          have hzero : (copies.countP fun c => decide (c.number < bound ∧ c.record.key = k)) = 0 :=
            List.countP_eq_zero.mpr fun c' hc' => by simp [hnone c' hc']
          rw [List.countP_cons, hzero]
          simp [hold]
      · simp [hc, hk]
    · rw [List.eraseP_cons_of_neg (by simpa using hc)]
      by_cases hk : d.key = k
      · have hother : c.record.key ≠ k := fun h => hc (h.trans hk.symm)
        simpa [List.countP_cons, hother] using ih
      · simpa [List.countP_cons, hk] using ih

lemma older_apply_le (hbound : bound ≤ r.created) (e : Event) :
    (r.apply e).older bound k ≤ r.older bound k := by
  cases e with
  | scheduled d => exact (r.older_append d k hbound).le
  | cancelled d =>
    rw [apply, older_remove]
    exact Nat.sub_le _ _
  | resolved d => exact le_rfl

lemma older_replay_le (hbound : bound ≤ r.created) :
    (r.replay events).older bound k ≤ r.older bound k := by
  induction events generalizing r with
  | nil => exact le_rfl
  | cons e events ih =>
    exact (ih (r.apply e) (hbound.trans (r.created_le_apply e))).trans (r.older_apply_le k hbound e)

lemma older_removeAll (bound : Nat) : (r.removeAll processed).older bound k =
    r.older bound k - processed.countP fun d => decide (d.key = k) := by
  induction processed generalizing r with
  | nil => simp [removeAll]
  | cons d processed ih =>
    have hlater := ih (r.remove d)
    rw [older_remove, Nat.sub_sub, ← List.countP_append] at hlater
    exact hlater

variable {r}

/-- With a copy that is due, all that look like it are due. -/
lemma older_eq_countP_due (hc : c ∈ r.due now) : r.older r.created c.record.key =
    ((r.due now).map (·.record)).countP fun d => decide (d.key = c.record.key) := by
  have hdue : c.record.isDue now = true := (List.mem_filter.mp hc).2
  rw [List.countP_map, due, List.countP_filter, older]
  refine List.countP_congr fun c' hc' => ?_
  have hnumber := r.numbered c' hc'
  by_cases hkey : c'.record.key = c.record.key
  · simp [hkey, hnumber, Deferred.isDue_eq hkey, hdue]
  · simp [hkey]

/-- Whatever happens meanwhile, no copy that was due is left once as many are removed. -/
lemma notMem_cleared (hc : c ∈ r.due now) (events : List Event) :
    c ∉ ((r.replay events).removeAll ((r.due now).map (·.record))).copies := by
  intro hleft
  have hnone : ((r.replay events).removeAll ((r.due now).map (·.record))).older r.created
      c.record.key = 0 := by
    rw [older_removeAll, ← older_eq_countP_due hc]
    exact Nat.sub_eq_zero_of_le (r.older_replay_le events _ le_rfl)
  have hnumber := r.numbered c (mem_of_mem_due hc)
  simpa [hnumber] using List.countP_eq_zero.mp hnone c hleft

end Roll

/-! ## Visits -/

/-- What a check did to the copies: it did not get to the records, or it resolved those that were
due at a time, with some events, and then cleared them away or failed to. -/
inductive Visit where
  | unread
  | made (now : Timestamp) (events : List Event) (cleared : Bool)

namespace Visit

/-- Whether it leaves none of the copies that it delivers. -/
def cleared : Visit → Bool
  | .unread => true
  | .made _ _ cleared => cleared

def events : Visit → List Event
  | .unread => []
  | .made _ events _ => events

end Visit

namespace Roll

/-- The copies whose targets a visit resolves. -/
def delivered (r : Roll) : Visit → List Copy
  | .unread => []
  | .made now _ _ => r.due now

/-- The copies that are stored after a visit. -/
def visit (r : Roll) : Visit → Roll
  | .unread => r
  | .made now events cleared =>
    if cleared then (r.replay events).removeAll ((r.due now).map (·.record)) else r.replay events

/-- The copies that are stored after some visits. -/
def visitAll (r : Roll) (visits : List Visit) : Roll := visits.foldl visit r

/-- Every copy that is delivered, as often as this happens. -/
def deliveries (r : Roll) : List Visit → List Copy
  | [] => []
  | v :: later => r.delivered v ++ (r.visit v).deliveries later

variable {r : Roll} {v : Visit} {c : Copy}

lemma created_le_visit (r : Roll) (v : Visit) : r.created ≤ (r.visit v).created := by
  cases v with
  | unread => exact le_rfl
  | made now events cleared => cases cleared <;> simp [visit, created_le_replay]

lemma mem_visit (hc : c ∈ (r.visit v).copies) : c ∈ r.copies ∨ r.created ≤ c.number := by
  cases v with
  | unread => exact .inl hc
  | made now events cleared =>
    cases cleared with
    | true => exact mem_replay (mem_of_mem_removeAll hc)
    | false => exact mem_replay hc

lemma mem_of_mem_delivered (hc : c ∈ r.delivered v) : c ∈ r.copies := by
  cases v with
  | unread => cases hc
  | made now events cleared => exact mem_of_mem_due hc

lemma notMem_visit (hcleared : v.cleared = true) (hc : c ∈ r.delivered v) :
    c ∉ (r.visit v).copies := by
  cases v with
  | unread => cases hc
  | made now events cleared =>
    obtain rfl : cleared = true := hcleared
    exact notMem_cleared hc events

lemma nodup_delivered (r : Roll) (v : Visit) : (r.delivered v).Nodup := by
  cases v with
  | unread => exact .nil
  | made now events cleared =>
    have hcopies : r.copies.Nodup :=
      r.ascending.imp fun hlt => ne_of_apply_ne Copy.number hlt.ne
    exact hcopies.filter _

lemma mem_deliveries {visits : List Visit} (hc : c ∈ r.deliveries visits) :
    c ∈ r.copies ∨ r.created ≤ c.number := by
  induction visits generalizing r with
  | nil => cases hc
  | cons v later ih =>
    rcases List.mem_append.mp hc with hc | hc
    · exact .inl (mem_of_mem_delivered hc)
    · rcases ih hc with hc | hc
      · exact mem_visit hc
      · exact .inr ((r.created_le_visit v).trans hc)

/-- What a visit has cleared away is not delivered again. -/
lemma disjoint_cleared (hcleared : v.cleared = true) (later : List Visit) :
    (r.delivered v).Disjoint ((r.visit v).deliveries later) := by
  intro c hc hagain
  rcases mem_deliveries hagain with hleft | hnew
  · exact notMem_visit hcleared hc hleft
  · have hold := r.numbered c (mem_of_mem_delivered hc)
    exact absurd ((r.created_le_visit v).trans hnew) (Nat.not_le.mpr hold)

/-- Whether every copy that was delivered but not cleared away is delivered no more, because it is
cancelled or no later visit finds it due. -/
def Spared (r : Roll) (visits : List Visit) : Prop :=
  ∀ earlier v later, visits = earlier ++ v :: later → v.cleared = false →
    ((r.visitAll earlier).delivered v).Disjoint
      (((r.visitAll earlier).visit v).deliveries later)

lemma spared_nil (r : Roll) : r.Spared [] := by
  simp [Spared]

lemma spared_cons (r : Roll) (v : Visit) (later : List Visit) : r.Spared (v :: later) ↔
    (v.cleared = false → (r.delivered v).Disjoint ((r.visit v).deliveries later)) ∧
      (r.visit v).Spared later := by
  constructor
  · intro h
    refine ⟨h [] v later rfl, fun earlier v' later' heq => h (v :: earlier) v' later' ?_⟩
    rw [heq, List.cons_append]
  · rintro ⟨hfirst, hrest⟩ earlier v' later' heq
    cases earlier with
    | nil =>
      obtain ⟨rfl, rfl⟩ := List.cons.inj heq
      exact hfirst
    | cons v₀ earlier =>
      obtain ⟨rfl, rfl⟩ := List.cons.inj heq
      exact hrest earlier v' later' rfl

/-- No copy is delivered twice just when those that were not cleared away are spared. -/
lemma nodup_deliveries_iff (r : Roll) (visits : List Visit) :
    (r.deliveries visits).Nodup ↔ r.Spared visits := by
  induction visits generalizing r with
  | nil => exact ⟨fun _ => r.spared_nil, fun _ => .nil⟩
  | cons v later ih =>
    rw [deliveries, List.nodup_append', spared_cons, ih, and_iff_right (r.nodup_delivered v),
      and_comm]
    refine and_congr_left fun _ => ⟨fun h _ => h, fun h => ?_⟩
    cases hcleared : v.cleared with
    | true => exact disjoint_cleared hcleared later
    | false => exact h hcleared

end Roll
end Pinboard.Schedule
