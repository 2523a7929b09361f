import Pinboard.Proofs.Resolution.Bounds

/-!
# Where replacements come from

The log of a resolution tells how its text came about: each turn that replaces puts a text in the
place of the occurrence it found. The directive's handler gave this text, or it is a value of the
context, and then the caller gave it or a handler that ran before.
-/
namespace Pinboard

open Markup

variable {σ : Type}

lemma Fields.get?_merge {α : Type} {fields new : Fields α} {key : String} {value : α}
    (h : (fields.merge new).get? key = some value) :
    fields.get? key = some value ∨ (key, value) ∈ new := by
  induction new generalizing fields with
  | nil => exact .inl h
  | cons f new ih =>
    obtain ⟨k, v⟩ := f
    rcases ih (show ((fields.set k v).merge new).get? key = some value from h) with hset | hnew
    · rw [get?_set] at hset
      split at hset
      · rename_i hkey
        subst hkey
        obtain rfl := Option.some.inj hset
        exact .inr List.mem_cons_self
      · exact .inl hset
    · exact .inr (List.mem_cons_of_mem _ hnew)

namespace Turn

/-- The occurrence that a turn replaced and the text that took its place. -/
def replacement? : Turn → Option (Occurrence × String)
  | .refused _ => none
  | .known m result => some (m, result)
  | .handled m reply => some (m, reply.text)

/-- The values that a turn gave for the context. -/
def outputs : Turn → Fields String
  | .handled _ reply => reply.outputs
  | _ => []

/-- What a turn makes of a text. -/
def after (text : List Char) (t : Turn) : List Char :=
  match t.replacement? with
  | none => text
  | some (m, result) => Sweep.splice text m result

end Turn

/-- What the turns of a log make of a text. -/
def textAfter (text : List Char) (log : List Entry) : List Char :=
  log.foldl (fun text e => e.2.after text) text

/-- The values that the turns of a log gave for the context. -/
def outputsOf (log : List Entry) : Fields String := log.flatMap fun e => e.2.outputs

namespace Directive

/-- The directive can reply this to some occurrence. -/
def Replies (d : Directive σ) (reentry : Option (Reentry σ)) (reply : Reply) : Prop :=
  ∃ m context w, ((d.run m context reentry).run w).1 = reply

/-- The directive can give this text. -/
def Gives (d : Directive σ) (reentry : Option (Reentry σ)) (result : String) : Prop :=
  ∃ reply, d.Replies reentry reply ∧ reply.text = result

/-- The directive leaves nothing in the context but what it gave, under its own name. -/
def RemembersItself (d : Directive σ) : Prop :=
  ∀ reentry reply, d.Replies reentry reply →
    ∀ output ∈ reply.outputs, output = (d.name, reply.text)

/-- A value under the name of such a directive is one that it gave or another directive. -/
lemma RemembersItself.gives_of_output {d : Directive σ} (h : d.RemembersItself)
    {reentry : Option (Reentry σ)} {log : List Entry} {result : String}
    (hreplied : ∀ m reply, (d.name, Turn.handled m reply) ∈ log → d.Replies reentry reply)
    (houtput : (d.name, result) ∈ outputsOf log) :
    d.Gives reentry result ∨ ∃ e ∈ log, e.1 ≠ d.name ∧ (d.name, result) ∈ e.2.outputs := by
  obtain ⟨⟨name, turn⟩, he, hmem⟩ := List.mem_flatMap.mp houtput
  rcases eq_or_ne name d.name with rfl | hother
  · cases turn with
    | refused m => cases hmem
    | known m known => cases hmem
    | handled m reply =>
      have hreply := hreplied m reply he
      obtain ⟨-, hresult⟩ := Prod.mk.inj (h reentry reply hreply _ hmem)
      exact .inl ⟨reply, hreply, hresult.symm⟩
  · exact .inr ⟨(name, turn), he, hother, hmem⟩

end Directive

/-- A log explains a text and a context that a resolution came to: where its replacements were made,
and where their texts and the context's values come from. -/
structure Explains (reentry : Option (Reentry σ)) (ds : List (Directive σ)) (start : List Char)
    (given : Context) (log : List Entry) (text : List Char) (context : Context) : Prop where
  text_eq : text = textAfter start log
  values : ∀ key value, context.values.get? key = some value →
    given.values.get? key = some value ∨ (key, value) ∈ outputsOf log
  replied : ∀ name m reply, (name, Turn.handled m reply) ∈ log →
    ∃ d ∈ ds, d.name = name ∧ d.Replies reentry reply
  replaced : ∀ earlier name t later m result, log = earlier ++ (name, t) :: later →
    t.replacement? = some (m, result) → ∃ d ∈ ds, d.name = name ∧
      Reads d.spellings (textAfter start earlier) (textAfter start earlier).length m ∧
      (d.Gives reentry result ∨ given.values.get? d.name = some result ∨
        (d.name, result) ∈ outputsOf earlier)

section Steps

variable {reentry : Option (Reentry σ)} {ds : List (Directive σ)} {start : List Char}
  {given : Context} {log : List Entry} {text : List Char} {context : Context}

/-- One more turn. -/
lemma Explains.turn (h : Explains reentry ds start given log text context) {d : Directive σ}
    (hd : d ∈ ds) (t : Turn) {context' : Context}
    (hvalues : ∀ key value, context'.values.get? key = some value →
      context.values.get? key = some value ∨ (key, value) ∈ t.outputs)
    (hreplied : ∀ m reply, t = .handled m reply → d.Replies reentry reply)
    (hreplaced : ∀ m result, t.replacement? = some (m, result) →
      Reads d.spellings text text.length m ∧
        (d.Gives reentry result ∨ context.values.get? d.name = some result)) :
    Explains reentry ds start given (log ++ [(d.name, t)]) (t.after text) context' where
  text_eq := by
    rw [h.text_eq, textAfter, textAfter, List.foldl_append]
    rfl
  values key value hvalue := by
    rw [outputsOf, List.flatMap_append, List.mem_append]
    rcases hvalues key value hvalue with hold | hnew
    · exact (h.values key value hold).imp_right .inl
    · exact .inr (.inr (by simpa using hnew))
  replied name m reply hmem := by
    rcases List.mem_append.mp hmem with hold | hnew
    · exact h.replied name m reply hold
    · obtain ⟨rfl, ht⟩ := Prod.mk.inj (List.mem_singleton.mp hnew)
      exact ⟨d, hd, rfl, hreplied m reply ht.symm⟩
  replaced earlier name t' later m result hlog ht' := by
    rcases List.eq_nil_or_concat later with rfl | ⟨later, e, rfl⟩
    · obtain ⟨rfl, he⟩ := List.append_inj' hlog rfl
      obtain ⟨rfl, rfl⟩ := Prod.mk.inj (List.singleton_inj.mp he)
      obtain ⟨hreads, hstems⟩ := hreplaced m result ht'
      rw [← h.text_eq]
      exact ⟨d, hd, rfl, hreads, hstems.imp_right (h.values _ _)⟩
    · rw [List.concat_eq_append, ← List.cons_append, ← List.append_assoc] at hlog
      exact h.replaced earlier name t' later m result (List.append_inj' hlog rfl).1 ht'

lemma Directive.known?_stems {d : Directive σ} {cache : Fields String} {m : Occurrence}
    {result : String} (h : d.known? context cache m = some result) :
    cache.get? m.text = some result ∨ context.values.get? d.name = some result := by
  unfold known? at h
  split at h
  · split at h
    · exact .inl (h ▸ ‹_›)
    · split at h
      · exact .inr h
      · cases h
  · cases h

namespace Sweep

variable {s : Sweep} {d : Directive σ} {m : Occurrence} {reply : Reply} {key value : String}

lemma learn_values (h : (s.learn d m reply).context.values.get? key = some value) :
    s.context.values.get? key = some value ∨ (key, value) ∈ reply.outputs := by
  simp only [learn] at h
  split at h
  · exact .inl h
  · exact Fields.get?_merge h

lemma learn_cache (h : (s.learn d m reply).cache.get? key = some value) :
    s.cache.get? key = some value ∨ value = reply.text := by
  simp only [learn] at h
  split at h
  · rw [Fields.get?_set] at h
    split at h
    · exact .inr (Option.some.inj h).symm
    · exact .inl h
  · exact .inl h

end Sweep

end Steps

section Runs

variable {reentry : Option (Reentry σ)} {ds : List (Directive σ)} {start : List Char}
  {given : Context}

lemma Sweep.Loop.explains {d : Directive σ} {allowance : Nat} {s s' : Sweep} {w w' : σ}
    {turns : List Turn} {log : List Entry} (hd : d ∈ ds)
    (hrun : Loop d reentry allowance s w turns s' w')
    (h : Explains reentry ds start given log s.text s.context)
    (hcache : ∀ key result, s.cache.get? key = some result → d.Gives reentry result) :
    Explains reentry ds start given (log ++ turns.map (d.name, ·)) s'.text s'.context := by
  induction hrun generalizing log with
  | spent | absent => simpa using h
  | @refused s s' w w₁ w' m turns _ hfind _ _ _ ih =>
    have hnext := h.turn hd (.refused m) (fun _ _ => .inl) (by simp) fun _ _ ht => by cases ht
    rw [List.map_cons, List.append_cons]
    exact ih hnext hcache
  | @known s s' w w' m result turns _ hfind hknown _ ih =>
    have hnext := h.turn hd (.known m result) (fun _ _ => .inl) (by simp) fun _ _ ht => by
      obtain ⟨rfl, rfl⟩ := Prod.mk.inj (Option.some.inj ht)
      exact ⟨(find?_reads hfind).1, (Directive.known?_stems hknown).imp_left (hcache _ _)⟩
    rw [List.map_cons, List.append_cons]
    exact ih hnext hcache
  | @handled s s' w w₁ w₂ w' m reply turns _ hfind _ _ hreply _ ih =>
    have hreplies : d.Replies reentry reply := ⟨m, s.context, w₁, by rw [hreply]⟩
    have hvalues : ∀ key value, (s.learn d m reply).context.values.get? key = some value →
        s.context.values.get? key = some value ∨ (key, value) ∈ (Turn.handled m reply).outputs :=
      fun _ _ => learn_values
    have hreplied : ∀ m' reply', Turn.handled m reply = .handled m' reply' →
        d.Replies reentry reply' := fun m' reply' hsame => by
      cases hsame
      exact hreplies
    have hnext := h.turn hd (.handled m reply) hvalues hreplied fun _ _ ht => by
      obtain ⟨rfl, rfl⟩ := Prod.mk.inj (Option.some.inj ht)
      exact ⟨(find?_reads hfind).1, .inl ⟨reply, hreplies, rfl⟩⟩
    rw [List.map_cons, List.append_cons]
    refine ih hnext fun key result hresult => ?_
    rcases learn_cache hresult with hold | rfl
    · exact hcache key result hold
    · exact ⟨reply, hreplies, rfl⟩

lemma Progress.Round.explains {limit : Nat} {ds' : List (Directive σ)} {p p' : Progress}
    {w w' : σ} {log log' : List Entry} (hds : ds' ⊆ ds)
    (hrun : Round limit reentry ds' p w log' p' w')
    (h : Explains reentry ds start given log p.text p.context) :
    Explains reentry ds start given (log ++ log') p'.text p'.context := by
  induction hrun generalizing log with
  | nil => simpa using h
  | cons first _ ih =>
    rw [← List.append_assoc]
    exact ih (fun d hd => hds (List.mem_cons_of_mem _ hd))
      (first.explains (hds List.mem_cons_self) h fun _ _ hnone => by cases hnone)

lemma Progress.Rounds.explains {limit : Nat} {p p' : Progress} {w w' : σ} {log : List Entry}
    {logs : List (List Entry)} (hrun : Rounds limit reentry ds p w logs p' w')
    (h : Explains reentry ds start given log p.text p.context) :
    Explains reentry ds start given (log ++ logs.flatten) p'.text p'.context := by
  induction hrun generalizing log with
  | last round _ =>
    rw [List.flatten_singleton]
    exact round.explains (List.Subset.refl _) h
  | more round _ _ ih =>
    rw [List.flatten_cons, ← List.append_assoc]
    exact ih (round.explains (List.Subset.refl _) h)

/-- The log of a resolution explains the text and the context that it gives. -/
theorem Resolver.Course.explains {r : Resolver σ} {text : String} {context : Context} {w w' : σ}
    {logs : List (List Entry)} {result : String × Context}
    (h : r.Course reentry text context w logs result w') :
    Explains reentry r.registry.ordered text.toList context logs.flatten result.1.toList
      result.2 := by
  have hstart : Explains reentry r.registry.ordered text.toList context [] text.toList context :=
    ⟨rfl, fun _ _ => .inl, by simp, by simp⟩
  cases h with
  | unmarked _ => exact hstart
  | resolved _ rounds => simpa using rounds.explains hstart

/-- What the log says that a directive's handler replied is something that it can reply. -/
lemma Resolver.Course.replies {r : Resolver σ} {d : Directive σ} (hd : d ∈ r.registry.directives)
    {text : String} {context : Context} {w w' : σ} {logs : List (List Entry)}
    {result : String × Context} (h : r.Course reentry text context w logs result w')
    {m : Occurrence} {reply : Reply} (hmem : (d.name, Turn.handled m reply) ∈ logs.flatten) :
    d.Replies reentry reply := by
  obtain ⟨d', hd', hname, hreply⟩ := h.explains.replied d.name m reply hmem
  obtain rfl : d' = d := List.inj_on_of_nodup_map r.registry.nodup_names hd'
    (Registry.mem_ordered.mpr hd) hname
  exact hreply

/-- A directive that remembers itself gave the texts that take the place of its occurrences, or the
caller did or another directive before. -/
lemma Resolver.Course.replacement_stems {r : Resolver σ} {d : Directive σ}
    (hd : d ∈ r.registry.directives) (hitself : d.RemembersItself) {text : String}
    {context : Context} {w w' : σ} {logs : List (List Entry)} {result : String × Context}
    (h : r.Course reentry text context w logs result w') {earlier later : List Entry} {t : Turn}
    {m : Occurrence} {put : String} (hlogs : logs.flatten = earlier ++ (d.name, t) :: later)
    (ht : t.replacement? = some (m, put)) :
    d.Gives reentry put ∨ context.values.get? d.name = some put ∨
      ∃ e ∈ earlier, e.1 ≠ d.name ∧ (d.name, put) ∈ e.2.outputs := by
  obtain ⟨d', hd', hname, -, hstems⟩ := h.explains.replaced earlier d.name t later m put hlogs ht
  obtain rfl : d' = d := List.inj_on_of_nodup_map r.registry.nodup_names hd'
    (Registry.mem_ordered.mpr hd) hname
  rcases hstems with hgives | hgiven | houtput
  · exact .inl hgives
  · exact .inr (.inl hgiven)
  · refine (hitself.gives_of_output (fun m' reply hmem => ?_) houtput).imp_right .inr
    exact h.replies hd (hlogs ▸ List.mem_append_left _ hmem)

end Runs

end Pinboard
