import Pinboard.Builtin.Catalogue
import Pinboard.Proofs.Action
import Pinboard.Proofs.Markup.Escaping
import Pinboard.Proofs.Resolution.Replacements
import Pinboard.Proofs.Resolution.Settled
import Pinboard.Proofs.Schedule.Journal

/-!
# Listings inside a text

The listings of pins and groups put stored data into a text with its markers escaped. What they give
has no opening marker, so an occurrence that opens on a character of it opens at one of its ends,
with a brace of the data next to a brace of the text. The listings in JSON begin or end with a brace
only where one pin is printed, and the spelling behind that brace would begin with a quotation mark.
-/
namespace Pinboard.Builtin

open Markup

variable {σ : Type} (services : Services σ)

/-- The directives that report stored pins and groups as they are now. -/
def listings : List (Directive σ) :=
  [pinNames services, pinTargets services, pins services, groupNames services, groups services,
    pinJSON services]

lemma listings_subset : listings services ⊆ directives services := by
  intro d hd
  have hstored : d ∈ stored services := by
    simp only [listings, stored, List.mem_cons, List.not_mem_nil] at hd ⊢
    tauto
  simp only [directives, List.mem_append]
  exact .inl (.inl (.inl (.inr hstored)))

/-- What is known of a text that a listing gives. -/
structure Guarded (name : String) (cs : List Char) : Prop where
  unmarked : hasMarker cs = false
  /-- A list in JSON has no brace at its ends. -/
  bracketed : name = "pins" ∨ name = "groups" →
    cs.head? ≠ some '\x7b' ∧ cs.getLast? ≠ some '\x7b'
  /-- A pin in JSON has a key behind its opening brace. -/
  quoted : name = "pinJSON" → cs.getLast? ≠ some '\x7b' ∧
    (cs.head? = some '\x7b' → ∃ rest, cs = '\x7b' :: '"' :: rest)

lemma guarded_nil (name : String) : Guarded name [] :=
  ⟨rfl, fun _ => ⟨by simp, by simp⟩, fun _ => ⟨by simp, by simp⟩⟩

lemma hasMarker_escapeWith {opening closing : String}
    (hopening : opening.toList ≠ [] ∧ '\x7b' ∉ opening.toList)
    (hclosing : closing.toList ≠ [] ∧ '\x7b' ∉ closing.toList) (s : String) :
    hasMarker (escapeWith opening closing s).toList = false := by
  rw [escapeWith, String.toList_ofList]
  exact hasMarker_escapeChars hopening hclosing _

lemma toList_escapeWith_print (opening closing : String) (v : Json) :
    (escapeWith opening closing v.print).toList =
      escapeChars opening.toList closing.toList v.chars := by
  rw [escapeWith, Json.print, String.toList_ofList, String.toList_ofList]

/-- A listing of names makes no promise about its ends. -/
lemma guarded_escape {name : String} (hname : name ∉ ["pins", "groups", "pinJSON"]) (s : String) :
    Guarded name (escape s).toList where
  unmarked := hasMarker_escapeWith (by decide) (by decide) s
  bracketed h := by rcases h with rfl | rfl <;> simp at hname
  quoted h := by subst h; simp at hname

lemma guarded_escape_list {name : String} (hname : name ≠ "pinJSON") (items : List Json) :
    Guarded name (escape (Json.arr items).print).toList := by
  refine ⟨hasMarker_escapeWith (by decide) (by decide) _, fun _ => ?_, fun h => absurd h hname⟩
  rw [escape, toList_escapeWith_print, Json.chars, escapeChars_concat (by decide),
    List.head?_append, escapeChars_cons (by decide), List.getLast?_concat]
  exact ⟨by simp, by decide⟩

lemma guarded_pinData (p : Pin) :
    Guarded "pinJSON" (escapeWith "[[[" "]]]" (pinData p).print).toList := by
  refine ⟨hasMarker_escapeWith (by decide) (by decide) _, fun h => absurd h (by decide),
    fun _ => ?_⟩
  obtain ⟨behind, hbehind⟩ : ∃ behind, Json.chars (pinData p) =
      '\x7b' :: '"' :: (behind ++ ['\x7d']) := ⟨_, rfl⟩
  have hlast := getLast?_escapeChars "[[[".toList (show "]]]".toList ≠ [] by decide)
    ('\x7b' :: '"' :: behind)
  rw [toList_escapeWith_print, hbehind]
  refine ⟨fun hbrace => ?_, fun _ => ⟨_, escapeChars_brace (by decide) _⟩⟩
  rcases hlast with h | h
  · exact absurd (h.symm.trans hbrace) (by decide)
  · exact absurd (h.symm.trans hbrace) (by decide)

/-! ## Written data -/

lemma written_eq_pure {v : Json} (h : v.isPrintable = true) :
    (written v : Action σ String) = pure v.print := by
  rw [written, Json.print?, if_pos h]
  rfl

lemma written_eq_throw {v : Json} (h : v.isPrintable = false) :
    (written v : Action σ String) = throw .numberTooLong := by
  rw [written, Json.print?, if_neg (by simp [h])]
  rfl

lemma yields_written {P : String → Prop} {v : Json} (h : P v.print) :
    (written v : Action σ String).Yields P := by
  cases hv : v.isPrintable with
  | true =>
    rw [written_eq_pure hv]
    exact Action.yields_pure h
  | false =>
    rw [written_eq_throw hv]
    exact Action.yields_throw _

/-! ## What the listings reply -/

/-- A reply that is guarded and remembered under no name but the listing's. -/
def RepliesGuarded (name : String) (reply : Reply) : Prop :=
  Guarded name reply.text.toList ∧ ∀ output ∈ reply.outputs, output = (name, reply.text)

lemma repliesGuarded_ofText {name text : String} (h : Guarded name text.toList) :
    RepliesGuarded name (.ofText text) :=
  ⟨h, by simp [Reply.ofText, Reply.outputs]⟩

lemma repliesGuarded_remembered {name text : String} (h : Guarded name text.toList)
    (m : Occurrence) : RepliesGuarded name (rememberedUnlessShaped m name text) := by
  refine ⟨h, fun output houtput => ?_⟩
  simp only [rememberedUnlessShaped, Reply.outputs] at houtput
  split at houtput
  · exact List.mem_singleton.mp houtput
  · cases houtput

/-- A directive whose replies are guarded. -/
def IsGuarded (d : Directive σ) : Prop :=
  ∀ reentry reply, d.Replies reentry reply → RepliesGuarded d.name reply

variable {services}

lemma isGuarded_of_yields {d : Directive σ}
    (h : ∀ m context reentry, (d.handler m context reentry).Yields (RepliesGuarded d.name)) :
    IsGuarded d := by
  rintro reentry _ ⟨m, context, w, rfl⟩
  have hnothing : RepliesGuarded d.name Reply.nothing := repliesGuarded_ofText (guarded_nil d.name)
  exact (h m context reentry).run_orElse hnothing w

section Listing

variable {name description : String} {read : Occurrence → Action σ String} {m : Occurrence}
  {w w' : σ}

lemma handler_listing_error {fault : Fault} (h : (read m).run.run w = (.error fault, w'))
    (context : Context) (reentry : Option (Reentry σ)) :
    ((listing name description read).handler m context reentry).run.run w = (.error fault, w') :=
  Action.run_bind_error h

lemma handler_listing_ok {data : String} (h : (read m).run.run w = (.ok data, w'))
    (context : Context) (reentry : Option (Reentry σ)) :
    ((listing name description read).handler m context reentry).run.run w =
      (.ok (rememberedUnlessShaped m name (escape data)), w') := by
  change (read m >>= fun data => pure (rememberedUnlessShaped m name (escape data))).run.run w = _
  rw [Action.run_bind_ok h]
  rfl

lemma run_listing {data : String} (h : (read m).run.run w = (.ok data, w')) (context : Context)
    (reentry : Option (Reentry σ)) :
    ((listing name description read).run m context reentry).run w =
      (rememberedUnlessShaped m name (escape data), w') :=
  Action.run_orElse_ok (handler_listing_ok h context reentry)

end Listing

lemma isGuarded_listing {name description : String} {read : Occurrence → Action σ String}
    (h : ∀ m, (read m).Yields fun data => Guarded name (escape data).toList) :
    IsGuarded (listing name description read) :=
  isGuarded_of_yields fun m _ _ => (h m).bind fun _ hdata =>
    Action.yields_pure (repliesGuarded_remembered hdata m)

/-- A listing of names is guarded whatever it reads. -/
lemma isGuarded_names {name description : String} (hname : name ∉ ["pins", "groups", "pinJSON"])
    (read : Occurrence → Action σ String) : IsGuarded (listing name description read) :=
  isGuarded_listing fun _ _ data _ => guarded_escape hname data

lemma isGuarded_lists {name description : String} (hname : name ≠ "pinJSON") {α : Type} [Item α]
    (read : Occurrence → Action σ (List α)) :
    IsGuarded (listing name description fun m => do
      written (Json.arr ((← read m).map Item.toJson))) :=
  isGuarded_listing fun _ => Action.yields_bind fun items =>
    yields_written (guarded_escape_list hname (items.map Item.toJson))

lemma isGuarded_pinJSON : IsGuarded (pinJSON services) := by
  refine isGuarded_of_yields fun m context reentry => ?_
  cases hpin : context.pin with
  | none =>
    simp only [pinJSON, directive, hpin]
    exact Action.yields_pure (repliesGuarded_ofText (guarded_nil _))
  | some p =>
    simp only [pinJSON, directive, hpin]
    have hwritten : ∀ q, (written (pinData q) : Action σ String).Yields fun text =>
        Guarded "pinJSON" (escapeWith "[[[" "]]]" text).toList := fun q =>
      yields_written (guarded_pinData q)
    exact Action.yields_bind fun _ => (hwritten _).bind fun _ h =>
      Action.yields_pure (repliesGuarded_ofText h)

theorem isGuarded_of_mem {d : Directive σ} (hd : d ∈ listings services) : IsGuarded d := by
  simp only [listings, List.mem_cons, List.not_mem_nil, or_false] at hd
  rcases hd with rfl | rfl | rfl | rfl | rfl | rfl
  · exact isGuarded_names (by decide) _
  · exact isGuarded_names (by decide) _
  · exact isGuarded_lists (by decide) _
  · exact isGuarded_names (by decide) _
  · exact isGuarded_lists (by decide) _
  · exact isGuarded_pinJSON

/-! ## Replaced occurrences -/

/-- An occurrence of any spellings in the text with a replacement made opens on none of the new
characters but at the ends of the replacement. -/
structure Confined (name : String) (text : List Char) (m : Occurrence) (result : String) :
    Prop where
  opens_iff : ∀ spellings last other,
    OccursIn spellings (Sweep.splice text m result) last other →
      (OpensIn m.start (m.start + result.length) other ↔
        OpensAtSeam (text.take m.start) result.toList (text.drop m.stop) other)
  bracketed : name = "pins" ∨ name = "groups" → ∀ spellings last other,
    OccursIn spellings (Sweep.splice text m result) last other →
      ¬OpensIn m.start (m.start + result.length) other
  quoted : name = "pinJSON" → ∀ spellings last other,
    OccursIn spellings (Sweep.splice text m result) last other →
      OpensIn m.start (m.start + result.length) other → other.name.toList.head? = some '"'

lemma not_endsName_quote (rest : List Char) : ¬EndsName ('"' :: rest) := by
  rintro (⟨c, tail, hcs, hc⟩ | ⟨tail, hcs⟩)
  · obtain ⟨rfl, -⟩ := List.cons.inj hcs
    revert hc
    decide
  · simp at hcs

lemma Guarded.confined {name : String} {text : List Char} {m : Occurrence} {result : String}
    (h : Guarded name result.toList) (hstart : m.start ≤ text.length) :
    Confined name text m result := by
  have hfront : (text.take m.start).length = m.start := by
    rw [List.length_take, Nat.min_eq_left hstart]
  have hopens : ∀ spellings last other,
      OccursIn spellings (Sweep.splice text m result) last other →
        (OpensIn m.start (m.start + result.length) other ↔
          OpensAtSeam (text.take m.start) result.toList (text.drop m.stop) other) := by
    intro spellings last other hother
    have hiff := hother.opensIn_iff h.unmarked
    rwa [hfront, String.length_toList] at hiff
  refine ⟨hopens, fun hname spellings last other hother hin => ?_,
    fun hname spellings last other hother hin => ?_⟩
  · obtain ⟨hhead, hlast⟩ := h.bracketed hname
    rcases (hopens _ _ _ hother).mp hin with ⟨-, -, hbrace⟩ | ⟨-, hbrace, -⟩
    · exact hhead hbrace
    · exact hlast hbrace
  · obtain ⟨hlast, hquote⟩ := h.quoted hname
    rcases (hopens _ _ _ hother).mp hin with ⟨hseam, -, hbrace⟩ | ⟨-, hbrace, -⟩
    · obtain ⟨rest, hrest⟩ := hquote hbrace
      rw [Sweep.splice, hrest] at hother
      exact hother.name_at_front hseam not_endsName_quote
    · exact absurd hbrace hlast

/-- A value under a listing's name is one that the listing gave or another directive. -/
lemma IsGuarded.gives_of_output {d : Directive σ} (h : IsGuarded d)
    {reentry : Option (Reentry σ)} {log : List Entry} {result : String}
    (hreplied : ∀ m reply, (d.name, Turn.handled m reply) ∈ log → d.Replies reentry reply)
    (houtput : (d.name, result) ∈ outputsOf log) :
    d.Gives reentry result ∨ ∃ e ∈ log, e.1 ≠ d.name ∧ (d.name, result) ∈ e.2.outputs :=
  Directive.RemembersItself.gives_of_output (fun reentry reply hreply => (h reentry reply hreply).2)
    hreplied houtput

/-- Where a listing is registered, all texts that a resolution puts in the place of its occurrences
were given by it, by the caller or by another directive. In a text with one that it gave, an
occurrence of any spellings opens on the new characters only if its opening marker is made of a
brace at one end of them and the brace next to it. After a list in JSON none does, and after a pin
in JSON only one whose spelling begins with a quotation mark. -/
theorem resolveIn_listings {r : Resolver σ} {d : Directive σ} (hd : d ∈ listings services)
    (hregistered : d ∈ r.registry.directives) (reentry : Option (Reentry σ)) (text : String)
    (context : Context) (w : σ) :
    ∃ logs text' context' w', r.Course reentry text context w logs (text', context') w' ∧
      (r.resolveIn reentry text context).run w = ((text', context'), w') ∧
      text'.toList = textAfter text.toList logs.flatten ∧
      ∀ earlier t later m result, logs.flatten = earlier ++ (d.name, t) :: later →
        t.replacement? = some (m, result) →
          Reads d.spellings (textAfter text.toList earlier)
            (textAfter text.toList earlier).length m ∧
          (d.Gives reentry result ∨ context.values.get? d.name = some result ∨
            ∃ e ∈ earlier, e.1 ≠ d.name ∧ (d.name, result) ∈ e.2.outputs) ∧
          (d.Gives reentry result →
            Confined d.name (textAfter text.toList earlier) m result) := by
  obtain ⟨logs, ⟨text', context'⟩, w', hcourse⟩ :=
    Resolver.Course.total r reentry text context w
  have hexplains := hcourse.explains
  refine ⟨logs, text', context', w', hcourse, hcourse.resolveIn_eq, hexplains.text_eq, ?_⟩
  intro earlier t later m result hlog ht
  have hsame : ∀ d' ∈ r.registry.ordered, d'.name = d.name → d' = d := fun d' hd' hname =>
    List.inj_on_of_nodup_map r.registry.nodup_names hd' (Registry.mem_ordered.mpr hregistered) hname
  obtain ⟨d', hd', hname, hreads, hstems⟩ :=
    hexplains.replaced earlier d.name t later m result hlog ht
  obtain rfl := hsame d' hd' hname
  refine ⟨hreads, ?_, fun ⟨reply, hreply, hresult⟩ => ?_⟩
  · rcases hstems with hgives | hgiven | houtput
    · exact .inl hgives
    · exact .inr (.inl hgiven)
    · have hguarded := isGuarded_of_mem hd
      refine (hguarded.gives_of_output (fun m₀ reply hmem => ?_) houtput).imp_right .inr
      exact hcourse.replies hregistered (hlog ▸ List.mem_append_left _ hmem)
  · have hguarded := (isGuarded_of_mem hd reentry reply hreply).1
    rw [hresult] at hguarded
    have hfour := hreads.1.start_add_four_le
    have hstop := hreads.1.stop_le
    exact hguarded.confined (by omega)

/-! ## A brace at the end of a name -/

/-- A pin whose name is an opening brace and the spelling of a directive. -/
def dayPin : Pin := .new ⟨"p", Journal.noon⟩ "\x7bday" "" noGroup

def dayServices : Services Journal :=
  { Journal.servicesAt Journal.noon with pins := { Journal.noItems with list := pure [dayPin] } }

/-- The names are listed between two words. -/
def namesInText : String := "see \x7b\x7bpinNames\x7d\x7d there"

/-- The names are listed between a brace and two. -/
def namesInBraces : String := "\x7b\x7b\x7bpinNames\x7d\x7d\x7d\x7d"

def namesAt (start : Nat) : Occurrence :=
  ⟨"\x7b\x7bpinNames\x7d\x7d", start, start + 12, "pinNames", [], [], none, none⟩

lemma sortByLastOpened_dayPin : sortByLastOpened [dayPin] = .ok [dayPin] := by
  simp [sortByLastOpened, comparable, dayPin, Pin.new]

/-- The name holds no marker that could be escaped. -/
lemma run_dayNames (start : Nat) (w : Journal) :
    ((pinNames dayServices).run (namesAt start) bareContext none).run w =
      (remembered "pinNames" "\x7bday", w) := by
  have hlisted : (listedPins dayServices (namesAt start)).run.run w = (.ok [dayPin], w) := rfl
  let sorted : Action Journal (List Pin) := Action.ofExcept (sortByLastOpened [dayPin])
  have hsorted : sorted.run.run w = (.ok [dayPin], w) := by
    simp only [sorted, sortByLastOpened_dayPin]
    rfl
  let read (m : Occurrence) : Action Journal String := do
    let pins ← Action.ofExcept (sortByLastOpened (← listedPins dayServices m))
    pure (Text.join ", " (pins.map (·.name)))
  have hread : (read (namesAt start)).run.run w = (.ok "\x7bday", w) := by
    simp only [read]
    rw [Action.run_bind_ok hlisted, Action.run_bind_ok hsorted]
    rfl
  exact run_listing hread bareContext none

def dayNames : Resolver Journal := ⟨⟨[pinNames dayServices], rfl⟩, none⟩

def dayContext : Context := bareContext.withOutputs [("pinNames", "\x7bday")]

lemma namesInText_course : dayNames.Course none namesInText bareContext []
    [[("pinNames", .handled (namesAt 4) (remembered "pinNames" "\x7bday"))]]
    ("see \x7bday there", dayContext) [] := by
  let start : Progress := ⟨namesInText.toList, bareContext, [], false⟩
  let swept : Sweep := ⟨"see \x7bday there".toList, dayContext, 0,
    [("\x7b\x7bpinNames\x7d\x7d", "\x7bday")], 1⟩
  have hfind : find? (pinNames dayServices).spellings true 0 namesInText.toList =
    some (namesAt 4) := rfl
  have hnone : find? (pinNames dayServices).spellings true 0 swept.text = none := rfl
  have hsweep : Sweep.Loop (pinNames dayServices) none 250 ⟨start.text, start.context, 0, [], 0⟩ []
      [.handled (namesAt 4) (remembered "pinNames" "\x7bday")] swept [] :=
    .handled (by decide) hfind rfl rfl (run_dayNames 4 []) (.absent (by decide) hnone)
  have hround : Progress.Round 250 none [pinNames dayServices] start []
      ([Turn.handled (namesAt 4) (remembered "pinNames" "\x7bday")].map ("pinNames", ·) ++ [])
      (start.after (pinNames dayServices) swept) [] :=
    .cons hsweep .nil
  have hrounds : Progress.Rounds (dayNames.limitIn bareContext) none dayNames.registry.ordered
      start [] [[("pinNames", .handled (namesAt 4) (remembered "pinNames" "\x7bday"))]]
      (start.after (pinNames dayServices) swept) [] :=
    .last hround rfl
  exact .resolved rfl hrounds

/-- The brace of the name stays in the text, and nothing opens on it there. -/
theorem resolveIn_listings_dayPin :
    pinNames dayServices ∈ listings dayServices ∧
    pinNames dayServices ∈ dayNames.registry.directives ∧
    (dayNames.resolveIn none namesInText bareContext).run [] =
      (("see \x7bday there", dayContext), []) ∧
    Confined "pinNames" namesInText.toList (namesAt 4) "\x7bday" := by
  refine ⟨List.mem_cons_self, List.mem_cons_self, namesInText_course.resolveIn_eq, ?_⟩
  obtain ⟨logs, text', context', w', hcourse, -, -, hconfined⟩ :=
    @resolveIn_listings _ dayServices dayNames _ List.mem_cons_self List.mem_cons_self none
      namesInText bareContext []
  obtain ⟨rfl, -, -⟩ := hcourse.unique namesInText_course
  exact (hconfined [] _ [] (namesAt 4) "\x7bday" rfl rfl).2.2
    ⟨_, ⟨namesAt 4, bareContext, [], rfl⟩, by rw [run_dayNames]; rfl⟩

/-- Between braces the same name makes an occurrence of another directive. -/
theorem dayPin_opens_day :
    pinNames dayServices ∈ (registry dayServices).directives ∧
    day dayServices ∈ (registry dayServices).directives ∧
    find? (pinNames dayServices).spellings true 0 namesInBraces.toList = some (namesAt 1) ∧
    ((pinNames dayServices).run (namesAt 1) bareContext none).run [] =
      (remembered "pinNames" "\x7bday", []) ∧
    ∃ other, OccursIn (day dayServices).spellings
      (Sweep.splice namesInBraces.toList (namesAt 1) "\x7bday") 7 other ∧ OpensIn 1 5 other := by
  have hfound : find? (day dayServices).spellings true 0
      (Sweep.splice namesInBraces.toList (namesAt 1) "\x7bday") =
        some ⟨"\x7b\x7bday\x7d\x7d", 0, 7, "day", [], [], none, none⟩ := rfl
  refine ⟨?_, ?_, rfl, run_dayNames 1 [], _, (find?_reads hfound).1.1,
    by decide, by decide, by decide⟩
  · exact listings_subset dayServices List.mem_cons_self
  · simp [registry, directives, ambient]

end Pinboard.Builtin
