import Pinboard.Proofs.Builtin.Snapshot
import Pinboard.Proofs.Resolution.DirectCalls
import Pinboard.Proofs.Text.Percent

/-!
# The pin opened last, inside a text

The name and the target of the pin opened last are put into a text percent-encoded. They are read
back from what stands there, and no brace comes with them into the text, whatever they contain.
-/
namespace Pinboard.Builtin

open Markup Text

variable {σ : Type} (services : Services σ)

/-- The directives that report the pin opened last, with the part of it that each gives. -/
def lastPinReports : List (Directive σ × (Pin → String)) :=
  [(previousPinName services, Pin.name), (previousPinTarget services, Pin.target)]

/-- In this state the stored id of the pin opened last is the id of a stored pin and of no other
one. Looking both up leads to another state. -/
structure OpenedLast (p : Pin) (w w' : σ) : Prop where
  id_ne : p.id ≠ ""
  found : ∃ pins between,
    (services.storage.get? Stored.lastPinKey).run.run w = (.ok (some (.str p.id)), between) ∧
      services.pins.list.run.run between = (.ok pins, w') ∧
      p ∈ pins ∧ ∀ q ∈ pins, q.id = p.id → q = p

variable {services} {d : Directive σ} {part : Pin → String}

/-- What a part of the pin opened last is put into a text as; nothing if there is no such pin. -/
def encodedPart (part : Pin → String) (last : Option Pin) : String :=
  (last.map fun p => percentEncode (part p)).getD ""

lemma mem_lastPinReports : (d, part) ∈ lastPinReports services ↔
    (d = previousPinName services ∧ part = Pin.name) ∨
      (d = previousPinTarget services ∧ part = Pin.target) := by
  simp [lastPinReports]

/-- The directives are alike but for their name and the part. -/
lemma handler_lastPinReport (hreport : (d, part) ∈ lastPinReports services) (m : Occurrence)
    (context : Context) (reentry : Option (Reentry σ)) :
    d.handler m context reentry =
      lastPin? services >>= fun last => pure (remembered d.name (encodedPart part last)) := by
  rcases mem_lastPinReports.mp hreport with ⟨rfl, rfl⟩ | ⟨rfl, rfl⟩ <;> rfl

lemma isPlainReading_lastPinReport (hreport : (d, part) ∈ lastPinReports services) :
    d.constant = true ∧ d.rules = [] ∧ d.eager = false := by
  rcases mem_lastPinReports.mp hreport with ⟨rfl, rfl⟩ | ⟨rfl, rfl⟩ <;> exact ⟨rfl, rfl, rfl⟩

/-! ## The look-up -/

section LookUp

variable {p : Pin} {w w' : σ}

lemma OpenedLast.run_lastPin? (h : OpenedLast services p w w') :
    (lastPin? services).run.run w = (.ok (some p), w') := by
  obtain ⟨pins, between, hid, hpins, hmem, hunique⟩ := h.found
  have hnonempty : Json.isTrue (.str p.id) = true := by
    simpa [Json.isTrue, String.isEmpty_iff] using h.id_ne
  have hlast : (LastPin.get? services.storage).run.run w = (.ok (some (.str p.id)), between) := by
    rw [LastPin.get?, Action.run_bind_ok hid, Option.filter_some, if_pos hnonempty]
    rfl
  have hfound : pins.find? (fun q => Json.same (.str q.id) (.str p.id)) = some p := by
    cases hq : pins.find? (fun q => Json.same (.str q.id) (.str p.id)) with
    | none => exact absurd (List.find?_eq_none.mp hq p hmem) (by simp [Json.same])
    | some q =>
      have hsame : q.id = p.id := by simpa [Json.same] using List.find?_some hq
      rw [hunique q (List.mem_of_find?_eq_some hq) hsame]
  rw [lastPin?, Action.run_bind_ok hlast]
  exact (Action.run_bind_ok hpins).trans (congrArg (fun found => (Except.ok found, w')) hfound)

lemma OpenedLast.run_report (h : OpenedLast services p w w')
    (hreport : (d, part) ∈ lastPinReports services) (m : Occurrence) (context : Context)
    (reentry : Option (Reentry σ)) :
    (d.run m context reentry).run w = (remembered d.name (percentEncode (part p)), w') := by
  refine Action.run_orElse_ok ?_
  rw [handler_lastPinReport hreport, Action.run_bind_ok h.run_lastPin?]
  rfl

end LookUp

/-- A reply that is the encoding of some text and leaves nothing else in the context. -/
structure RepliesEncoded (name : String) (reply : Reply) : Prop where
  encodes : ∃ s, Encodes s reply.text
  itself : ∀ output ∈ reply.outputs, output = (name, reply.text)

lemma repliesEncoded_nothing (name : String) : RepliesEncoded name Reply.nothing where
  encodes := ⟨"", encodes_percentEncode ""⟩
  itself output houtput := by cases houtput

lemma repliesEncoded_remembered (name s : String) :
    RepliesEncoded name (remembered name (percentEncode s)) where
  encodes := ⟨s, encodes_percentEncode s⟩
  itself _ houtput := List.mem_singleton.mp houtput

/-- So are all replies, whichever pin was opened last. Without one, or after a fault, the empty text
is encoded. -/
lemma repliesEncoded_of_replies (hreport : (d, part) ∈ lastPinReports services)
    {reentry : Option (Reentry σ)} {reply : Reply} (h : d.Replies reentry reply) :
    RepliesEncoded d.name reply := by
  obtain ⟨m, context, w, rfl⟩ := h
  have hyields : (d.handler m context reentry).Yields (RepliesEncoded d.name) := by
    rw [handler_lastPinReport hreport]
    refine Action.yields_bind fun last => Action.yields_pure ?_
    cases last with
    | none => exact repliesEncoded_remembered d.name ""
    | some p => exact repliesEncoded_remembered d.name (part p)
  exact hyields.run_orElse (repliesEncoded_nothing d.name) w

/-! ## Inside a text -/

/-- No brace of the new characters is in the text with a replacement made. -/
lemma braces_splice {s result : String} (h : Encodes s result) (text : List Char)
    (m : Occurrence) :
    braces (Sweep.splice text m result) =
      braces (text.take m.start) ++ braces (text.drop m.stop) := by
  rw [Sweep.splice, braces_append, braces_append, h.uri.braces_eq_nil, List.append_nil]

lemma unmarked_of_encodes {s value : String} (h : Encodes s value) :
    hasMarker value.toList = false := by
  have hnone : '\x7b' ∉ value.toList := fun hmem => by
    have hkept : '\x7b' ∈ braces value.toList := List.mem_filter.mpr ⟨hmem, by decide⟩
    rw [h.uri.braces_eq_nil] at hkept
    cases hkept
  have hend : hasMarker [] = false := rfl
  simpa using hasMarker_append_of_notMem hnone hend

section Resolution

variable {p : Pin} {w w' : σ} {r : Resolver σ} {context : Context}

/-- An occurrence that is the whole text is resolved to the encoded part. -/
lemma OpenedLast.course_marked (h : OpenedLast services p w w')
    (hreport : (d, part) ∈ lastPinReports services) (hd : d ∈ r.registry.directives)
    (hplain : ∀ d ∈ r.registry.directives, ∀ s ∈ d.spellings, IsPlain s) {s : String}
    (hs : s ∈ d.spellings) (reentry : Option (Reentry σ))
    (hvalue : context.values.get? d.name = none) (hlimit : 0 < r.limitIn context) :
    ∃ context', r.Course reentry (marked s) context w
      [[(d.name, .handled ((bareHead s (hplain d hd s hs)).occurrence 0 none)
        (remembered d.name (percentEncode (part p))))]]
      (percentEncode (part p), context') w' := by
  obtain ⟨hconstant, hrules, hinward⟩ := isPlainReading_lastPinReport hreport
  obtain ⟨hfind, before, after, hordered, hbefore⟩ :=
    r.registry.find?_marked hplain hd hinward hs
  let m := (bareHead s (hplain d hd s hs)).occurrence 0 none
  have hstop : m.stop = (marked s).toList.length := by
    simp [m, Head.occurrence, block_bare]
  have hunknown : d.known? context [] m = none := by
    rw [Directive.known?_uncached hconstant rfl, if_pos ⟨rfl, rfl⟩]
    exact hvalue
  have hcall : d.Calls reentry m context w (.handled m (remembered d.name (percentEncode (part p))))
      (percentEncode (part p)) w' :=
    .handled (Directive.applies_of_unruled hrules _ _ _) (h.run_report hreport m context reentry)
  exact Resolver.Course.of_whole hordered hbefore hfind rfl hstop hunknown hcall
    (unmarked_of_encodes (encodes_percentEncode _)) hlimit

end Resolution

/-- In this state the directive gives this value for a text, whatever the occurrence. The text can be
read from the value, and an occurrence that is the whole text to be resolved is replaced by the value
at once, unless the context has another one. -/
structure Reports (d : Directive σ) (s value : String) (w w' : σ) : Prop where
  encodes : Encodes s value
  run_eq : ∀ m context reentry, (d.run m context reentry).run w = (remembered d.name value, w')
  resolved : ∀ r : Resolver σ, d ∈ r.registry.directives →
    (∀ d' ∈ r.registry.directives, ∀ s ∈ d'.spellings, IsPlain s) →
    ∀ s ∈ d.spellings, ∀ reentry context, context.values.get? d.name = none →
      0 < r.limitIn context →
        ∃ context', (r.resolveIn reentry (marked s) context).run w = ((value, context'), w')

lemma OpenedLast.reports {p : Pin} {w w' : σ} (h : OpenedLast services p w w')
    (hreport : (d, part) ∈ lastPinReports services) :
    Reports d (part p) (percentEncode (part p)) w w' where
  encodes := encodes_percentEncode (part p)
  run_eq := h.run_report hreport
  resolved r hd hplain s hs reentry context hvalue hlimit := by
    obtain ⟨context', hcourse⟩ := h.course_marked hreport hd hplain hs reentry hvalue hlimit
    exact ⟨context', hcourse.resolveIn_eq⟩

/-- The name or target of the pin opened last is reported as a value from which it can be read.
Different names or targets are reported as different values, also from other services and states. In
a resolution of any text the occurrences are replaced by what the directive gave, the caller or
another directive, and what it gave brings no brace into the text. -/
theorem resolveIn_lastPin (hreport : (d, part) ∈ lastPinReports services) :
    (∀ p w w', OpenedLast services p w w' → ∃ value, Reports d (part p) value w w' ∧
      ∀ (services' : Services σ) d' part', (d', part') ∈ lastPinReports services' →
        ∀ q v v', OpenedLast services' q v v' → ∀ m context reentry,
          ((d'.run m context reentry).run v).1.text = value ↔ part' q = part p) ∧
    ∀ r : Resolver σ, d ∈ r.registry.directives → ∀ reentry text context w,
      ∃ logs text' context' w', r.Course reentry text context w logs (text', context') w' ∧
        (r.resolveIn reentry text context).run w = ((text', context'), w') ∧
        text'.toList = textAfter text.toList logs.flatten ∧
        ∀ earlier t later m result, logs.flatten = earlier ++ (d.name, t) :: later →
          t.replacement? = some (m, result) →
            (d.Gives reentry result ∨ context.values.get? d.name = some result ∨
              ∃ e ∈ earlier, e.1 ≠ d.name ∧ (d.name, result) ∈ e.2.outputs) ∧
            (d.Gives reentry result →
              braces (Sweep.splice (textAfter text.toList earlier) m result) =
                braces ((textAfter text.toList earlier).take m.start) ++
                  braces ((textAfter text.toList earlier).drop m.stop)) := by
  refine ⟨fun p w w' hp => ?_, fun r hd reentry text context w => ?_⟩
  · refine ⟨percentEncode (part p), hp.reports hreport, ?_⟩
    intro services' d' part' hreport' q v v' hq m context reentry
    rw [hq.run_report hreport']
    exact percentEncode_injective.eq_iff
  · obtain ⟨logs, ⟨text', context'⟩, w', hcourse⟩ := Resolver.Course.total r reentry text context w
    refine ⟨logs, text', context', w', hcourse, hcourse.resolveIn_eq, hcourse.explains.text_eq, ?_⟩
    intro earlier t later m result hlogs ht
    have hitself : d.RemembersItself := fun _ _ hreply =>
      (repliesEncoded_of_replies hreport hreply).itself
    -- The state in which it was given is of no matter: in any other it would encode a text, too.
    refine ⟨hcourse.replacement_stems hd hitself hlogs ht, fun ⟨reply, hreply, hresult⟩ => ?_⟩
    obtain ⟨s, hs⟩ := (repliesEncoded_of_replies hreport hreply).encodes
    rw [hresult] at hs
    exact braces_splice hs _ m

/-! ## A name with markers -/

/-- A pin whose name has an occurrence of a directive, an escape, and characters of two and of four
octets. -/
def markedPin : Pin := .new ⟨"p", Journal.noon⟩ "\x7b\x7bday\x7d\x7d %41 é😀" "" noGroup

def markedPinServices : Services Journal :=
  { Journal.servicesAt Journal.noon with
    pins := { Journal.noItems with list := pure [markedPin] } }

/-- A journal in which the pin was opened. -/
def markedPinOpened : Journal := [(Stored.lastPinKey, .str "p")]

def lastPinNames : Resolver Journal := ⟨⟨[previousPinName markedPinServices], rfl⟩, none⟩

lemma openedLast_markedPin :
    OpenedLast markedPinServices markedPin markedPinOpened markedPinOpened where
  id_ne := by decide
  found := ⟨[markedPin], markedPinOpened, rfl, rfl, List.mem_cons_self,
    fun _ hq _ => List.mem_singleton.mp hq⟩

/-- The whole text, under an alias. -/
def lastPinNameAlone : Occurrence := (bareHead "lastPinName" (by decide)).occurrence 0 none

def markedPinEncoded : String := "%7B%7Bday%7D%7D%20%2541%20%C3%A9%F0%9F%98%80"

/-- Markers, spaces, percent signs and the characters beyond ASCII are escaped, and the markers of
the occurrence leave with it. -/
theorem resolveIn_lastPin_markedPin :
    OpenedLast markedPinServices markedPin markedPinOpened markedPinOpened ∧
    (∃ context', (lastPinNames.resolveIn none (marked "lastPinName") bareContext).run
      markedPinOpened = ((markedPinEncoded, context'), markedPinOpened)) ∧
    braces (Sweep.splice (marked "lastPinName").toList lastPinNameAlone markedPinEncoded) = [] := by
  have hreport : (previousPinName markedPinServices, Pin.name) ∈ lastPinReports markedPinServices :=
    List.mem_cons_self
  have hencoded : percentEncode markedPin.name = markedPinEncoded := by decide
  have hrun := openedLast_markedPin.run_report hreport lastPinNameAlone bareContext none
  obtain ⟨hvalue, hcourse⟩ := resolveIn_lastPin hreport
  refine ⟨openedLast_markedPin, ?_, ?_⟩
  · obtain ⟨value, hreports, -⟩ := hvalue _ _ _ openedLast_markedPin
    have hsame : value = percentEncode markedPin.name :=
      congrArg (·.1.text) ((hreports.run_eq lastPinNameAlone bareContext none).symm.trans hrun)
    rw [← hencoded, ← hsame]
    exact hreports.resolved lastPinNames List.mem_cons_self (by decide) "lastPinName" (by decide) none
      bareContext rfl (by decide)
  · obtain ⟨logs, text', context', w', hlogs, -, -, hbraces⟩ := hcourse lastPinNames
      List.mem_cons_self none (marked "lastPinName") bareContext markedPinOpened
    obtain ⟨context'', hmarked⟩ : ∃ context'', lastPinNames.Course none (marked "lastPinName")
        bareContext markedPinOpened [[("previousPinName", .handled lastPinNameAlone
          (remembered "previousPinName" (percentEncode markedPin.name)))]]
        (percentEncode markedPin.name, context'') markedPinOpened :=
      openedLast_markedPin.course_marked hreport List.mem_cons_self (by decide) (by decide) none rfl
        (by decide)
    obtain ⟨rfl, -, -⟩ := hlogs.unique hmarked
    rw [← hencoded]
    exact (hbraces [] _ [] lastPinNameAlone _ rfl rfl).2
      ⟨_, ⟨lastPinNameAlone, bareContext, markedPinOpened, rfl⟩, by rw [hrun]; rfl⟩

end Pinboard.Builtin
