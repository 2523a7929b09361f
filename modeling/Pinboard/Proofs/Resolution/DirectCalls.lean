import Pinboard.Builtin.Catalogue
import Pinboard.Proofs.Markup.Arguments
import Pinboard.Proofs.Registry
import Pinboard.Proofs.Resolution.Settled
import Pinboard.Proofs.Template.Evaluation

/-!
# Direct calls

A directive can be run on a call without any text around it. If the call stands alone in a text and
no value is known for it, the resolver puts in its place what the direct call gives, and the handler
runs once in either.
-/
namespace Pinboard

open Markup

variable {σ : Type}

/-- A text that is one occurrence of one of some spellings, with no marker inside. -/
structure Markup.StandsAlone (spellings : List String) (text : List Char) (m : Occurrence) :
    Prop where
  reads : Reads spellings text text.length m
  start : m.start = 0
  stop : m.stop = text.length
  unmarked : hasMarker (text.drop 2) = false

namespace Directive

/-- The handler learns the arguments only by asking for them, so that it makes no difference whether
they were kept or are split off the body. -/
def AsksForArguments (d : Directive σ) : Prop :=
  ∀ (m : Occurrence) (args : List String),
    (∀ count, ({ m with callArgs := some args } : Occurrence).arguments count = m.arguments count) →
      d.handler { m with callArgs := some args } = d.handler m

/-- A direct call of a directive, with the turn it takes and the text it gives. -/
inductive Calls (d : Directive σ) (reentry : Option (Reentry σ)) (m : Occurrence)
    (context : Context) : σ → Turn → String → σ → Prop
  | refused {w w' : σ} (hrules : (d.applies m.text context).run w = (false, w')) :
      Calls d reentry m context w (.refused m) "" w'
  | handled {w w₁ w' : σ} {reply : Reply}
      (hrules : (d.applies m.text context).run w = (true, w₁))
      (hrun : (d.run m context reentry).run w₁ = (reply, w')) :
      Calls d reentry m context w (.handled m reply) reply.text w'

variable {d : Directive σ} {reentry : Option (Reentry σ)} {m : Occurrence} {context : Context}
  {w w' : σ} {turn : Turn} {value : String}

lemma Calls.invokeOn_eq (h : d.Calls reentry m context w turn value w') :
    (Resolver.invokeOn reentry d m context).run w = (value, w') := by
  cases h with
  | refused hrules =>
    simp only [Resolver.invokeOn, StateT.run_bind, hrules]
    rfl
  | handled hrules hrun =>
    simp only [Resolver.invokeOn, StateT.run_bind, hrules]
    exact congrArg (fun x : Reply × σ => (x.1.text, x.2)) hrun

end Directive

namespace Markup.StandsAlone

variable {spellings : List String} {text : List Char} {m : Occurrence}

lemma text_eq (h : StandsAlone spellings text m) : m.text = String.ofList text := by
  rw [h.reads.1.text_eq, slice, h.start, h.stop]
  simp

/-- It is found from the outside in and from the inside out. -/
lemma find?_eq (h : StandsAlone spellings text m) (innermost : Bool) :
    find? spellings innermost 0 text = some m := by
  have hleftmost : Leftmost (Reads spellings text text.length) 0 m :=
    ⟨h.reads, Nat.zero_le _, fun _ _ _ => by rw [h.start]; exact Nat.zero_le _⟩
  cases innermost with
  | false => exact find?_false_iff.mpr hleftmost
  | true =>
    refine find?_true_iff.mpr ⟨m, hleftmost, .refl, fun inner hinner => ?_⟩
    by_contra hinside
    obtain ⟨rest, hopened⟩ := hinner.1.opened
    have hdrop : (text.drop 2).drop (inner.start - 2) = '\x7b' :: '\x7b' :: rest := by
      rw [List.drop_drop, ← hopened]
      congr 1
      have := h.start
      omega
    have hmarked := hasMarker_of_drop hdrop
    rw [h.unmarked] at hmarked
    cases hmarked

end Markup.StandsAlone

section Agreement

variable {d : Directive σ} {reentry : Option (Reentry σ)} {m : Occurrence} {context : Context}
  {w w' : σ} {reply : Reply}

/-- A resolution of a text that is one occurrence runs its handler once, and nothing is left of the
text but the reply, if no directive before it in the order finds anything there. -/
lemma Resolver.Course.of_whole {r : Resolver σ} {before after : List (Directive σ)}
    (hordered : r.registry.ordered = before ++ d :: after) {text : String}
    (hbefore : ∀ d' ∈ before, find? d'.spellings (!d'.eager) 0 text.toList = none)
    (hfind : find? d.spellings (!d.eager) 0 text.toList = some m) (hstart : m.start = 0)
    (hstop : m.stop = text.toList.length) (hunknown : d.known? context [] m = none)
    (hcall : d.Calls reentry m context w (.handled m reply) reply.text w')
    (hreply : hasMarker reply.text.toList = false) (hlimit : 0 < r.limitIn context) :
    ∃ context', r.Course reentry text context w [[(d.name, .handled m reply)]]
      (reply.text, context') w' := by
  cases hcall with
  | handled hrules hrun =>
  let start : Progress := ⟨text.toList, context, [], false⟩
  have hallowance : 0 < r.limitIn context - start.count d.name := hlimit
  obtain ⟨p', hround, htext, -⟩ := Progress.Round.of_whole (p := start) hbefore hfind hstart hstop
    hunknown hrules hrun hallowance (fun _ => find?_unmarked hreply) fun _ _ => find?_unmarked hreply
  have hend : hasMarker p'.text = false := by rw [htext, hreply]
  have hrounds : Progress.Rounds (r.limitIn context) reentry r.registry.ordered start w
      [[(d.name, .handled m reply)]] p' w' := by
    rw [hordered]
    exact .last hround (by rw [hend, Bool.and_false])
  have hcourse := Resolver.Course.resolved (find?_reads hfind).1.1.hasMarker hrounds
  rw [htext, String.ofList_toList] at hcourse
  exact ⟨p'.context, hcourse⟩

/-- So it is with a call that stands alone, if there is no other directive. -/
lemma Resolver.Course.of_call {r : Resolver σ} (honly : r.registry.directives = [d])
    {text : String} (halone : StandsAlone d.spellings text.toList m)
    (hunknown : d.known? context [] m = none)
    (hcall : d.Calls reentry m context w (.handled m reply) reply.text w')
    (hreply : hasMarker reply.text.toList = false) (hlimit : 0 < r.limitIn context) :
    ∃ context', r.Course reentry text context w [[(d.name, .handled m reply)]]
      (reply.text, context') w' := by
  have hordered : r.registry.ordered = [] ++ d :: [] := by
    have hperm := Registry.byRank_perm r.registry.directives
    rw [honly] at hperm
    rw [Registry.ordered, honly]
    exact List.perm_singleton.mp hperm
  exact Course.of_whole hordered (by simp) (halone.find?_eq _) halone.start halone.stop hunknown hcall
    hreply hlimit

/-- The rules accept a call that stands alone in a text. Given as the text, the call runs the handler
once and gives its reply; a resolution of the text with no other directive does the same, if no
value is known for the call and the reply holds no marker. Given with its arguments, none of them
with a colon, the call gives the same reply again, if the text is read back as this call. -/
theorem Resolver.invoke_agrees {r : Resolver σ} (honly : r.registry.directives = [d])
    (reentry : Option (Reentry σ)) (hlimit : 0 < r.limitIn context) {text : String}
    (halone : StandsAlone d.spellings text.toList m) (hunknown : d.known? context [] m = none)
    (haccepted : ((d.applies text context).run w).1 = true) :
    ∃ reply w',
      d.Calls reentry m context w (.handled m reply) reply.text w' ∧
      (invokeText reentry d text context).run w = (reply.text, w') ∧
      (hasMarker reply.text.toList = false → ∃ context',
        r.Course reentry text context w [[(d.name, .handled m reply)]] (reply.text, context') w' ∧
        (r.resolveIn reentry text context).run w = ((reply.text, context'), w')) ∧
      (d.AsksForArguments → ∀ name args params,
        Occurrence.ofCall name args params = { m with callArgs := some args } →
        (∀ a ∈ args, ':' ∉ a.toList) →
        d.Calls reentry (Occurrence.ofCall name args params) context w
          (.handled (Occurrence.ofCall name args params) reply) reply.text w' ∧
        (invokeOn reentry d (Occurrence.ofCall name args params) context).run w =
          (reply.text, w')) := by
  cases hrules : (d.applies text context).run w with
  | mk accepted w₁ =>
  obtain rfl : accepted = true := by rw [hrules] at haccepted; exact haccepted
  cases hrun : (d.run m context reentry).run w₁ with
  | mk reply w' =>
  have htext : m.text = text := by rw [halone.text_eq, String.ofList_toList]
  have hrules' : (d.applies m.text context).run w = (true, w₁) := by rw [htext]; exact hrules
  have hcall : d.Calls reentry m context w (.handled m reply) reply.text w' :=
    .handled hrules' hrun
  refine ⟨reply, w', hcall, ?_, fun hreply => ?_, fun hasks name args params hgiven hcolons => ?_⟩
  · rw [invokeText, halone.find?_eq]
    exact hcall.invokeOn_eq
  · obtain ⟨context', hcourse⟩ := Course.of_call honly halone hunknown hcall hreply hlimit
    exact ⟨context', hcourse, hcourse.resolveIn_eq⟩
  · have hrendered : render name args params = text :=
      (congrArg Occurrence.text hgiven).trans htext
    have hargs : ∀ a ∈ args, IsArgument a.toList := fun a ha =>
      isArgument_of_unmarked (hcolons a ha)
        (unmarked_of_part (hrendered ▸ infix_render ha) halone.unmarked)
    have hsame := hasks m args
      (arguments_kept halone.reads.1.direct (congrArg Occurrence.body hgiven).symm hargs)
    have hkept : d.Calls reentry (Occurrence.ofCall name args params) context w
        (.handled (Occurrence.ofCall name args params) reply) reply.text w' := by
      rw [hgiven]
      refine .handled hrules' ?_
      rw [Directive.run, hsame]
      exact hrun
    exact ⟨hkept, hkept.invokeOn_eq⟩

end Agreement

namespace Builtin

variable (services : Services σ)

lemma asksForArguments_setVariable : (setVariable services).AsksForArguments := by
  intro m args hsame
  simp only [setVariable, directive, hsame]

lemma asksForArguments_createPin : (createPin services).AsksForArguments := by
  intro m args hsame
  simp only [createPin, directive, hsame]
  rfl

lemma asksForArguments_movePin : (movePin services).AsksForArguments := by
  intro m args hsame
  simp only [movePin, directive, hsame]

lemma asksForArguments_ambient : ∀ d ∈ ambient services, d.AsksForArguments := by
  intro d hd
  fin_cases hd <;> exact fun _ _ _ => rfl

lemma asksForArguments_stored : ∀ d ∈ stored services, d.AsksForArguments := by
  intro d hd
  fin_cases hd <;> exact fun _ _ _ => rfl

lemma asksForArguments_effects : ∀ d ∈ effects services, d.AsksForArguments := by
  simp only [effects, List.forall_mem_cons]
  refine ⟨?_, ?_, ?_, ?_, ?_, asksForArguments_setVariable services, ?_, ?_, ?_, ?_, ?_, by simp⟩
  all_goals exact fun _ _ _ => rfl

lemma asksForArguments_interaction : ∀ d ∈ interaction services, d.AsksForArguments := by
  simp only [interaction, List.forall_mem_cons]
  refine ⟨?_, ?_, ?_, ?_, ?_, asksForArguments_createPin services, ?_,
    asksForArguments_movePin services, by simp⟩
  all_goals exact fun _ _ _ => rfl

/-- The handlers of the built-in directives ask for their arguments or take the body whole. -/
theorem asksForArguments_of_mem {d : Directive σ} (hd : d ∈ directives services) :
    d.AsksForArguments := by
  simp only [directives, List.mem_append, List.mem_singleton] at hd
  rcases hd with (((hd | hd) | hd) | hd) | rfl
  · exact asksForArguments_ambient services d hd
  · exact asksForArguments_stored services d hd
  · exact asksForArguments_effects services d hd
  · exact asksForArguments_interaction services d hd
  · exact fun _ _ _ => rfl

end Builtin

namespace Directive

/-- A directive that joins two arguments. -/
def pairing : Directive Unit :=
  Builtin.directive .static "pair" "Two arguments with a bar between them." fun m _ _ =>
    pure (.ofText (Text.join "|" (m.arguments 2)))

/-- A directive whose value is constant. -/
def oracle : Directive Unit :=
  Builtin.constant "oracle" "A word." fun _ _ _ => pure (.ofText "yes")

/-- A resolver with no directive but one. -/
def resolver (d : Directive Unit) (h : firstDuplicate? [] (claims [d]) = none) : Resolver Unit :=
  ⟨⟨[d], h⟩, none⟩

/-- A context with some values and default settings. -/
def contextOf (values : Fields String) : Context := ⟨none, values, 0, Settings.default⟩

/-- Two arguments, and their call as read from its text. -/
def pairText : String := "\x7b\x7bpair:a:b\x7d\x7d"

def pairCall : Occurrence := ⟨pairText, 0, 12, "pair", [], [], some "a:b", none⟩

/-- The text and the call with its two arguments give the same, wherever they are resolved or
called. -/
theorem invoke_agrees_pair :
    ((resolver pairing rfl).registry.directives = [pairing] ∧
      0 < (resolver pairing rfl).limitIn (contextOf []) ∧
      StandsAlone pairing.spellings pairText.toList pairCall ∧
      pairing.known? (contextOf []) [] pairCall = none ∧
      ((pairing.applies pairText (contextOf [])).run ()).1 = true ∧ pairing.AsksForArguments ∧
      Occurrence.ofCall "pair" ["a", "b"] [] = { pairCall with callArgs := some ["a", "b"] } ∧
      ∀ a ∈ ["a", "b"], ':' ∉ a.toList) ∧
    (Resolver.invokeText none pairing pairText (contextOf [])).run () = ("a|b", ()) ∧
    (∃ context', ((resolver pairing rfl).resolveIn none pairText (contextOf [])).run () =
      (("a|b", context'), ())) ∧
    (Resolver.invokeOn none pairing (Occurrence.ofCall "pair" ["a", "b"] []) (contextOf [])).run
      () = ("a|b", ()) := by
  have hlimit : 0 < (resolver pairing rfl).limitIn (contextOf []) := by decide
  have hfind : find? pairing.spellings false 0 pairText.toList = some pairCall := by
    decide +kernel
  have halone : StandsAlone pairing.spellings pairText.toList pairCall :=
    ⟨(find?_reads hfind).1, rfl, rfl, by decide +kernel⟩
  have hasks : pairing.AsksForArguments := by
    intro m args hsame
    simp only [pairing, Builtin.directive, hsame]
  have hgiven : Occurrence.ofCall "pair" ["a", "b"] [] =
      { pairCall with callArgs := some ["a", "b"] } := by decide +kernel
  have hcolons : ∀ a ∈ ["a", "b"], ':' ∉ a.toList := by decide +kernel
  refine ⟨⟨rfl, hlimit, halone, rfl, rfl, hasks, hgiven, hcolons⟩, ?_⟩
  obtain ⟨reply, w', -, htext, hresolved, hkept⟩ :=
    Resolver.invoke_agrees rfl none hlimit halone rfl rfl
  have hreply : reply.text = "a|b" := by
    have hvalue : ((Resolver.invokeText none pairing pairText (contextOf [])).run ()).1 = "a|b" := by
      decide +kernel
    rwa [htext] at hvalue
  rw [hreply] at htext hresolved hkept
  obtain ⟨context', -, hrun⟩ := hresolved (by decide)
  exact ⟨htext, ⟨context', hrun⟩, (hkept hasks "pair" ["a", "b"] [] hgiven hcolons).2⟩

/-- An argument with a colon that is kept is not the two arguments that its text is read with; and
a value of the context takes the place of an occurrence, but not of a call. -/
theorem invocations_differ :
    ((Occurrence.ofCall "pair" ["a:b"] []).text = "\x7b\x7bpair:a:b\x7d\x7d" ∧
      (((resolver pairing rfl).resolveIn none "\x7b\x7bpair:a:b\x7d\x7d" (contextOf [])).run
        ()).1.1 = "a|b" ∧
      ((Resolver.invokeOn none pairing (Occurrence.ofCall "pair" ["a:b"] []) (contextOf [])).run
        ()).1 = "a:b") ∧
    (((resolver oracle rfl).resolveIn none "\x7b\x7boracle\x7d\x7d"
        (contextOf [("oracle", "no")])).run ()).1.1 = "no" ∧
      ((Resolver.invokeText none oracle "\x7b\x7boracle\x7d\x7d"
        (contextOf [("oracle", "no")])).run ()).1 = "yes" := by
  decide +kernel

end Directive

end Pinboard
