import Pinboard.Builtin.Catalogue
import Pinboard.Proofs.Action
import Pinboard.Proofs.Number.Rounding
import Pinboard.Proofs.Resolution.Settled
import Pinboard.Proofs.Schedule.Journal

/-!
# Prompts

A prompt that failed is sent again without its last third, down to the empty text. The prompts of
one handler are fronts of the body within the limit. They all say something, each one less than the
one before, exactly if the last of them reaches beyond the blanks at the front of the body.
-/
namespace Pinboard.Builtin

open Markup

/-! ## Two thirds -/

/-- The length of a prompt after a failure. -/
def shortenedLength (n : Nat) : Nat := 2 * n / 3

/-- It is the quotient by one and a half in the binary format, without its fraction. -/
lemma wholePart?_shortenedLength {n : Nat} (h : n < 2 ^ 51 * 3) :
    Number.Binary64.wholePart? ((Number.Binary64.ofNat n).div (.ofDecimal false 15 (-1))) =
      some (shortenedLength n) :=
  Number.Binary64.wholePart?_threeHalves h

lemma shortenedLength_le (n : Nat) : shortenedLength n ≤ n := by
  rw [shortenedLength]
  omega

lemma shortenedLength_lt {n : Nat} (h : 0 < n) : shortenedLength n < n := by
  rw [shortenedLength]
  omega

/-- The length of the prompt after a number of failures. -/
def promptLength (limit : Nat) (body : String) (failures : Nat) : Nat :=
  shortenedLength^[failures] (min limit body.length)

section Lengths

variable {limit i j : Nat} {body : String}

lemma promptLength_succ : promptLength limit body (i + 1) =
    shortenedLength (promptLength limit body i) :=
  Function.iterate_succ_apply' _ _ _

/-- Later prompts are no longer. -/
lemma promptLength_le (hij : i ≤ j) : promptLength limit body j ≤ promptLength limit body i := by
  have hanti : Antitone (promptLength limit body) := antitone_nat_of_succ_le fun i => by
    rw [promptLength_succ]
    exact shortenedLength_le _
  exact hanti hij

lemma promptLength_lt (hij : i < j) (hpos : 0 < promptLength limit body i) :
    promptLength limit body j < promptLength limit body i := by
  refine (promptLength_le hij).trans_lt ?_
  rw [promptLength_succ]
  exact shortenedLength_lt hpos

lemma promptLength_le_limit : promptLength limit body i ≤ limit :=
  (promptLength_le (Nat.zero_le i)).trans (Nat.min_le_left _ _)

lemma promptLength_le_length : promptLength limit body i ≤ body.length :=
  (promptLength_le (Nat.zero_le i)).trans (Nat.min_le_right _ _)

end Lengths

/-! ## Fronts of a text -/

/-- How many blanks a text begins with. -/
def leadingBlanks (s : String) : Nat := (s.toList.takeWhile Text.isBlank).length

lemma all_take_iff {α : Type} (p : α → Bool) (xs : List α) (n : Nat) :
    (xs.take n).all p = true ↔ min n xs.length ≤ (xs.takeWhile p).length := by
  induction xs generalizing n with
  | nil => simp
  | cons x xs ih =>
    cases n with
    | zero => simp
    | succ n =>
      rw [List.take_succ_cons, List.all_cons, Bool.and_eq_true, ih, List.length_cons]
      by_cases hx : p x = true
      · rw [List.takeWhile_cons_of_pos hx, List.length_cons]
        simp [hx, Nat.succ_min_succ]
      · rw [List.takeWhile_cons_of_neg hx]
        simp [hx]

lemma isBlankText_take_iff {n : Nat} {s : String} (hn : n ≤ s.length) :
    Text.isBlankText (Text.take n s) = true ↔ n ≤ leadingBlanks s := by
  rw [Text.isBlankText, Text.take, String.toList_ofList, all_take_iff, String.length_toList,
    Nat.min_eq_left hn, leadingBlanks]

lemma length_take {n : Nat} {s : String} (hn : n ≤ s.length) : (Text.take n s).length = n := by
  rw [Text.take, String.length_ofList, List.length_take, String.length_toList, Nat.min_eq_left hn]

lemma take_min (n : Nat) (s : String) : Text.take (min n s.length) s = Text.take n s := by
  rw [Text.take, Text.take, ← String.length_toList, ← List.take_take, List.take_length]

lemma shortened_take {n : Nat} {s : String} (hn : n ≤ s.length) :
    shortened (Text.take n s) = Text.take (shortenedLength n) s := by
  have hless := shortenedLength_le n
  rw [shortened, length_take hn, Text.take, Text.take, String.toList_ofList, List.take_take,
    Text.take, ← shortenedLength, Nat.min_eq_left hless]

/-- What is left of a body after failures is a front of it. -/
lemma iterate_shortened_take (limit : Nat) (body : String) (i : Nat) :
    shortened^[i] (Text.take limit body) = Text.take (promptLength limit body i) body := by
  induction i with
  | zero => exact (take_min limit body).symm
  | succ i ih =>
    rw [Function.iterate_succ_apply', ih, shortened_take promptLength_le_length, promptLength_succ]

/-! ## Attempts -/

/-- A prompt that was sent, and what came of it. -/
structure Try where
  prompt : String
  outcome : Except Fault String

def Try.Failed (t : Try) : Prop := ∃ fault, t.outcome = .error fault

variable {σ : Type}

/-- What was asked from one state to another, the first prompt first. -/
inductive Asked (ask : String → Action σ String) : List Try → σ → σ → Prop
  | nil (w : σ) : Asked ask [] w w
  | cons {t : Try} {tries : List Try} {w w₁ w' : σ}
      (h : (ask t.prompt).run.run w = (t.outcome, w₁)) (rest : Asked ask tries w₁ w') :
      Asked ask (t :: tries) w w'

/-- A response without blanks around it and without double quotes. -/
def tidied (response : String) : String := Text.replaceChar '"' '\'' (Text.strip response)

/-- How attempts at a prompt go: up to the first success, each with what the last one left. -/
structure Attempted (attempts : Nat) (prompt : String) (tries : List Try)
    (answer : Option String) : Prop where
  few : tries.length ≤ attempts
  prompts : ∀ i (h : i < tries.length), tries[i].prompt = shortened^[i] prompt
  failed : ∀ t ∈ tries.dropLast, t.Failed
  answered : ∀ text, answer = some text →
    ∃ response, tries.getLast?.map (·.outcome) = some (.ok response) ∧ text = tidied response
  exhausted : answer = none → tries.length = attempts ∧ ∀ t ∈ tries, t.Failed

lemma attempted_zero (prompt : String) : Attempted 0 prompt [] none :=
  ⟨le_rfl, by simp, by simp, by simp, by simp⟩

lemma attempted_ok (n : Nat) (prompt response : String) :
    Attempted (n + 1) prompt [⟨prompt, .ok response⟩] (some (tidied response)) := by
  refine ⟨by simp, fun i h => ?_, by simp, fun text htext => ⟨response, rfl, ?_⟩, by simp⟩
  · obtain rfl : i = 0 := by simpa using h
    rfl
  · exact (Option.some.inj htext).symm

/-- One more failure before attempts at what it left. -/
lemma Attempted.cons {n : Nat} {prompt : String} {tries : List Try} {answer : Option String}
    (h : Attempted n (shortened prompt) tries answer) (fault : Fault) :
    Attempted (n + 1) prompt (⟨prompt, .error fault⟩ :: tries) answer := by
  have hfirst : Try.Failed ⟨prompt, .error fault⟩ := ⟨fault, rfl⟩
  refine ⟨Nat.succ_le_succ h.few, fun i hi => ?_, fun t ht => ?_, fun text htext => ?_,
    fun hnone => ?_⟩
  · cases i with
    | zero => rfl
    | succ i => exact h.prompts i (Nat.lt_of_succ_lt_succ hi)
  · cases tries with
    | nil => cases ht
    | cons t' tries =>
      rcases List.mem_cons.mp ht with rfl | ht
      · exact hfirst
      · exact h.failed t ht
  · obtain ⟨response, hlast, rfl⟩ := h.answered text htext
    cases tries with
    | nil => cases hlast
    | cons t tries => exact ⟨response, hlast, rfl⟩
  · obtain ⟨hlength, hall⟩ := h.exhausted hnone
    exact ⟨congrArg Nat.succ hlength, List.forall_mem_cons.mpr ⟨hfirst, hall⟩⟩

section Attempt

variable (completion : Completion σ) (model : Option String) (creativity : Number.Binary64)

lemma attempt_succ (n : Nat) (prompt : String) (w : σ) :
    (attempt completion model creativity (n + 1) prompt).run w =
      match (completion.complete prompt model creativity).run.run w with
      | (.ok response, w₁) => (some (tidied response), w₁)
      | (.error _, w₁) => (attempt completion model creativity n (shortened prompt)).run w₁ := by
  have hrun : (Action.outcome (completion.complete prompt model creativity)).run w =
      (completion.complete prompt model creativity).run.run w := rfl
  rw [attempt, StateT.run_bind, hrun]
  rcases (completion.complete prompt model creativity).run.run w with ⟨_ | _, w₁⟩ <;> rfl

lemma run_attempt (n : Nat) (prompt : String) (w : σ) :
    ∃ tries answer w', Asked (completion.complete · model creativity) tries w w' ∧
      (attempt completion model creativity n prompt).run w = (answer, w') ∧
      Attempted n prompt tries answer := by
  induction n generalizing prompt w with
  | zero => exact ⟨[], none, w, .nil w, rfl, attempted_zero prompt⟩
  | succ n ih =>
    have hstep := attempt_succ completion model creativity n prompt w
    cases hrun : (completion.complete prompt model creativity).run.run w with
    | mk outcome w₁ =>
    rw [hrun] at hstep
    cases outcome with
    | ok response =>
      exact ⟨[⟨prompt, .ok response⟩], _, w₁, .cons hrun (.nil w₁), hstep,
        attempted_ok n prompt response⟩
    | error fault =>
      obtain ⟨tries, answer, w', hasked, hanswer, hattempted⟩ := ih (shortened prompt) w₁
      exact ⟨_, answer, w', .cons hrun hasked, hstep.trans hanswer, hattempted.cons fault⟩

end Attempt

/-! ## The handler -/

/-- What an occurrence asks prompts of, or why it cannot. -/
def asking (services : Services σ) (m : Occurrence) (settings : Settings) :
    Except Fault (String → Action σ String) :=
  match services.completion with
  | none => .error (.missing .completion)
  | some completion => (creativityOf m settings).map fun creativity prompt =>
      completion.complete prompt (givenParam? m "model") creativity

/-- The end of a handler whose attempts gave an answer or none. -/
def conclusion (attempts : Nat) : Option String → Except Fault Reply
  | some text => .ok (.ofText text)
  | none => .error (.completionFailed attempts)

section Runs

variable {services : Services σ} {m : Occurrence} {context : Context}
  {reentry : Option (Reentry σ)} {w : σ}

lemma handler_ai_blank (h : Text.isBlankText m.bodyText = true) :
    ((ai services).handler m context reentry).run.run w = (.ok Reply.nothing, w) := by
  simp only [ai, directive, h, if_true]
  rfl

lemma handler_ai_eq (h : Text.isBlankText m.bodyText = false) :
    (ai services).handler m context reentry = (do
      let completion ← services.needCompletion
      let creativity ← Action.ofExcept (creativityOf m context.settings)
      let answer ← Action.total (attempt completion (givenParam? m "model") creativity
        context.settings.completionAttempts (Text.take context.settings.promptLimit m.bodyText))
      Action.ofExcept (conclusion context.settings.completionAttempts answer)) := by
  simp only [ai, directive, h, Bool.false_eq_true, if_false]
  congr! with completion creativity answer
  cases answer <;> rfl

lemma run_needCompletion {completion : Completion σ} (h : services.completion = some completion) :
    services.needCompletion.run.run w = (.ok completion, w) := by
  rw [Services.needCompletion, h]
  rfl

lemma handler_ai_unasked (h : Text.isBlankText m.bodyText = false) {fault : Fault}
    (hasking : asking services m context.settings = .error fault) :
    ((ai services).handler m context reentry).run.run w = (.error fault, w) := by
  rw [handler_ai_eq h]
  unfold asking at hasking
  split at hasking
  · rename_i hnone
    obtain rfl := Except.error.inj hasking
    refine Action.run_bind_error ?_
    rw [Services.needCompletion, hnone]
    rfl
  · rename_i completion hcompletion
    rw [Action.run_bind_ok (run_needCompletion hcompletion)]
    refine Action.run_bind_error ?_
    cases hcreativity : creativityOf m context.settings with
    | error fault' =>
      rw [hcreativity] at hasking
      obtain rfl : fault' = fault := Except.error.inj hasking
      rfl
    | ok creativity =>
      rw [hcreativity] at hasking
      cases hasking

lemma handler_ai_asked (h : Text.isBlankText m.bodyText = false) {ask : String → Action σ String}
    (hasking : asking services m context.settings = .ok ask) :
    ∃ tries answer w', Asked ask tries w w' ∧
      ((ai services).handler m context reentry).run.run w =
        (conclusion context.settings.completionAttempts answer, w') ∧
      Attempted context.settings.completionAttempts
        (Text.take context.settings.promptLimit m.bodyText) tries answer := by
  rw [handler_ai_eq h]
  unfold asking at hasking
  split at hasking
  · cases hasking
  · rename_i completion hcompletion
    cases hcreativity : creativityOf m context.settings with
    | error fault =>
      rw [hcreativity] at hasking
      cases hasking
    | ok creativity =>
      rw [hcreativity] at hasking
      obtain rfl := Except.ok.inj hasking
      obtain ⟨tries, answer, w', hasked, hanswer, hattempted⟩ :=
        run_attempt completion (givenParam? m "model") creativity
          context.settings.completionAttempts
          (Text.take context.settings.promptLimit m.bodyText) w
      refine ⟨tries, answer, w', hasked, ?_, hattempted⟩
      have hcreated : (Action.ofExcept (.ok creativity) : Action σ _).run.run w =
          (.ok creativity, w) := rfl
      have htotal : (Action.total (attempt completion (givenParam? m "model") creativity
          context.settings.completionAttempts
          (Text.take context.settings.promptLimit m.bodyText))).run.run w = (.ok answer, w') := by
        rw [Action.run_total, hanswer]
      rw [Action.run_bind_ok (run_needCompletion hcompletion), Action.run_bind_ok hcreated,
        Action.run_bind_ok htotal]
      cases answer <;> rfl

end Runs

/-! ## The prompts of a handler -/

namespace Attempted

section Fronts

variable {attempts limit : Nat} {body : String} {tries : List Try} {answer : Option String}

/-- At least one attempt is made of those that are allowed. -/
lemma length_pos {prompt : String} (h : Attempted attempts prompt tries answer)
    (hattempts : 0 < attempts) : 0 < tries.length := by
  cases answer with
  | none => exact (h.exhausted rfl).1 ▸ hattempts
  | some text =>
    obtain ⟨response, hlast, -⟩ := h.answered text rfl
    cases tries with
    | nil => cases hlast
    | cons t tries => exact Nat.succ_pos _

variable (h : Attempted attempts (Text.take limit body) tries answer)
include h

lemma prompt_eq {i : Nat} (hi : i < tries.length) :
    tries[i].prompt = Text.take (promptLength limit body i) body := by
  rw [h.prompts i hi, iterate_shortened_take]

lemma prompt_length {i : Nat} (hi : i < tries.length) :
    tries[i].prompt.length = promptLength limit body i := by
  rw [h.prompt_eq hi, length_take promptLength_le_length]

lemma prompt_says_iff {i : Nat} (hi : i < tries.length) :
    Text.isBlankText tries[i].prompt = false ↔ leadingBlanks body < promptLength limit body i := by
  rw [h.prompt_eq hi, ← Bool.not_eq_true, isBlankText_take_iff promptLength_le_length, Nat.not_le]

/-- The last prompt is the shortest, and as long as a prompt says something the next is shorter. -/
lemma meaningful_iff (hattempts : 0 < attempts) :
    ((∀ t ∈ tries, Text.isBlankText t.prompt = false) ∧
      tries.Pairwise fun s t => t.prompt.length < s.prompt.length) ↔
    leadingBlanks body < promptLength limit body (tries.length - 1) := by
  have hpos := h.length_pos hattempts
  refine ⟨fun hboth => ?_, fun hlast => ⟨fun t ht => ?_, ?_⟩⟩
  · exact (h.prompt_says_iff (by omega)).mp (hboth.1 _ (List.getElem_mem (by omega)))
  · obtain ⟨i, hi, rfl⟩ := List.getElem_of_mem ht
    exact (h.prompt_says_iff hi).mpr (hlast.trans_le (promptLength_le (by omega)))
  · refine List.pairwise_iff_getElem.mpr fun i j hi hj hij => ?_
    rw [h.prompt_length hi, h.prompt_length hj]
    have hearlier : promptLength limit body (tries.length - 1) ≤ promptLength limit body i :=
      promptLength_le (by omega)
    exact promptLength_lt hij (by omega)

end Fronts

end Attempted

/-- How the handler goes once there is something to ask. -/
structure Prompted (settings : Settings) (body : String) (tries : List Try)
    (result : Except Fault Reply) : Prop where
  few : tries.length ≤ settings.completionAttempts
  front : ∀ t ∈ tries, t.prompt.toList <+: body.toList
  limited : ∀ t ∈ tries, t.prompt.length ≤ settings.promptLimit
  /-- Each failure takes off a third. -/
  length_eq : ∀ i (h : i < tries.length),
    tries[i].prompt.length = promptLength settings.promptLimit body i
  failed : ∀ t ∈ tries.dropLast, t.Failed
  answered : ∀ reply, result = .ok reply → ∃ response,
    tries.getLast?.map (·.outcome) = some (.ok response) ∧ reply = .ofText (tidied response)
  exhausted : ∀ fault, result = .error fault →
    fault = .completionFailed settings.completionAttempts ∧
      tries.length = settings.completionAttempts ∧ ∀ t ∈ tries, t.Failed
  /-- When all prompts say something, each one less than the one before. -/
  meaningful_iff : ((∀ t ∈ tries, Text.isBlankText t.prompt = false) ∧
      tries.Pairwise fun s t => t.prompt.length < s.prompt.length) ↔
    leadingBlanks body < promptLength settings.promptLimit body (tries.length - 1)

section Prompted

variable {settings : Settings} {body : String} {tries : List Try}

lemma Attempted.prompted {answer : Option String} (hattempts : 0 < settings.completionAttempts)
    (h : Attempted settings.completionAttempts (Text.take settings.promptLimit body) tries answer) :
    Prompted settings body tries (conclusion settings.completionAttempts answer) where
  few := h.few
  front t ht := by
    obtain ⟨i, hi, rfl⟩ := List.getElem_of_mem ht
    rw [h.prompt_eq hi, Text.take, String.toList_ofList]
    exact List.take_prefix _ _
  limited t ht := by
    obtain ⟨i, hi, rfl⟩ := List.getElem_of_mem ht
    rw [h.prompt_length hi]
    exact promptLength_le_limit
  length_eq i hi := h.prompt_length hi
  failed := h.failed
  answered reply hreply := by
    cases answer with
    | none => cases hreply
    | some text =>
      obtain ⟨response, hlast, rfl⟩ := h.answered text rfl
      exact ⟨response, hlast, (Except.ok.inj hreply).symm⟩
  exhausted fault hfault := by
    cases answer with
    | none => exact ⟨(Except.error.inj hfault).symm, h.exhausted rfl⟩
    | some text => cases hfault
  meaningful_iff := h.meaningful_iff hattempts

/-- A body whose last possible prompt reaches beyond its blanks makes for no other prompts,
whichever attempts fail. -/
lemma Prompted.meaningful {result : Except Fault Reply} (h : Prompted settings body tries result)
    (hlong : leadingBlanks body <
      promptLength settings.promptLimit body (settings.completionAttempts - 1)) :
    (∀ t ∈ tries, Text.isBlankText t.prompt = false) ∧
      tries.Pairwise fun s t => t.prompt.length < s.prompt.length :=
  h.meaningful_iff.mpr (hlong.trans_le (promptLength_le (Nat.sub_le_sub_right h.few 1)))

end Prompted

variable {services : Services σ}

/-- A blank body asks for nothing, and where there is nobody to ask, or no creativity to ask with,
nothing is sent. Otherwise the body is sent, cut to the limit and after each failure by a third, up
to the first answer or as often as is allowed. -/
theorem ai_prompts {m : Occurrence} {context : Context}
    (hattempts : 0 < context.settings.completionAttempts) (reentry : Option (Reentry σ)) (w : σ) :
    (Text.isBlankText m.bodyText = true →
      ((ai services).handler m context reentry).run.run w = (.ok Reply.nothing, w)) ∧
    (Text.isBlankText m.bodyText = false →
      (∀ fault, asking services m context.settings = .error fault →
        ((ai services).handler m context reentry).run.run w = (.error fault, w)) ∧
      ∀ ask, asking services m context.settings = .ok ask → ∃ tries result w',
        Asked ask tries w w' ∧
        ((ai services).handler m context reentry).run.run w = (result, w') ∧
        Prompted context.settings m.bodyText tries result) := by
  refine ⟨handler_ai_blank, fun hbody => ⟨fun fault => handler_ai_unasked hbody, ?_⟩⟩
  intro ask hasking
  obtain ⟨tries, answer, w', hasked, hrun, hattempted⟩ := handler_ai_asked hbody hasking
  exact ⟨tries, _, w', hasked, hrun, hattempted.prompted hattempts⟩

/-! ## Shorter until nothing is left -/

/-- A model that keeps each prompt and answers those below a length. -/
def answering (limit : Nat) : Completion Journal where
  complete prompt _ _ := do
    modify fun journal => (("prompt", .str prompt) :: journal : Journal)
    if prompt.length < limit then pure " \"yes\"\n" else throw (.refused "complete")

def answeringServices (limit : Nat) : Services Journal :=
  { Journal.servicesAt Journal.noon with completion := some (answering limit) }

def promptOf (body : String) : Occurrence := .ofCall "ai" [body] []

/-- Two attempts are allowed. -/
def twiceContext : Context :=
  ⟨none, [], 0, { Settings.default with completionAttempts := 2 }⟩

def question : Occurrence := promptOf "what is a pin"

/-- The second prompt is short enough. -/
theorem ai_prompts_shorter :
    0 < twiceContext.settings.completionAttempts ∧ Text.isBlankText question.bodyText = false ∧
      ∃ ask, asking (answeringServices 10) question twiceContext.settings = .ok ask ∧
        ∃ tries result w', Asked ask tries [] w' ∧
          ((ai (answeringServices 10)).handler question twiceContext none).run.run [] =
            (result, w') ∧
          Prompted twiceContext.settings "what is a pin" tries result := by
  have hbody : Text.isBlankText question.bodyText = false := by decide
  obtain ⟨ask, hasking⟩ : ∃ ask, asking (answeringServices 10) question twiceContext.settings =
      .ok ask := ⟨_, rfl⟩
  exact ⟨by decide, hbody, ask, hasking,
    ((ai_prompts (by decide) none []).2 hbody).2 ask hasking⟩

/-- Where one letter fails, the second prompt is empty. -/
theorem ai_sends_empty_prompt :
    ((ai (answeringServices 0)).handler (promptOf "a") twiceContext none).run.run [] =
      (.error (.completionFailed 2), [("prompt", .str ""), ("prompt", .str "a")]) := rfl

end Pinboard.Builtin
