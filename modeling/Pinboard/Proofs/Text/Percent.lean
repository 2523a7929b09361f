import Pinboard.Proofs.Json.RoundTrip
import Pinboard.Text.Percent

/-!
# Reading what is percent-encoded

An encoded text is made of the characters that have a place in URIs and of escapes, and it stands
for the octets of the text that was encoded. It is read back as this text, also where the text has
percent signs of its own.
-/
namespace Pinboard.Text

/-! ## Texts of URIs -/

/-- What separates the parts of a URI, marks, and the sign before a fragment. -/
def uriSigns : List Char := ";/?:@&=+$,".toList ++ "-_.!~*'()".toList ++ ['#']

/-- The characters that need no escape in a whole URI. Letters and digits are those of ASCII. -/
def IsUnescaped (c : Char) : Prop := c.isAlphanum = true ∨ c ∈ uriSigns

/-- A text of such characters and of escapes, a percent sign and two hexadecimal digits each. -/
inductive IsUriText : List Char → Prop
  | nil : IsUriText []
  | unescaped {c : Char} {cs : List Char} (hc : IsUnescaped c) (rest : IsUriText cs) :
      IsUriText (c :: cs)
  | escape {high low : Char} {cs : List Char} (hhigh : (Json.hexValue? high).isSome)
      (hlow : (Json.hexValue? low).isSome) (rest : IsUriText cs) :
      IsUriText ('%' :: high :: low :: cs)

lemma IsUriText.append {cs cs' : List Char} (h : IsUriText cs) (h' : IsUriText cs') :
    IsUriText (cs ++ cs') := by
  induction h with
  | nil => exact h'
  | unescaped hc _ ih => exact .unescaped hc ih
  | escape hhigh hlow _ ih => exact .escape hhigh hlow ih

/-- The braces of a text, in their order. -/
def braces (cs : List Char) : List Char := cs.filter fun c => c = '\x7b' ∨ c = '\x7d'

@[simp] lemma braces_append (cs cs' : List Char) : braces (cs ++ cs') = braces cs ++ braces cs' :=
  List.filter_append cs cs'

lemma braces_cons {c : Char} (h : c ≠ '\x7b' ∧ c ≠ '\x7d') (cs : List Char) :
    braces (c :: cs) = braces cs :=
  List.filter_cons_of_neg (by simpa using h)

lemma IsUnescaped.ne_brace {c : Char} (h : IsUnescaped c) : c ≠ '\x7b' ∧ c ≠ '\x7d' := by
  constructor <;> rintro rfl <;> exact absurd h (by unfold IsUnescaped; decide)

lemma ne_brace_of_hexValue? {c : Char} (h : (Json.hexValue? c).isSome) :
    c ≠ '\x7b' ∧ c ≠ '\x7d' := by
  constructor <;> rintro rfl <;> exact absurd h (by decide)

lemma IsUriText.braces_eq_nil {cs : List Char} (h : IsUriText cs) : braces cs = [] := by
  induction h with
  | nil => rfl
  | unescaped hc _ ih => rw [braces_cons hc.ne_brace, ih]
  | escape hhigh hlow _ ih =>
    rw [braces_cons (by decide), braces_cons (ne_brace_of_hexValue? hhigh),
      braces_cons (ne_brace_of_hexValue? hlow), ih]

/-! ## Octets of a text -/

/-- The octets that a text stands for: an escape for its octet, any other character for those of
its UTF-8 form. There are none if a percent sign begins no escape. -/
def octets? : List Char → Option (List UInt8)
  | [] => some []
  | '%' :: high :: low :: rest => do
    let h ← Json.hexValue? high
    let l ← Json.hexValue? low
    return UInt8.ofNat (16 * h + l) :: (← octets? rest)
  | '%' :: _ => none
  | c :: rest => return String.utf8EncodeChar c ++ (← octets? rest)

/-- The text whose UTF-8 form an encoded one stands for. -/
def percentDecode? (value : String) : Option String := do
  String.fromUTF8? (← octets? value.toList).toByteArray

lemma octets?_cons {c : Char} (h : c ≠ '%') (rest : List Char) :
    octets? (c :: rest) = (octets? rest).map (String.utf8EncodeChar c ++ ·) := by
  rw [octets?]
  · cases octets? rest <;> rfl
  all_goals simp_all

lemma hexValue?_hexCapital {n : Nat} (h : n < 16) : Json.hexValue? (hexCapital n) = some n := by
  interval_cases n <;> rfl

lemma octets?_octetEscape {n : Nat} (h : n < 256) (rest : List Char) :
    octets? (octetEscape n ++ rest) = (octets? rest).map (UInt8.ofNat n :: ·) := by
  have hhalves : 16 * (n / 16) + n % 16 = n := Nat.div_add_mod n 16
  simp only [octetEscape, List.cons_append, List.nil_append, octets?,
    hexValue?_hexCapital (show n / 16 < 16 by omega),
    hexValue?_hexCapital (show n % 16 < 16 by omega), Option.bind_some, Option.bind_eq_bind,
    hhalves]
  cases octets? rest <;> rfl

lemma octets?_escapes {ns : List Nat} (h : ∀ n ∈ ns, n < 256) (rest : List Char) :
    octets? (ns.flatMap octetEscape ++ rest) =
      (octets? rest).map (ns.map UInt8.ofNat ++ ·) := by
  induction ns with
  | nil => simp
  | cons n ns ih =>
    rw [List.flatMap_cons, List.append_assoc, octets?_octetEscape (h n List.mem_cons_self),
      ih fun m hm => h m (List.mem_cons_of_mem n hm), Option.map_map]
    rfl

/-! ## Characters -/

lemma utf8_lt (c : Char) : ∀ n ∈ utf8 c.toNat, n < 256 := by
  have hvalid := Json.toNat_lt c
  intro n hn
  rw [utf8] at hn
  split_ifs at hn <;> simp only [List.mem_cons, List.not_mem_nil, or_false] at hn <;> omega

/-- The octets are those of the character's UTF-8 form, one to four of them. -/
lemma map_utf8 (c : Char) : (utf8 c.toNat).map UInt8.ofNat = String.utf8EncodeChar c := by
  have hvalid := Json.toNat_lt c
  have hval : c.val.toNat = c.toNat := rfl
  rw [utf8, String.utf8EncodeChar, hval]
  by_cases hone : c.toNat < 0x80
  · rw [if_pos hone, if_pos (by omega)]
    rfl
  by_cases htwo : c.toNat < 0x800
  · have hlead : c.toNat / 0x40 % 0x20 = c.toNat / 0x40 := Nat.mod_eq_of_lt (by omega)
    rw [if_neg hone, if_pos htwo, if_neg (by omega), if_pos (by omega), hlead]
    simp only [List.map_cons, List.map_nil, Nat.add_comm]
  by_cases hthree : c.toNat < 0x10000
  · have hlead : c.toNat / 0x1000 % 0x10 = c.toNat / 0x1000 := Nat.mod_eq_of_lt (by omega)
    rw [if_neg hone, if_neg htwo, if_pos hthree, if_neg (by omega), if_neg (by omega),
      if_pos (by omega), hlead]
    simp only [List.map_cons, List.map_nil, Nat.add_comm]
  · have hlead : c.toNat / 0x40000 % 8 = c.toNat / 0x40000 := Nat.mod_eq_of_lt (by omega)
    rw [if_neg hone, if_neg htwo, if_neg hthree, if_neg (by omega), if_neg (by omega),
      if_neg (by omega), hlead]
    simp only [List.map_cons, List.map_nil, Nat.add_comm]

/-- The characters that stay are those that need no escape. -/
lemma isUriChar_iff {c : Char} : isUriChar c = true ↔ IsUnescaped c := by
  have hsigns : uriPunctuation ⊆ uriSigns ∧ uriSigns ⊆ uriPunctuation := by decide
  rw [isUriChar, Bool.or_eq_true, List.contains_iff_mem, IsUnescaped]
  exact or_congr_right ⟨fun h => hsigns.1 h, fun h => hsigns.2 h⟩

lemma isUriText_octetEscape {n : Nat} (h : n < 256) : IsUriText (octetEscape n) :=
  .escape (by rw [hexValue?_hexCapital (by omega)]; rfl)
    (by rw [hexValue?_hexCapital (by omega)]; rfl) .nil

lemma isUriText_escapes {ns : List Nat} (h : ∀ n ∈ ns, n < 256) :
    IsUriText (ns.flatMap octetEscape) := by
  induction ns with
  | nil => exact .nil
  | cons n ns ih =>
    rw [List.flatMap_cons]
    exact (isUriText_octetEscape (h n List.mem_cons_self)).append
      (ih fun m hm => h m (List.mem_cons_of_mem n hm))

lemma isUriText_percentChar (c : Char) : IsUriText (percentChar c) := by
  rw [percentChar]
  split
  · rename_i hc
    exact .unescaped (isUriChar_iff.mp hc) .nil
  · exact isUriText_escapes (utf8_lt c)

/-- A character is encoded as a text that stands for its UTF-8 form. The percent sign is no
exception, for it is escaped too. -/
lemma octets?_percentChar (c : Char) (rest : List Char) :
    octets? (percentChar c ++ rest) = (octets? rest).map (String.utf8EncodeChar c ++ ·) := by
  rw [percentChar]
  split
  · rename_i hc
    have hpercent : c ≠ '%' := by
      rintro rfl
      exact absurd hc (by decide)
    rw [List.singleton_append, octets?_cons hpercent]
  · rw [octets?_escapes (utf8_lt c), map_utf8]

/-! ## Whole texts -/

lemma isUriText_flatMap_percentChar (cs : List Char) : IsUriText (cs.flatMap percentChar) := by
  induction cs with
  | nil => exact .nil
  | cons c cs ih =>
    rw [List.flatMap_cons]
    exact (isUriText_percentChar c).append ih

lemma octets?_flatMap_percentChar (cs : List Char) :
    octets? (cs.flatMap percentChar) = some (cs.flatMap String.utf8EncodeChar) := by
  induction cs with
  | nil => rfl
  | cons c cs ih => rw [List.flatMap_cons, octets?_percentChar, ih, List.flatMap_cons]; rfl

lemma fromUTF8?_toByteArray (s : String) : String.fromUTF8? s.toByteArray = some s :=
  dif_pos s.isValidUTF8

/-- A value in the characters of URIs that is read back as a text. -/
structure Encodes (s value : String) : Prop where
  uri : IsUriText value.toList
  decoded : percentDecode? value = some s

theorem encodes_percentEncode (s : String) : Encodes s (percentEncode s) where
  uri := by
    rw [percentEncode, String.toList_ofList]
    exact isUriText_flatMap_percentChar s.toList
  decoded := by
    have hform : (s.toList.flatMap String.utf8EncodeChar).toByteArray = s.toByteArray := by
      rw [← List.utf8Encode, ← String.toByteArray_ofList, String.ofList_toList]
    rw [percentDecode?, percentEncode, String.toList_ofList, octets?_flatMap_percentChar,
      Option.bind_eq_bind, Option.bind_some, hform, fromUTF8?_toByteArray]

/-- A value is read in one way only. -/
lemma Encodes.unique {s t value : String} (h : Encodes s value) (h' : Encodes t value) : s = t :=
  Option.some.inj (h.decoded.symm.trans h'.decoded)

theorem percentEncode_injective : Function.Injective percentEncode := fun s t hsame =>
  (encodes_percentEncode s).unique (hsame ▸ encodes_percentEncode t)

example : percentEncode "a b?é%41" = "a%20b?%C3%A9%2541" := by decide

end Pinboard.Text
