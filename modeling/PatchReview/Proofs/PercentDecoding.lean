import PatchReview.Http.Target
import PatchReview.Proofs.MarkupLines
import PatchReview.Proofs.RuleDirectory
import PatchReview.Text.Base

/-!
# Parts of an address are decoded again

A text that is encoded as one part of an address is decoded to that text again.  Such a part
has none of the marks of an address in it, but it can be one of the segments that are followed
as in a directory: encoding leaves points as they are.

Main definitions:

- `Text.percentDecode`: the bytes that a part of an address stands for.
- `Text.percentDecode?`: the text with these bytes.
- `Http.IsPlainSegment`: segments that stay as they are on the way.

Main results:

- Theorem `Text.percentDecode?_percentEncode`: decoding undoes encoding.
- Theorem `Http.isHere_percentEncode_iff`: the one name that stands for the directory itself.
- Theorem `Http.isAbove_percentEncode_iff`: the one name that stands for the directory above.
- Theorem `Http.isPlainSegment_percentEncode`: every other name stays as it is.
-/

namespace PatchReview

namespace Text

/-! ## Decoding -/

/-- The bytes that a part of an address stands for; a percent sign with two hexadecimal digits
behind it is one byte. -/
def percentDecode : List Char → List UInt8
  | '%' :: high :: low :: rest =>
    match hexValue high, hexValue low with
    | some a, some b => (16 * a + b).toUInt8 :: percentDecode rest
    | _, _ => '%'.toNat.toUInt8 :: percentDecode (high :: low :: rest)
  | c :: rest => String.utf8EncodeChar c ++ percentDecode rest
  | [] => []

/-- The text that a part of an address stands for, if its bytes are one. -/
def percentDecode? (s : List Char) : Option String :=
  String.fromUTF8? ⟨(percentDecode s).toArray⟩

/-- Other characters than a percent sign stand for themselves. -/
theorem percentDecode_cons {c : Char} (hc : c ≠ '%') (rest : List Char) :
    percentDecode (c :: rest) = String.utf8EncodeChar c ++ percentDecode rest := by
  rw [percentDecode]
  intro high low rest' heq
  cases heq
  exact absurd rfl hc

/-- A hexadecimal digit is read back. -/
theorem hexValue_upperHexDigit {n : Nat} (h : n < 16) : hexValue (upperHexDigit n) = some n := by
  have hall : ∀ n < 16, hexValue (upperHexDigit n) = some n := by decide
  exact hall n h

/-- A byte after a percent sign is read back. -/
theorem percentDecode_percentByte_append (b : UInt8) (rest : List Char) :
    percentDecode (percentByte b ++ rest) = b :: percentDecode rest := by
  have hb : b.toNat < 256 := b.toNat_lt
  have hvalue : 16 * (b.toNat / 16) + b.toNat % 16 = b.toNat := Nat.div_add_mod _ _
  simp only [percentByte, List.cons_append, List.nil_append, percentDecode,
    hexValue_upperHexDigit (n := b.toNat / 16) (by omega),
    hexValue_upperHexDigit (n := b.toNat % 16) (by omega), hvalue]
  simp

/-- The bytes of a character, each after a percent sign, are read back. -/
theorem percentDecode_flatMap_percentByte_append (bytes : List UInt8) (rest : List Char) :
    percentDecode (bytes.flatMap percentByte ++ rest) = bytes ++ percentDecode rest := by
  induction bytes with
  | nil => rfl
  | cons b bytes ih =>
      rw [List.flatMap_cons, List.append_assoc, percentDecode_percentByte_append, ih]
      rfl

/-- An encoded text has the bytes of the text. -/
theorem percentDecode_percentEncode (s : List Char) :
    percentDecode (percentEncode s) = s.flatMap String.utf8EncodeChar := by
  induction s with
  | nil => rfl
  | cons c s ih =>
      have hencode : percentEncode (c :: s) =
          (if isUnreserved c then [c] else percentChar c) ++ percentEncode s := rfl
      rw [hencode, List.flatMap_cons, ← ih]
      by_cases hc : isUnreserved c = true
      · have hpercent : c ≠ '%' := by
          rintro rfl
          cases hc
        rw [if_pos hc, List.singleton_append, percentDecode_cons hpercent]
      · rw [if_neg hc, percentChar, percentDecode_flatMap_percentByte_append]

/-- An encoded text is decoded to the text. -/
theorem percentDecode?_percentEncode (s : String) :
    percentDecode? (percentEncode s.toList) = some s := by
  have hbytes : (⟨(percentDecode (percentEncode s.toList)).toArray⟩ : ByteArray) =
      s.toByteArray := by
    rw [percentDecode_percentEncode, ← bytesOf_eq_flatMap, bytesOf]
  rw [percentDecode?, hbytes]
  exact dif_pos s.isValidUTF8

/-- Different texts are encoded differently. -/
theorem eq_of_percentEncode_eq {s t : String}
    (h : percentEncode s.toList = percentEncode t.toList) : s = t := by
  have hdecode := congrArg percentDecode? h
  rw [percentDecode?_percentEncode, percentDecode?_percentEncode] at hdecode
  exact Option.some.inj hdecode

/-- A text of characters without a meaning is encoded as it is. -/
theorem percentEncode_eq_self {s : List Char} (h : ∀ c ∈ s, isUnreserved c = true) :
    percentEncode s = s := by
  induction s with
  | nil => rfl
  | cons c s ih =>
      rw [List.forall_mem_cons] at h
      have hcons : percentEncode (c :: s) = [c] ++ percentEncode s := by
        simp [percentEncode, h.1]
      rw [hcons, ih h.2, List.singleton_append]

/-! ## Characters of encoded texts -/

/-- The digits of a byte are capital letters and digits. -/
theorem isUnreserved_upperHexDigit {n : Nat} (h : n < 16) :
    isUnreserved (upperHexDigit n) = true := by
  have hall : ∀ n < 16, isUnreserved (upperHexDigit n) = true := by decide
  exact hall n h

/-- An encoded text is made of percent signs and of characters without a meaning. -/
theorem isUnreserved_of_mem_percentEncode {c : Char} {s : List Char} (h : c ∈ percentEncode s) :
    c = '%' ∨ isUnreserved c = true := by
  rcases List.mem_flatMap.1 h with ⟨d, -, hc⟩
  by_cases hd : isUnreserved d = true
  · rw [if_pos hd, List.mem_singleton] at hc
    rw [hc]
    exact .inr hd
  · rw [if_neg hd] at hc
    rcases List.mem_flatMap.1 hc with ⟨b, -, hbyte⟩
    have hb : b.toNat < 256 := b.toNat_lt
    simp only [percentByte, List.mem_cons, List.not_mem_nil, or_false] at hbyte
    rcases hbyte with rfl | rfl | rfl
    · exact .inl rfl
    · exact .inr (isUnreserved_upperHexDigit (by omega))
    · exact .inr (isUnreserved_upperHexDigit (by omega))

end Text

namespace Http

open Text

/-! ## Segments that are followed -/

/-- A point, or the spelling of one byte by byte in some letter case. -/
def IsPoint (s : List Char) : Prop :=
  s.map Char.toLower = ['.'] ∨ s.map Char.toLower = ['%', '2', 'e']

/-- Such a spelling is decoded to a point. -/
theorem IsPoint.percentDecode_append {s : List Char} (h : IsPoint s) (rest : List Char) :
    percentDecode (s ++ rest) = '.'.toNat.toUInt8 :: percentDecode rest := by
  rcases h with h | h
  · rcases List.map_eq_singleton_iff.1 h with ⟨c, rfl, hc⟩
    rw [toLower_eq_iff_of_lt (by decide)] at hc
    subst hc
    rfl
  · rcases List.map_eq_cons_iff.1 h with ⟨percent, _, rfl, hpercent, h⟩
    rcases List.map_eq_cons_iff.1 h with ⟨two, _, rfl, htwo, h⟩
    rcases List.map_eq_singleton_iff.1 h with ⟨letter, rfl, hletter⟩
    rw [toLower_eq_iff_of_lt (by decide)] at hpercent htwo
    have hcase : letter = 'e' ∨ letter = 'E' :=
      (toLower_eq_iff (by decide) (by decide)).1 hletter
    subst hpercent htwo
    rcases hcase with rfl | rfl <;> rfl

/-- The directory itself is a point. -/
theorem isHere_iff {s : List Char} : isHere s = true ↔ IsPoint s := by
  simp [isHere, IsPoint]

/-- The directory above is two points. -/
theorem exists_of_isAbove {s : List Char} (h : isAbove s = true) :
    ∃ first second, s = first ++ second ∧ IsPoint first ∧ IsPoint second := by
  have hcut : ∀ {u v : List Char}, s.map Char.toLower = u ++ v →
      (u = ['.'] ∨ u = ['%', '2', 'e']) → (v = ['.'] ∨ v = ['%', '2', 'e']) →
      ∃ first second, s = first ++ second ∧ IsPoint first ∧ IsPoint second := by
    intro u v hmap hu hv
    rcases List.map_eq_append_iff.1 hmap with ⟨first, second, heq, rfl, rfl⟩
    exact ⟨first, second, heq, hu, hv⟩
  simp only [isAbove, Bool.or_eq_true, beq_iff_eq] at h
  rcases h with ((h | h) | h) | h
  · exact hcut h (.inl rfl) (.inl rfl)
  · exact hcut h (.inl rfl) (.inr rfl)
  · exact hcut (u := ['%', '2', 'e']) h (.inr rfl) (.inl rfl)
  · exact hcut (u := ['%', '2', 'e']) h (.inr rfl) (.inr rfl)

/-- One name is encoded to the directory itself. -/
theorem isHere_percentEncode_iff {name : String} :
    isHere (percentEncode name.toList) = true ↔ name = "." := by
  constructor
  · intro h
    have hbytes : percentDecode (percentEncode name.toList) = percentDecode ['.'] := by
      rw [← List.append_nil (percentEncode name.toList), (isHere_iff.1 h).percentDecode_append]
      rfl
    have hname := percentDecode?_percentEncode name
    rw [percentDecode?, hbytes] at hname
    exact (Option.some.inj hname).symm
  · rintro rfl
    decide

/-- One name is encoded to the directory above. -/
theorem isAbove_percentEncode_iff {name : String} :
    isAbove (percentEncode name.toList) = true ↔ name = ".." := by
  constructor
  · intro h
    rcases exists_of_isAbove h with ⟨first, second, heq, hfirst, hsecond⟩
    have hbytes : percentDecode (percentEncode name.toList) = percentDecode ['.', '.'] := by
      rw [heq, hfirst.percentDecode_append, ← List.append_nil second,
        hsecond.percentDecode_append]
      rfl
    have hname := percentDecode?_percentEncode name
    rw [percentDecode?, hbytes] at hname
    exact (Option.some.inj hname).symm
  · rintro rfl
    decide

/-! ## Segments that stay -/

/-- A segment without marks, whose characters are all written as they are. -/
def HasPlainChars (s : List Char) : Prop :=
  ∀ c ∈ s, c ≠ '/' ∧ c ≠ '\\' ∧ isHiddenInPath c = false

/-- A segment that stays as it is on the way: it is not followed as in a directory either. -/
structure IsPlainSegment (s : List Char) : Prop where
  here : isHere s = false
  above : isAbove s = false
  chars : HasPlainChars s

instance (s : List Char) : Decidable (IsPlainSegment s) :=
  have : Decidable (HasPlainChars s) :=
    List.decidableBAll (fun c => c ≠ '/' ∧ c ≠ '\\' ∧ isHiddenInPath c = false) s
  decidable_of_iff (isHere s = false ∧ isAbove s = false ∧ HasPlainChars s)
    ⟨fun h => ⟨h.1, h.2.1, h.2.2⟩, fun h => ⟨h.here, h.above, h.chars⟩⟩

/-- Characters without a meaning are no marks, and neither is a percent sign. -/
theorem plain_of_isUnreserved {c : Char} (h : c = '%' ∨ isUnreserved c = true) :
    c ≠ '/' ∧ c ≠ '\\' ∧ isHiddenInPath c = false := by
  have hbounds : 37 ≤ c.toNat ∧ c.toNat ≤ 126 := by
    simp only [isUnreserved, Bool.or_eq_true, beq_iff_eq] at h
    rcases h with rfl | (((hc | rfl) | rfl) | rfl) | rfl
    · decide
    · have hkey := toNat_of_isNameChar (c := c) (by simp [isNameChar, hc])
      omega
    · decide
    · decide
    · decide
    · decide
  have hne : ∀ d : Char, d ≠ '%' ∧ isUnreserved d = false → c ≠ d := by
    rintro d ⟨hpercent, hd⟩ rfl
    rcases h with h | h
    · exact hpercent h
    · rw [hd] at h
      cases h
  refine ⟨hne _ (by decide), hne _ (by decide), ?_⟩
  simp only [isHiddenInPath, Bool.or_eq_false_iff, decide_eq_false_iff_not, Char.not_le,
    Char.not_lt, List.contains_eq_mem]
  refine ⟨⟨?_, ?_⟩, ?_⟩
  · change 32 < c.toNat
    omega
  · change c.toNat ≤ 126
    omega
  · intro hmem
    have hmarks : ['"', '#', '<', '>', '?', '^', '\x60', '\x7b', '\x7d'].all
        (fun d => d != '%' && !isUnreserved d) = true := by decide
    have hmark := List.all_eq_true.1 hmarks c hmem
    exact hne c (by simpa using hmark) rfl

/-- So are the characters of an encoded text. -/
theorem hasPlainChars_percentEncode (s : List Char) : HasPlainChars (percentEncode s) :=
  fun _ hc => plain_of_isUnreserved (isUnreserved_of_mem_percentEncode hc)

/-- A name is encoded to a segment that stays as it is, unless it is made of one or two
points. -/
theorem isPlainSegment_percentEncode {name : String} (hhere : name ≠ ".") (habove : name ≠ "..") :
    IsPlainSegment (percentEncode name.toList) where
  here := by
    rw [← Bool.not_eq_true, isHere_percentEncode_iff]
    exact hhere
  above := by
    rw [← Bool.not_eq_true, isAbove_percentEncode_iff]
    exact habove
  chars := hasPlainChars_percentEncode name.toList

end Http

end PatchReview
