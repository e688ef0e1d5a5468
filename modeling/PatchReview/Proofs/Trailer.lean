import PatchReview.Proofs.TrailerForm

/-!
# Reading trailers back

The comment for a finding is its remark, a space and a trailer.  This module says
what signature such a comment is read back with: the first trailer of the remark,
if the remark has one, and the finding's own signature otherwise.  No trailer can
begin in the remark and end behind it, because neither a space nor a `<` can stand
where the remark breaks off.

Main results:

- Theorem `findTrailer_append`: a trailer is found before or behind a ` <`, never
  across it.
- Theorem `extract_commentBody_append`: what is read from a comment that has more
  text behind it.
- Theorem `extract_commentBody`: a comment is read back with
  `Finding.readSignature`.
- Theorem `remark_eq`: the remark is the message, and the rule in parentheses if there is one.
- Theorem `extract_comment`: it is read back with the signature of one whole trailer.
-/

namespace PatchReview

namespace Text

/-- Trimming stops at the `<` if all before it is blank. -/
theorem trimStart_append_of_eq_nil {s : List Char} (t : List Char) (h : trimStart s = []) :
    trimStart (s ++ ' ' :: '<' :: t) = '<' :: t := by
  have hblank : isBlank ' ' = true := by decide
  have hsharp : isBlank '<' = false := by decide
  unfold trimStart at h ⊢
  simp [List.dropWhile_append, h, hblank, hsharp]

/-- Trimming does not reach the space if something before it is not blank. -/
theorem trimStart_append_of_ne_nil {s : List Char} (t : List Char) (h : trimStart s ≠ []) :
    trimStart (s ++ ' ' :: '<' :: t) = trimStart s ++ ' ' :: '<' :: t := by
  unfold trimStart at h ⊢
  simp [List.dropWhile_append, h]

end Text

namespace Signature

/-! ## Trailers do not cross the end of a remark -/

/-- A word none of whose letters is a space is found before the space or not at all. -/
theorem dropWord_append {word s : List Char} (t : List Char)
    (h : ∀ e ∈ word, isSameLetter e ' ' = false) :
    dropWord word (s ++ ' ' :: t) = (dropWord word s).map (· ++ ' ' :: t) := by
  induction word generalizing s with
  | nil => simp [dropWord]
  | cons e word ih =>
      have he : isSameLetter e ' ' = false := h e (by simp)
      have hword : ∀ d ∈ word, isSameLetter d ' ' = false := fun d hd => h d (by simp [hd])
      cases s with
      | nil => simp [dropWord, he]
      | cons c s =>
          by_cases hc : isSameLetter e c = true
          · simp [dropWord, hc, ih hword]
          · simp [dropWord, hc]

/-- The word of a trailer, after blanks, is found before the ` <` or not at all. -/
theorem dropWord_trimStart_append (s t : List Char) :
    dropWord ['m', 'c', 'p', ':', 's', 'i', 'g', '='] (Text.trimStart (s ++ ' ' :: '<' :: t)) =
      (dropWord ['m', 'c', 'p', ':', 's', 'i', 'g', '='] (Text.trimStart s)).map
        (· ++ ' ' :: '<' :: t) := by
  by_cases h : Text.trimStart s = []
  · rw [Text.trimStart_append_of_eq_nil t h, h]
    rfl
  · rw [Text.trimStart_append_of_ne_nil t h]
    exact dropWord_append _ fun e he => (isSameLetter_of_mem_word he).1

/-- The end of a trailer, after blanks, is found before the ` <` or not at all. -/
theorem isSome_dropLeading_trimStart_append (s t : List Char) :
    (Text.dropLeading ['-', '-', '>'] (Text.trimStart (s ++ ' ' :: '<' :: t))).isSome =
      (Text.dropLeading ['-', '-', '>'] (Text.trimStart s)).isSome := by
  by_cases h : Text.trimStart s = []
  · rw [Text.trimStart_append_of_eq_nil t h, h]
    rfl
  · rw [Text.trimStart_append_of_ne_nil t h, Text.dropLeading_append_of_not_mem _ (by decide)]
    simp

/-- A trailer at the front ends before the ` <` or is none. -/
theorem readTrailer_append (s t : List Char) :
    readTrailer (s ++ ' ' :: '<' :: t) = readTrailer s := by
  have hspace : Text.isHexDigit ' ' = false := by decide
  have htake (r : List Char) :
      (r ++ ' ' :: '<' :: t).takeWhile Text.isHexDigit = r.takeWhile Text.isHexDigit := by
    rw [List.takeWhile_append]
    split
    · next h => simp [hspace, (List.takeWhile_sublist Text.isHexDigit).eq_of_length h]
    · rfl
  have hdrop (r : List Char) :
      (r ++ ' ' :: '<' :: t).dropWhile Text.isHexDigit =
        r.dropWhile Text.isHexDigit ++ ' ' :: '<' :: t := by
    rw [List.dropWhile_append]
    split
    · next h => simp [hspace, List.isEmpty_iff.1 h]
    · rfl
  unfold readTrailer
  rw [Text.dropLeading_append_of_not_mem _ (by decide)]
  cases Text.dropLeading ['<', '!', '-', '-'] s with
  | none => rfl
  | some s₁ =>
      simp only [Option.map_some, Option.bind_eq_bind, Option.bind_some,
        dropWord_trimStart_append]
      cases dropWord ['m', 'c', 'p', ':', 's', 'i', 'g', '='] (Text.trimStart s₁) with
      | none => rfl
      | some s₂ =>
          simp only [Option.map_some, Option.bind_some, htake, hdrop,
            isSome_dropLeading_trimStart_append]

/-- A trailer is found before a ` <` or behind it, never across it. -/
theorem findTrailer_append (s t : List Char) :
    findTrailer (s ++ ' ' :: '<' :: t) = (findTrailer s).or (findTrailer ('<' :: t)) := by
  induction s with
  | nil =>
      have hnone : readTrailer (' ' :: '<' :: t) = none := by simp [readTrailer, Text.dropLeading]
      simp [findTrailer, hnone]
  | cons c s ih =>
      have hread : readTrailer (c :: (s ++ ' ' :: '<' :: t)) = readTrailer (c :: s) :=
        readTrailer_append (c :: s) t
      rw [List.cons_append, findTrailer, findTrailer, hread, ih, Option.or_assoc]

end Signature

/-! ## The signature of a finding -/

namespace Digest

/-- The digits of a byte are hexadecimal digits in lower case. -/
theorem isHexDigit_of_mem_hexOfByte {b : UInt8} {c : Char} (h : c ∈ hexOfByte b) :
    Text.isHexDigit c = true ∧ c.toLower = c := by
  have hdigit : ∀ n : Fin 16,
      let d := if n.val < 10 then Char.ofNat ('0'.toNat + n.val)
        else Char.ofNat ('a'.toNat + (n.val - 10))
      Text.isHexDigit d = true ∧ d.toLower = d := by decide
  have hb : b.toNat < 256 := b.toNat_lt
  simp only [hexOfByte, List.mem_cons, List.not_mem_nil, or_false] at h
  rcases h with rfl | rfl
  · exact hdigit ⟨b.toNat / 16, by omega⟩
  · exact hdigit ⟨b.toNat % 16, by omega⟩

/-- A digest has 64 digits. -/
theorem length_hexDigest (text : String) : (hexDigest text).length = 64 := by
  have htwo (bytes : List UInt8) : (bytes.flatMap hexOfByte).length = 2 * bytes.length := by
    induction bytes with
    | nil => rfl
    | cons b bytes ih =>
        rw [List.flatMap_cons, List.length_append, ih, List.length_cons, hexOfByte]
        simp only [List.length_cons, List.length_nil]
        omega
  rw [hexDigest, htwo, length_sha256]

end Digest

namespace Finding

open Signature (IsTrailer HasTrailer)

/-- The digits of a finding's signature are hexadecimal digits in lower case. -/
theorem isHexDigit_of_mem_signature {f : Finding} {c : Char} (h : c ∈ f.signature.toList) :
    Text.isHexDigit c = true ∧ c.toLower = c := by
  rw [signature, String.toList_ofList] at h
  obtain ⟨b, -, hb⟩ := List.mem_flatMap.1 (List.mem_of_mem_take h)
  exact Digest.isHexDigit_of_mem_hexOfByte hb

/-- A signature has sixteen digits. -/
theorem length_signature (f : Finding) : f.signature.toList.length = 16 := by
  rw [signature, String.toList_ofList, List.length_take, Digest.length_hexDigest]
  rfl

/-- A signature has as many digits as a trailer needs. -/
theorem le_length_signature (f : Finding) : 8 ≤ f.signature.toList.length := by
  rw [length_signature]
  omega

/-- A signature is in lower case. -/
theorem map_toLower_signature (f : Finding) :
    f.signature.toList.map Char.toLower = f.signature.toList := by
  rw [List.map_congr_left fun c hc => (isHexDigit_of_mem_signature hc).2, List.map_id']

/-- The trailer at the end of a comment is one. -/
theorem isTrailer_signature (f : Finding) :
    IsTrailer f.signature.toList (Signature.trailer f.signature).toList := by
  have hdigits : ∀ c ∈ f.signature.toList, Text.isHexDigit c = true :=
    fun c hc => (isHexDigit_of_mem_signature hc).1
  have h := Signature.isTrailer_trailer hdigits f.le_length_signature
  rwa [String.ofList_toList] at h

/-! ## Reading comments back -/

/-- The signature that the comment for a finding is read back with: that of the first
trailer in the remark, or else the finding's own. -/
def readSignature (f : Finding) : String :=
  (Signature.extract f.remark).getD f.signature

/-- What is read from the comment for a finding with more text behind it. -/
theorem extract_commentBody_append (f : Finding) (text : String) :
    Signature.extract (f.commentBody ++ text) =
      (Signature.extract f.remark).or (some f.signature) := by
  have hread : Signature.readTrailer ((Signature.trailer f.signature).toList ++ text.toList) =
      some f.signature.toList :=
    Signature.readTrailer_eq_some_iff.2 ⟨_, text.toList, rfl, f.isTrailer_signature⟩
  have htext : (f.commentBody ++ text).toList = f.remark.toList ++ ' ' ::
      ((Signature.trailer f.signature).toList ++ text.toList) := by
    simp [commentBody]
  obtain ⟨t, ht⟩ : ∃ t, (Signature.trailer f.signature).toList ++ text.toList = '<' :: t :=
    ⟨_, by simp [Signature.trailer]; rfl⟩
  rw [ht] at hread htext
  rw [Signature.extract, Signature.extract, htext, Signature.findTrailer_append,
    Signature.findTrailer, hread]
  cases Signature.findTrailer f.remark.toList with
  | none => simp [map_toLower_signature]
  | some digits => simp

/-- A comment is read back with a signature, whatever its finding says. -/
theorem extract_commentBody (f : Finding) :
    Signature.extract f.commentBody = some f.readSignature := by
  have h := extract_commentBody_append f ""
  rw [String.append_empty] at h
  rw [h, readSignature]
  cases Signature.extract f.remark <;> rfl

/-- A comment whose remark has no trailer is read back with the finding's signature. -/
theorem readSignature_of_extract_remark {f : Finding} (h : Signature.extract f.remark = none) :
    f.readSignature = f.signature := by
  rw [readSignature, h, Option.getD_none]

/-- What a comment says to its readers: the message, and behind it the rule if there is one. -/
theorem remark_eq (f : Finding) :
    f.remark = f.message ++ f.ruleId.elim "" fun id => " (rule: " ++ id ++ ")" := by
  rw [remark]
  cases f.ruleId with
  | none => rw [Option.elim_none, String.append_empty]
  | some id => simp only [Option.elim_some, String.append_assoc]

/-- The comment for a finding is its remark, which is the message and the rule if there is one,
and a trailer.  With any text behind it, it is read back with the signature in the remark if
there is one, and with the finding's own otherwise.  So it is the finding's own if the remark
has no trailer; and in any case there is one, made of the digits of a single trailer, which
stands in the remark or is the one that ends the comment. -/
theorem extract_comment (f : Finding) (text : String) :
    f.remark = (f.message ++ f.ruleId.elim "" fun id => " (rule: " ++ id ++ ")") ∧
      f.commentBody = f.remark ++ " " ++ Signature.trailer f.signature ∧
      Signature.extract (f.commentBody ++ text) =
        (Signature.extract f.remark).or (some f.signature) ∧
      (¬ HasTrailer f.remark → Signature.extract (f.commentBody ++ text) = some f.signature) ∧
      ∃ digits piece, IsTrailer digits piece ∧
        Signature.extract (f.commentBody ++ text) =
          some (String.ofList (digits.map Char.toLower)) ∧
        (piece <:+: f.remark.toList ∨
          ¬ HasTrailer f.remark ∧ piece = (Signature.trailer f.signature).toList) := by
  have hread := extract_commentBody_append f text
  refine ⟨f.remark_eq, rfl, hread, ?_, ?_⟩
  · intro hnone
    rw [hread, Signature.extract_eq_none_iff.2 hnone, Option.none_or]
  · cases hremark : Signature.findTrailer f.remark.toList with
    | some digits =>
        obtain ⟨before, piece, after, heq, hpiece, -⟩ := Signature.exists_of_findTrailer hremark
        refine ⟨digits, piece, hpiece, ?_, Or.inl ⟨before, after, ?_⟩⟩
        · rw [hread, Signature.extract, hremark]
          rfl
        · rw [heq, List.append_assoc]
    | none =>
        have hnone : Signature.extract f.remark = none := by rw [Signature.extract, hremark]; rfl
        refine ⟨_, _, isTrailer_signature f, ?_, Or.inr ⟨Signature.extract_eq_none_iff.1 hnone, rfl⟩⟩
        rw [hread, hnone, map_toLower_signature, String.ofList_toList, Option.none_or]

/-- A comment that names a rule, and what is read back from it with an answer below. -/
theorem extract_comment_with_rule :
    let f : Finding := {
      path := "src/a.ts", position := 2, message := "Avoid TODO comments.", ruleId := some "r" }
    f.remark = "Avoid TODO comments. (rule: r)" ∧
      f.commentBody = "Avoid TODO comments. (rule: r) <!-- mcp:sig=52652b776f745188 -->" ∧
      Signature.extract (f.commentBody ++ "\nDone.") = some "52652b776f745188" := by
  decide +kernel

end Finding

end PatchReview
