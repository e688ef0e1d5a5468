import Mathlib.Data.List.Basic
import PatchReview.Review.Posting

/-!
# Findings that are merged

Two findings with the same signature are posted as one comment.  A signature is taken of
the path, the position, the rule and the message, with a bar between each two.  Paths and
rules may hold bars as well, so one text can be cut in more than one way: it belongs to
several findings.  This module says to which ones.

Main results:

- Structure `SameContent`: findings that agree in all that a signature is taken of.
- Inductive predicate `Recut`: a finding whose text is that of another one, cut at other
  bars.
- Theorem `signatureText_eq_iff`: the findings that have one text.
- Theorem `Recut.differTwice`: in how much such findings differ.
- Theorem `signature_eq_iff`: the findings that are merged.
- Theorem `kept_or_recut_or_collision`: what becomes of the findings that a posting merges
  with others.
-/

namespace PatchReview

/-! ## Cutting a text at a bar -/

/-- Where the text before one bar goes on into that before another one, both are the same
bar, or there is a part between them. -/
theorem Text.eq_or_exists_of_bar_eq {a b c d : String} {between : List Char}
    (hbefore : c.toList = a.toList ++ between)
    (hbehind : '|' :: b.toList = between ++ '|' :: d.toList) :
    (a = c ∧ b = d) ∨ ∃ more, c = a ++ "|" ++ more ∧ b = more ++ "|" ++ d := by
  cases between with
  | nil =>
      left
      simp only [List.append_nil, List.nil_append, List.cons.injEq, true_and] at hbefore hbehind
      exact ⟨(String.toList_inj.1 hbefore).symm, String.toList_inj.1 hbehind⟩
  | cons bar more =>
      right
      simp only [List.cons_append, List.cons.injEq] at hbehind
      obtain ⟨rfl, hbehind⟩ := hbehind
      refine ⟨String.ofList more, String.toList_inj.1 ?_, String.toList_inj.1 ?_⟩
      · simp [hbefore]
      · simp [hbehind]

/-- A text that is cut at two bars: they are the same one, or one of the parts before the
bars goes on behind the other. -/
theorem Text.eq_or_exists_of_append_bar_eq {a b c d : String} (h : a ++ "|" ++ b = c ++ "|" ++ d) :
    (a = c ∧ b = d) ∨ (∃ more, c = a ++ "|" ++ more ∧ b = more ++ "|" ++ d) ∨
      ∃ more, a = c ++ "|" ++ more ∧ d = more ++ "|" ++ b := by
  have hlists : a.toList ++ '|' :: b.toList = c.toList ++ '|' :: d.toList := by
    simpa using congrArg String.toList h
  rcases List.append_eq_append_iff.1 hlists with ⟨between, hc, hb⟩ | ⟨between, ha, hd⟩
  · rcases eq_or_exists_of_bar_eq hc hb with hsame | hmore
    · exact .inl hsame
    · exact .inr (.inl hmore)
  · rcases eq_or_exists_of_bar_eq ha hd with ⟨hca, hdb⟩ | hmore
    · exact .inl ⟨hca.symm, hdb.symm⟩
    · exact .inr (.inr hmore)

/-- The text of a number has no bar in it. -/
theorem Text.toString_ne_append_bar (n : Nat) (before after : String) :
    toString n ≠ before ++ "|" ++ after := by
  intro h
  have hbar : '|' ∈ Nat.toDigits 10 n := by
    rw [← Nat.toList_repr, show n.repr = before ++ "|" ++ after from h]
    simp
  exact notMem_toDigits (by decide) n hbar

/-- Different numbers have different texts. -/
theorem Text.toString_inj {m n : Nat} : toString m = toString n ↔ m = n := by
  constructor
  · intro h
    have hdigits : Nat.toDigits 10 m = Nat.toDigits 10 n := by
      rw [← Nat.toList_repr, ← Nat.toList_repr]
      exact congrArg String.toList h
    calc m = Nat.ofDigitChars 10 (Nat.toDigits 10 m) 0 := Nat.ofDigitChars_ten_toDigits.symm
      _ = Nat.ofDigitChars 10 (Nat.toDigits 10 n) 0 := by rw [hdigits]
      _ = n := Nat.ofDigitChars_ten_toDigits
  · exact congrArg toString

/-- A text that is cut behind two numbers is cut at the same bar. -/
theorem Text.toString_append_bar_inj {m n : Nat} {a b : String} :
    toString m ++ "|" ++ a = toString n ++ "|" ++ b ↔ m = n ∧ a = b := by
  constructor
  · intro h
    rcases eq_or_exists_of_append_bar_eq h with ⟨hnumber, hrest⟩ | ⟨more, hmore, -⟩ |
      ⟨more, hmore, -⟩
    · exact ⟨toString_inj.1 hnumber, hrest⟩
    · exact absurd hmore (toString_ne_append_bar n _ _)
    · exact absurd hmore (toString_ne_append_bar m _ _)
  · rintro ⟨rfl, rfl⟩
    rfl

namespace Finding

/-! ## The text of a finding -/

/-- The rule of a finding as its signature takes it: empty if there is none. -/
def ruleText (f : Finding) : String :=
  f.ruleId.getD ""

/-- Findings that agree in path, position, rule and message. -/
structure SameContent (f g : Finding) : Prop where
  path_eq : f.path = g.path
  position_eq : f.position = g.position
  ruleText_eq : f.ruleText = g.ruleText
  message_eq : f.message = g.message

/-- Findings of which at most one of path, rule and message is the same. -/
def DifferTwice (f g : Finding) : Prop :=
  (f.path ≠ g.path ∨ f.ruleText ≠ g.ruleText) ∧ (f.path ≠ g.path ∨ f.message ≠ g.message) ∧
    (f.ruleText ≠ g.ruleText ∨ f.message ≠ g.message)

/-- The second finding has the text of the first one, cut at other bars. -/
inductive Recut (f g : Finding) : Prop where
  /-- The path goes on: it takes in the position of `f` and what may stand behind it. -/
  | path (more : String)
      (hpath : g.path ++ "|" = f.path ++ "|" ++ toString f.position ++ "|" ++ more)
      (hrest : f.ruleText ++ "|" ++ f.message =
        more ++ toString g.position ++ "|" ++ g.ruleText ++ "|" ++ g.message)
  /-- The rule goes on: it takes in what the message of `f` begins with. -/
  | rule (more : String) (hpath : f.path = g.path) (hposition : f.position = g.position)
      (hrule : g.ruleText = f.ruleText ++ "|" ++ more)
      (hmessage : f.message = more ++ "|" ++ g.message)

/-- Different texts whose digests agree in the digits that signatures take. -/
def Collide (f g : Finding) : Prop :=
  f.signatureText ≠ g.signatureText ∧
    (Digest.hexDigest f.signatureText).take signatureLength =
      (Digest.hexDigest g.signatureText).take signatureLength

/-- The text of a finding, cut at its first bars. -/
theorem signatureText_eq (f : Finding) :
    f.signatureText =
      f.path ++ "|" ++ (toString f.position ++ "|" ++ (f.ruleText ++ "|" ++ f.message)) := by
  simp [signatureText, ruleText, String.append_assoc]

variable {f g : Finding}

theorem SameContent.signatureText_eq (h : SameContent f g) : f.signatureText = g.signatureText := by
  rw [Finding.signatureText_eq, Finding.signatureText_eq, h.path_eq, h.position_eq, h.ruleText_eq,
    h.message_eq]

theorem Recut.signatureText_eq (h : Recut f g) : f.signatureText = g.signatureText := by
  rw [Finding.signatureText_eq f, Finding.signatureText_eq g]
  cases h with
  | path more hpath hrest =>
      rw [hpath, hrest]
      simp [String.append_assoc]
  | rule more hpath hposition hrule hmessage =>
      rw [hpath, hposition, hrule, hmessage]
      simp [String.append_assoc]

/-- A finding that is another one cut at other bars differs from it in two of path, rule and
message. -/
theorem Recut.differTwice (h : Recut f g) : DifferTwice f g := by
  have hbar : "|".length = 1 := rfl
  cases h with
  | path more hpath hrest =>
      have hlength := congrArg String.length hpath
      have hlengthRest := congrArg String.length hrest
      simp only [String.length_append] at hlength hlengthRest
      have hpaths : f.path ≠ g.path := by
        intro heq
        rw [heq] at hlength
        omega
      refine ⟨.inl hpaths, .inl hpaths, ?_⟩
      by_contra! heq
      rw [heq.1, heq.2] at hlengthRest
      omega
  | rule more hpath hposition hrule hmessage =>
      have hrules : f.ruleText ≠ g.ruleText := by
        intro heq
        have hlength := congrArg String.length (heq.trans hrule)
        simp only [String.length_append] at hlength
        omega
      have hmessages : f.message ≠ g.message := by
        intro heq
        have hlength := congrArg String.length (heq.symm.trans hmessage)
        simp only [String.length_append] at hlength
        omega
      exact ⟨.inr hrules, .inr hmessages, .inl hrules⟩

theorem DifferTwice.symm (h : DifferTwice f g) : DifferTwice g f :=
  ⟨h.1.imp Ne.symm Ne.symm, h.2.1.imp Ne.symm Ne.symm, h.2.2.imp Ne.symm Ne.symm⟩

/-- Findings with one text and one path: they agree, or the rule of one goes on. -/
theorem sameContent_or_recut_of_path_eq (hpath : f.path = g.path)
    (hrest : toString f.position ++ "|" ++ (f.ruleText ++ "|" ++ f.message) =
      toString g.position ++ "|" ++ (g.ruleText ++ "|" ++ g.message)) :
    SameContent f g ∨ Recut f g ∨ Recut g f := by
  obtain ⟨hposition, hrest⟩ := Text.toString_append_bar_inj.1 hrest
  rcases Text.eq_or_exists_of_append_bar_eq hrest with ⟨hrule, hmessage⟩ | ⟨more, hrule, hmessage⟩ |
    ⟨more, hrule, hmessage⟩
  · exact .inl ⟨hpath, hposition, hrule, hmessage⟩
  · exact .inr (.inl (.rule more hpath hposition hrule hmessage))
  · exact .inr (.inr (.rule more hpath.symm hposition.symm hrule hmessage))

/-- A path that goes on behind a bar takes in the position of the other finding. -/
theorem recut_of_path_eq {more : String} (hpath : g.path = f.path ++ "|" ++ more)
    (hrest : toString f.position ++ "|" ++ (f.ruleText ++ "|" ++ f.message) =
      more ++ "|" ++ (toString g.position ++ "|" ++ (g.ruleText ++ "|" ++ g.message))) :
    Recut f g := by
  -- `more` is the position of `f`, or it goes on behind that position and a bar.  It is no
  -- part of the position, which has no bar in it.
  rcases Text.eq_or_exists_of_append_bar_eq hrest with ⟨hmore, hrest⟩ | ⟨behind, hmore, hrest⟩ |
    ⟨behind, hposition, -⟩
  · refine .path "" ?_ ?_
    · rw [hpath, hmore]
      simp
    · rw [hrest]
      simp [String.append_assoc]
  · refine .path (behind ++ "|") ?_ ?_
    · rw [hpath, hmore]
      simp [String.append_assoc]
    · rw [hrest]
      simp [String.append_assoc]
  · exact absurd hposition (Text.toString_ne_append_bar f.position _ _)

/-- Two findings have one text exactly if they agree or one is the other cut at other
bars. -/
theorem signatureText_eq_iff :
    f.signatureText = g.signatureText ↔ SameContent f g ∨ Recut f g ∨ Recut g f := by
  constructor
  · intro h
    rw [Finding.signatureText_eq f, Finding.signatureText_eq g] at h
    rcases Text.eq_or_exists_of_append_bar_eq h with ⟨hpath, hrest⟩ | ⟨more, hpath, hrest⟩ |
      ⟨more, hpath, hrest⟩
    · exact sameContent_or_recut_of_path_eq hpath hrest
    · exact .inr (.inl (recut_of_path_eq hpath hrest))
    · exact .inr (.inr (recut_of_path_eq hpath hrest))
  · rintro (h | h | h)
    · exact h.signatureText_eq
    · exact h.signatureText_eq
    · exact h.signatureText_eq.symm

/-- Two findings have one signature exactly if they agree, one is the other cut at other
bars, or their texts collide. -/
theorem signature_eq_iff :
    f.signature = g.signature ↔ SameContent f g ∨ Recut f g ∨ Recut g f ∨ Collide f g := by
  have htexts : f.signature = g.signature ↔
      f.signatureText = g.signatureText ∨ Collide f g := by
    rw [signature, signature, String.ofList_inj, Collide]
    by_cases h : f.signatureText = g.signatureText <;> simp [h]
  rw [htexts, signatureText_eq_iff, or_assoc, or_assoc]

end Finding

/-! ## Merging -/

namespace Posting

open Finding

/-- A finding whose signature is not known is merged with one that is kept. -/
theorem exists_mem_newFindings {known : List String} {findings : List Finding} {g : Finding}
    (hg : g ∈ findings) (hknown : g.signature ∉ known) :
    ∃ f ∈ newFindings known findings, f.signature = g.signature := by
  induction findings generalizing known with
  | nil => cases hg
  | cons f findings ih =>
      rw [newFindings]
      by_cases hsame : f.signature = g.signature
      · rw [if_neg (hsame ▸ hknown)]
        exact ⟨f, List.mem_cons_self, hsame⟩
      · have hmem : g ∈ findings := by
          rcases List.mem_cons.1 hg with rfl | hmem
          · exact absurd rfl hsame
          · exact hmem
        split
        · exact ih hmem hknown
        · have hnot : g.signature ∉ f.signature :: known :=
            List.not_mem_cons_of_ne_of_not_mem (Ne.symm hsame) hknown
          obtain ⟨kept, hkept, hsignature⟩ := ih hmem hnot
          exact ⟨kept, List.mem_cons_of_mem f hkept, hsignature⟩

/-- Findings that differ have different texts to take signatures of, unless one is the
other cut at other bars; then they differ in two of path, rule and message.  So a finding
whose signature is not known is posted itself or merged with one that agrees with it, that
is cut at other bars or whose text collides with its own. -/
theorem kept_or_recut_or_collision (known : List String) (findings : List Finding) :
    (∀ f g : Finding, f.signatureText = g.signatureText ↔
      SameContent f g ∨ Recut f g ∨ Recut g f) ∧
    (∀ f g : Finding, f.signatureText = g.signatureText → SameContent f g ∨ DifferTwice f g) ∧
    ∀ g ∈ findings, g.signature ∉ known → ∃ f ∈ newFindings known findings,
      SameContent f g ∨ Recut f g ∨ Recut g f ∨ Collide f g := by
  refine ⟨fun f g => signatureText_eq_iff, ?_, ?_⟩
  · intro f g htext
    rcases signatureText_eq_iff.1 htext with hsame | hrecut | hrecut
    · exact .inl hsame
    · exact .inr hrecut.differTwice
    · exact .inr hrecut.differTwice.symm
  · intro g hg hknown
    obtain ⟨f, hf, hsignature⟩ := exists_mem_newFindings hg hknown
    exact ⟨f, hf, signature_eq_iff.1 hsignature⟩

/-- A bar in a path: the path of the second finding takes in the position and the rule of
the first one. -/
theorem kept_or_recut_or_collision_bar_in_path :
    let f : Finding := ⟨"a", 1, "2|r|m", some "b", none⟩
    let g : Finding := ⟨"a|1|b", 2, "m", some "r", none⟩
    Recut f g ∧ f.signatureText = g.signatureText ∧ DifferTwice f g := by
  intro f g
  have hrecut : Recut f g := .path "b|" (by decide) (by decide)
  have htext : f.signatureText = g.signatureText :=
    ((kept_or_recut_or_collision [] [f, g]).1 f g).2 (.inr (.inl hrecut))
  exact ⟨hrecut, htext, hrecut.differTwice⟩

/-- A bar in a rule: the message of the first finding begins with what the rule of the
second one goes on with.  The two are posted as one comment. -/
theorem merged_of_bar_in_rule :
    let f : Finding := ⟨"src/a.ts", 2, "b|Avoid this.", some "a", none⟩
    let g : Finding := ⟨"src/a.ts", 2, "Avoid this.", some "a|b", none⟩
    ¬ SameContent f g ∧ f.signatureText = g.signatureText ∧ newFindings [] [f, g] = [f] := by
  intro f g
  have hdiffer : ¬ SameContent f g := fun h => absurd h.message_eq (by decide)
  have htext : f.signatureText = g.signatureText := by decide
  have hsignature : g.signature = f.signature := by
    rw [signature, signature, htext]
  refine ⟨hdiffer, htext, ?_⟩
  simp [newFindings, hsignature]

end Posting

end PatchReview
