import Mathlib.Data.List.TakeWhile
import PatchReview.Config.Literal
import PatchReview.Proofs.ReferenceSpellings

/-!
# Texts that are literals

The text of a variable is read as a literal where it is one as a whole.  This module gives
the numbers among the literals by their spelling, and says of every name, a text of letters,
digits, points, underscores and dashes, whether it stands for itself.

Main definitions:

- `Literal.IsNumber`: how numbers are spelled.
- `Literal.IsName`: names.
- `Literal.SpellsTyped`: texts that are spelled as truth values or as numbers.

Main results:

- Theorem `Text.isSome_readDecimal_iff`: which texts with a point are decimal numbers.
- Theorem `Literal.isNumber_iff`: numbers are what one of the readers for numbers takes.
- Theorem `Literal.ofBare_cases`: a literal without quotes is a number exactly if it is
  spelled as one.
- Theorem `Literal.ofLiteral_name`: what a name stands for.
-/

namespace PatchReview

/-! ## Spellings of numbers -/

namespace Text

/-- Digits, at least one. -/
def IsDigits (s : List Char) : Prop :=
  s ≠ [] ∧ ∀ c ∈ s, c.isDigit = true

/-- A sign or none. -/
def IsSign (s : List Char) : Prop :=
  s = [] ∨ s = ['+'] ∨ s = ['-']

/-- An exponent: a letter, a sign or none, and digits. -/
def IsExponent (s : List Char) : Prop :=
  ∃ letter sign digits, s = letter :: (sign ++ digits) ∧ (letter = 'e' ∨ letter = 'E') ∧
    IsSign sign ∧ IsDigits digits

/-- A decimal number with a point: digits on at least one side of the point, and maybe an
exponent. -/
def IsDecimal (s : List Char) : Prop :=
  ∃ whole fraction exponent, s = whole ++ '.' :: (fraction ++ exponent) ∧
    IsDigits (whole ++ fraction) ∧ (exponent = [] ∨ IsExponent exponent)

theorem readDigits_eq_some_iff {s : List Char} {n : Nat} :
    readDigits s = some n ↔ IsDigits s ∧ digitsValue s = n := by
  simp [readDigits, IsDigits]

theorem isSome_readDigits_iff {s : List Char} : (readDigits s).isSome = true ↔ IsDigits s := by
  simp [Option.isSome_iff_exists, readDigits_eq_some_iff]

/-- Digits begin with a digit. -/
theorem IsDigits.of_cons {c : Char} {s : List Char} (h : IsDigits (c :: s)) : c.isDigit = true :=
  h.2 c (by simp)

/-- What is read as a natural number: digits, with a plus sign in front or none. -/
theorem isSome_readNatBelow_iff {bound : Nat} {s : List Char} :
    (readNatBelow bound s).isSome = true ↔ ∃ sign digits, s = sign ++ digits ∧
      (sign = [] ∨ sign = ['+']) ∧ IsDigits digits ∧ digitsValue digits < bound := by
  have hread : ∀ digits, ((readDigits digits).filter (· < bound)).isSome = true ↔
      IsDigits digits ∧ digitsValue digits < bound := by
    intro digits
    rw [Option.isSome_filter, Option.any_eq_true]
    simp [readDigits_eq_some_iff]
  constructor
  · intro h
    unfold readNatBelow at h
    split at h
    · next rest => exact ⟨['+'], rest, rfl, .inr rfl, (hread rest).1 h⟩
    · exact ⟨[], s, rfl, .inl rfl, (hread s).1 h⟩
  · rintro ⟨sign, digits, rfl, rfl | rfl, h⟩
    · unfold readNatBelow
      split
      · next rest hplus =>
        rw [List.nil_append] at hplus
        rw [hplus] at h
        exact absurd h.1.of_cons (by decide)
      · exact (hread digits).2 h
    · exact (hread digits).2 h

/-- What is read as an exponent after its letter: digits, with a sign in front or none. -/
theorem isSome_readExponent_iff {s : List Char} :
    (readExponent s).isSome = true ↔ ∃ sign digits, s = sign ++ digits ∧ IsSign sign ∧
      IsDigits digits := by
  constructor
  · intro h
    unfold readExponent at h
    split at h <;> rw [Option.isSome_map, isSome_readDigits_iff] at h
    · next rest => exact ⟨['+'], rest, rfl, .inr (.inl rfl), h⟩
    · next rest => exact ⟨['-'], rest, rfl, .inr (.inr rfl), h⟩
    · exact ⟨[], s, rfl, .inl rfl, h⟩
  · rintro ⟨sign, digits, rfl, rfl | rfl | rfl, h⟩
    · unfold readExponent
      split <;> rw [Option.isSome_map, isSome_readDigits_iff]
      · next rest hplus =>
        rw [List.nil_append] at hplus
        rw [hplus] at h
        exact absurd h.of_cons (by decide)
      · next rest hminus =>
        rw [List.nil_append] at hminus
        rw [hminus] at h
        exact absurd h.of_cons (by decide)
      · exact h
    · simpa [readExponent, isSome_readDigits_iff] using h
    · simpa [readExponent, isSome_readDigits_iff] using h

/-- A point is no digit, so it does not stand in an exponent. -/
theorem IsExponent.point_notMem {s : List Char} (h : IsExponent s) : '.' ∉ s := by
  rcases h with ⟨letter, sign, digits, rfl, hletter, hsign, hdigits⟩
  intro hpoint
  simp only [List.mem_cons, List.mem_append] at hpoint
  rcases hpoint with heq | hmem | hmem
  · rcases hletter with rfl | rfl <;> cases heq
  · rcases hsign with rfl | rfl | rfl <;> simp at hmem
  · exact absurd (hdigits.2 '.' hmem) (by decide)

/-- The decimal number with some digits before and after the point, given what is behind its
digits: nothing or an exponent. -/
def Decimal.ofParts? (whole : List Char) (fraction : Option (List Char)) (rest : List Char) :
    Option Decimal :=
  if whole.isEmpty && (fraction.getD []).isEmpty then none
  else match rest with
    | [] => some ⟨whole, fraction, none⟩
    | c :: rest =>
      if c = 'e' ∨ c = 'E' then (readExponent rest).map fun e => ⟨whole, fraction, some e⟩
      else none

theorem isSome_ofParts?_iff {whole rest : List Char} {fraction : Option (List Char)} :
    (Decimal.ofParts? whole fraction rest).isSome = true ↔
      whole ++ fraction.getD [] ≠ [] ∧ (rest = [] ∨ IsExponent rest) := by
  have hempty : (whole.isEmpty && (fraction.getD []).isEmpty) = true ↔
      whole ++ fraction.getD [] = [] := by simp
  unfold Decimal.ofParts?
  rw [if_congr hempty rfl rfl]
  by_cases hdigits : whole ++ fraction.getD [] = []
  · simp [hdigits]
  · rw [if_neg hdigits, and_iff_right hdigits]
    cases rest with
    | nil => simp
    | cons c rest =>
        by_cases hc : c = 'e' ∨ c = 'E'
        · simp only [hc, if_true, Option.isSome_map, isSome_readExponent_iff, reduceCtorEq,
            false_or]
          constructor
          · rintro ⟨sign, digits, rfl, hsign, hnumber⟩
            exact ⟨c, sign, digits, rfl, hc, hsign, hnumber⟩
          · rintro ⟨letter, sign, digits, heq, -, hsign, hnumber⟩
            cases heq
            exact ⟨sign, digits, rfl, hsign, hnumber⟩
        · simp only [hc, if_false, Option.isSome_none, Bool.false_eq_true, reduceCtorEq, false_or,
            false_iff]
          rintro ⟨letter, sign, digits, heq, hletter, -⟩
          cases heq
          exact hc hletter

/-- A decimal number is cut behind its first digits, and behind those after a point. -/
theorem readDecimal_eq (s : List Char) :
    readDecimal s = match s.dropWhile Char.isDigit with
      | '.' :: rest => Decimal.ofParts? (s.takeWhile Char.isDigit)
          (some (rest.takeWhile Char.isDigit)) (rest.dropWhile Char.isDigit)
      | rest => Decimal.ofParts? (s.takeWhile Char.isDigit) none rest := by
  unfold readDecimal
  cases s.dropWhile Char.isDigit with
  | nil => rfl
  | cons c rest =>
      by_cases hc : c = '.'
      · subst hc
        rfl
      · simp [Decimal.ofParts?, hc]

/-- A text with a point that is read as a decimal number is one, and the other way round. -/
theorem isSome_readDecimal_iff {s : List Char} :
    '.' ∈ s ∧ (readDecimal s).isSome = true ↔ IsDecimal s := by
  have hsplit := List.takeWhile_append_dropWhile (p := Char.isDigit) (l := s)
  have hwhole : ∀ c ∈ s.takeWhile Char.isDigit, c.isDigit = true :=
    fun c hc => List.all_eq_true.1 List.all_takeWhile c hc
  rw [readDecimal_eq]
  constructor
  · rintro ⟨hpoint, hread⟩
    split at hread
    · next rest hrest =>
      rw [isSome_ofParts?_iff, Option.getD_some] at hread
      rw [hrest] at hsplit
      refine ⟨s.takeWhile Char.isDigit, rest.takeWhile Char.isDigit,
        rest.dropWhile Char.isDigit, ?_, ⟨hread.1, ?_⟩, hread.2⟩
      · rw [List.takeWhile_append_dropWhile, hsplit]
      · intro c hc
        rcases List.mem_append.1 hc with hc | hc
        · exact hwhole c hc
        · exact List.all_eq_true.1 List.all_takeWhile c hc
    -- neither the digits nor an exponent behind them hold the point
    · next rest hrest =>
      rw [isSome_ofParts?_iff] at hread
      rw [← hsplit, List.mem_append] at hpoint
      rcases hpoint with hpoint | hpoint
      · exact absurd (hwhole '.' hpoint) (by decide)
      · rcases hread.2 with hnil | hexponent
        · simp [hnil] at hpoint
        · exact absurd hpoint hexponent.point_notMem
  · rintro ⟨whole, fraction, exponent, rfl, ⟨hne, hdigits⟩, hexponent⟩
    rw [List.forall_mem_append] at hdigits
    have hend : ∀ c ∈ exponent.head?, c.isDigit = false := by
      rcases hexponent with rfl | ⟨letter, sign, digits, rfl, rfl | rfl, -⟩ <;> simp
    have hpoint : ∀ c ∈ ('.' :: (fraction ++ exponent)).head?, c.isDigit = false := by simp
    rcases span_append hdigits.1 hpoint with ⟨htake, hdrop⟩
    rcases span_append hdigits.2 hend with ⟨hfraction, hrest⟩
    refine ⟨by simp, ?_⟩
    rw [htake, hdrop]
    simp only [hfraction, hrest, isSome_ofParts?_iff, Option.getD_some]
    exact ⟨hne, hexponent⟩

/-- The negative numbers of 64 bits. -/
theorem isInt64_neg_iff (n : Nat) : isInt64 (-Int.ofNat n) = true ↔ n ≤ signedBound64 := by
  have hpos : 0 < signedBound64 := by decide
  simp only [isInt64, Bool.and_eq_true, decide_eq_true_eq, Int.ofNat_eq_natCast]
  omega

/-- Natural numbers that are read as signed ones are below the bound of these. -/
theorem isSome_filter_isInt64 (digits : List Char) :
    (((readDigits digits).map Int.ofNat).filter isInt64).isSome =
      ((readDigits digits).filter (· < signedBound64)).isSome := by
  have hnatural : ∀ n : Nat, isInt64 (Int.ofNat n) = decide (n < signedBound64) := by
    intro n
    rw [Bool.eq_iff_iff]
    simp only [isInt64, Bool.and_eq_true, decide_eq_true_eq, Int.ofNat_eq_natCast]
    omega
  cases readDigits digits with
  | none => rfl
  | some n =>
      rw [Option.map_some, Option.isSome_filter, Option.isSome_filter, Option.any_some,
        Option.any_some, hnatural]

/-- What is read as a signed integer: what is read as a natural number in its range, and digits
with a minus sign in front. -/
theorem isSome_readInt64_iff {s : List Char} :
    (readInt64 s).isSome = true ↔ (readNatBelow signedBound64 s).isSome = true ∨
      ∃ digits, s = '-' :: digits ∧ IsDigits digits ∧ digitsValue digits ≤ signedBound64 := by
  unfold readInt64
  split
  · next rest =>
    have hnone : (readNatBelow signedBound64 ('-' :: rest)).isSome = false := by
      simp [readNatBelow, readDigits]
    rw [hnone, Option.isSome_filter, Option.any_map, Option.any_eq_true]
    simp only [readDigits_eq_some_iff, isInt64_neg_iff, Bool.false_eq_true, false_or]
    constructor
    · rintro ⟨n, ⟨hdigits, rfl⟩, hle⟩
      exact ⟨rest, rfl, hdigits, hle⟩
    · rintro ⟨digits, heq, hdigits, hle⟩
      cases heq
      exact ⟨_, ⟨hdigits, rfl⟩, hle⟩
  · next rest =>
    rw [isSome_filter_isInt64]
    simp [readNatBelow]
  · next hminus hplus =>
    have hnone : ¬ ∃ digits, s = '-' :: digits ∧ IsDigits digits ∧
        digitsValue digits ≤ signedBound64 := by
      rintro ⟨digits, rfl, -⟩
      exact hminus digits rfl
    have hsame : readNatBelow signedBound64 s = (readDigits s).filter (· < signedBound64) := by
      unfold readNatBelow
      split
      · next rest => exact absurd rfl (hplus rest)
      · rfl
    rw [isSome_filter_isInt64, hsame, or_iff_left hnone]

end Text

/-! ## Literals without quotes -/

namespace Config.Literal

open Text

/-- How numbers are spelled: natural numbers of 64 bits, maybe with a plus sign, negative
numbers of 64 bits, and decimal numbers with a point, maybe with a sign. -/
inductive IsNumber : List Char → Prop where
  | natural {sign digits : List Char} (hsign : sign = [] ∨ sign = ['+'])
      (hdigits : IsDigits digits) (hlt : digitsValue digits < bound64) :
      IsNumber (sign ++ digits)
  | negative {digits : List Char} (hdigits : IsDigits digits)
      (hle : digitsValue digits ≤ signedBound64) : IsNumber ('-' :: digits)
  | decimal {sign body : List Char} (hsign : IsSign sign) (hbody : IsDecimal body) :
      IsNumber (sign ++ body)

/-- A decimal number begins with a digit or with its point. -/
theorem head?_of_isDecimal {c : Char} {s : List Char} (h : IsDecimal (c :: s)) :
    c.isDigit = true ∨ c = '.' := by
  rcases h with ⟨whole, fraction, exponent, heq, ⟨-, hdigits⟩, -⟩
  cases whole with
  | nil =>
      cases heq
      exact .inr rfl
  | cons d whole =>
      cases heq
      exact .inl (hdigits c (by simp))

/-- A number begins with a sign, a digit or its point. -/
theorem head?_of_isNumber {c : Char} {s : List Char} (h : IsNumber (c :: s)) :
    c.isDigit = true ∨ c ∈ ['.', '+', '-'] := by
  generalize hcs : c :: s = cs at h
  cases h with
  | natural hsign hdigits =>
      rcases hsign with rfl | rfl
      · rw [List.nil_append] at hcs
        subst hcs
        exact .inl hdigits.of_cons
      · cases hcs
        simp
  | negative =>
      cases hcs
      simp
  | decimal hsign hbody =>
      rcases hsign with rfl | rfl | rfl
      · rw [List.nil_append] at hcs
        subst hcs
        rcases head?_of_isDecimal hbody with hdigit | rfl
        · exact .inl hdigit
        · simp
      · cases hcs
        simp
      · cases hcs
        simp

/-- A text without the sign in front, if it has one. -/
def unsigned (s : List Char) : List Char :=
  match s with
  | '-' :: rest => rest
  | '+' :: rest => rest
  | _ => s

/-- A text has a point and is read as a decimal number without its sign exactly if it is spelled
as one. -/
theorem isSome_readDecimal_unsigned_iff {s : List Char} :
    '.' ∈ s ∧ (readDecimal (unsigned s)).isSome = true ↔
      ∃ sign body, s = sign ++ body ∧ IsSign sign ∧ IsDecimal body := by
  have hpoint : '.' ∈ s ↔ '.' ∈ unsigned s := by
    unfold unsigned
    split <;> simp
  rw [hpoint, isSome_readDecimal_iff]
  constructor
  · unfold unsigned
    split
    · next rest => exact fun h => ⟨['-'], rest, rfl, .inr (.inr rfl), h⟩
    · next rest => exact fun h => ⟨['+'], rest, rfl, .inr (.inl rfl), h⟩
    · exact fun h => ⟨[], s, rfl, .inl rfl, h⟩
  · rintro ⟨sign, body, rfl, rfl | rfl | rfl, hbody⟩
    · unfold unsigned
      split
      · next rest hminus =>
        rw [List.nil_append] at hminus
        subst hminus
        rcases head?_of_isDecimal hbody with h | h <;> cases h
      · next rest hplus =>
        rw [List.nil_append] at hplus
        subst hplus
        rcases head?_of_isDecimal hbody with h | h <;> cases h
      · exact hbody
    · exact hbody
    · exact hbody

/-- The numbers are what one of the readers for numbers takes. -/
theorem isNumber_iff {s : List Char} :
    IsNumber s ↔ ('.' ∈ s ∧ (readDecimal (unsigned s)).isSome = true) ∨
      (readNatBelow bound64 s).isSome = true ∨ (readInt64 s).isSome = true := by
  rw [isSome_readDecimal_unsigned_iff, isSome_readInt64_iff, isSome_readNatBelow_iff,
    isSome_readNatBelow_iff]
  constructor
  · intro h
    cases h with
    | natural hsign hdigits hlt => exact .inr (.inl ⟨_, _, rfl, hsign, hdigits, hlt⟩)
    | negative hdigits hle => exact .inr (.inr (.inr ⟨_, rfl, hdigits, hle⟩))
    | decimal hsign hbody => exact .inl ⟨_, _, rfl, hsign, hbody⟩
  · rintro (⟨sign, body, rfl, hsign, hbody⟩ | ⟨sign, digits, rfl, hsign, hdigits, hlt⟩ |
      ⟨sign, digits, rfl, hsign, hdigits, hlt⟩ | ⟨digits, rfl, hdigits, hle⟩)
    · exact .decimal hsign hbody
    · exact .natural hsign hdigits hlt
    · exact .natural hsign hdigits (Nat.lt_trans hlt (by decide))
    · exact .negative hdigits hle

/-- A truth value or a number. -/
inductive IsTyped : Value → Prop where
  | bool (b : Bool) : IsTyped (.bool b)
  | int (i : Int) : IsTyped (.int i)
  | real : IsTyped .real

/-- A literal without quotes is a number if it is spelled as one, and else a text. -/
theorem ofBare_cases (s : List Char) :
    (IsNumber s ∧ IsTyped (ofBare s)) ∨
      (¬ IsNumber s ∧ ofBare s = .text (String.ofList s)) := by
  have hreal : (s.contains '.' && (readDecimal (unsigned s)).isSome) = true ↔
      '.' ∈ s ∧ (readDecimal (unsigned s)).isSome = true := by simp
  rw [isNumber_iff, ← hreal]
  by_cases hdecimal : (s.contains '.' && (readDecimal (unsigned s)).isSome) = true
  · have hbare : ofBare s = .real := if_pos hdecimal
    rw [hbare]
    exact .inl ⟨.inl hdecimal, .real⟩
  · have hbare : ofBare s = _ := if_neg hdecimal
    cases hnat : readNatBelow bound64 s with
    | some n =>
        rw [hnat] at hbare
        rw [hbare]
        exact .inl ⟨.inr (.inl rfl), .int n⟩
    | none =>
        rw [hnat] at hbare
        cases hint : readInt64 s with
        | some i =>
            rw [hint] at hbare
            rw [hbare]
            exact .inl ⟨.inr (.inr rfl), .int i⟩
        | none =>
            rw [hint] at hbare
            refine .inr ⟨?_, hbare⟩
            rintro (h | h | h)
            · exact hdecimal h
            · cases h
            · cases h

/-! ## Names -/

/-- A name: letters, digits, points, underscores and dashes, at least one. -/
structure IsName (v : String) : Prop where
  ne : v ≠ ""
  chars : v.toList.all PullRequestRef.isRepoChar = true

instance (v : String) : Decidable (IsName v) :=
  decidable_of_iff (v ≠ "" ∧ v.toList.all PullRequestRef.isRepoChar = true)
    ⟨fun h => ⟨h.1, h.2⟩, fun h => ⟨h.ne, h.chars⟩⟩

/-- The spelling of a truth value. -/
def word : Bool → String
  | true => "true"
  | false => "false"

/-- A text that is spelled as a truth value or as a number. -/
def SpellsTyped (v : String) : Prop :=
  (∃ b, v = word b) ∨ IsNumber v.toList

/-- The characters of names have no meaning in literals, and they are not blank. -/
theorem plain_of_isRepoChar {c : Char} (h : PullRequestRef.isRepoChar c = true) :
    isBlank c = false ∧ isSpace c = false ∧ isSeparator c = false ∧ c ≠ '"' ∧ c ≠ '\'' := by
  have hkey : isNameChar c = true ∨ c = '.' := by
    simp only [PullRequestRef.isRepoChar, Bool.or_eq_true, beq_iff_eq] at h
    simp only [isNameChar, Bool.or_eq_true, beq_iff_eq]
    tauto
  have hother : ∀ d, PullRequestRef.isRepoChar d = false → c ≠ d := by
    rintro d hd rfl
    rw [h] at hd
    cases hd
  refine ⟨?_, ?_, ?_, hother _ (by decide), hother _ (by decide)⟩
  · rcases hkey with hkey | rfl
    · exact isBlank_of_isNameChar hkey
    · decide
  · simp only [isSpace, Bool.or_eq_false_iff, beq_eq_false_iff_ne]
    exact ⟨⟨⟨⟨hother _ (by decide), hother _ (by decide)⟩, hother _ (by decide)⟩,
      hother _ (by decide)⟩, hother _ (by decide)⟩
  · simp only [isSeparator, Bool.or_eq_false_iff, beq_eq_false_iff_ne]
    exact ⟨⟨⟨⟨hother _ (by decide), hother _ (by decide)⟩, hother _ (by decide)⟩,
      hother _ (by decide)⟩, hother _ (by decide)⟩

section

variable {s : List Char} (hs : ∀ c ∈ s, PullRequestRef.isRepoChar c = true)
include hs

/-- A name has no blanks at its ends. -/
theorem isTrimmed_of_isRepoChar : IsTrimmed s where
  head c hc := (plain_of_isRepoChar (hs c (List.mem_of_mem_head? hc))).1
  last c hc := (plain_of_isRepoChar (hs c (List.mem_of_getLast? hc))).1

/-- No spaces stand in front of a name. -/
theorem dropWhile_isSpace_of_isRepoChar : s.dropWhile isSpace = s := by
  cases s with
  | nil => rfl
  | cons c rest => simp [(plain_of_isRepoChar (hs c (by simp))).2.1]

/-- A name is read up to its end, or up to the end of the truth value that it begins with. -/
theorem readCore_of_isRepoChar (value : Reader Value) :
    (∃ b rest, s = (word b).toList ++ rest ∧ readCore value s = some (.bool b, rest)) ∨
      (∀ b, s ≠ (word b).toList) ∧ readCore value s = some (ofBare s, []) := by
  have hfirst : ∀ {d : Char} {rest : List Char}, s = d :: rest →
      PullRequestRef.isRepoChar d = true := by
    rintro d rest rfl
    exact hs d (by simp)
  unfold readCore
  split
  · next rest => exact .inl ⟨true, rest, rfl, rfl⟩
  · next rest => exact .inl ⟨false, rest, rfl, rfl⟩
  · next rest => exact absurd (hfirst rfl) (by decide)
  · next rest => exact absurd (hfirst rfl) (by decide)
  · next rest => exact absurd (hfirst rfl) (by decide)
  · next rest => exact absurd (hfirst rfl) (by decide)
  · next rest => exact absurd (hfirst rfl) (by decide)
  · next htrue hfalse _ _ _ _ _ =>
    refine .inr ⟨?_, ?_⟩
    · intro b heq
      cases b with
      | true => exact htrue [] heq
      | false => exact hfalse [] heq
    · have htake : s.takeWhile (!isSeparator ·) = s := by
        rw [List.takeWhile_eq_self_iff]
        intro c hc
        simp [(plain_of_isRepoChar (hs c hc)).2.2.1]
      simp only [htake, (isTrimmed_of_isRepoChar hs).trim_eq, List.drop_length]

end

/-- A text that begins with a truth value is no number. -/
theorem not_isNumber_word_append (b : Bool) (rest : List Char) :
    ¬ IsNumber ((word b).toList ++ rest) := by
  intro h
  cases b with
  | true =>
      have hfirst : 't'.isDigit = true ∨ 't' ∈ ['.', '+', '-'] := head?_of_isNumber h
      revert hfirst
      decide
  | false =>
      have hfirst : 'f'.isDigit = true ∨ 'f' ∈ ['.', '+', '-'] := head?_of_isNumber h
      revert hfirst
      decide

/-- A truth value is not the beginning of another one. -/
theorem word_ne_append (b b' : Bool) (c : Char) (rest : List Char) :
    (word b).toList ≠ (word b').toList ++ c :: rest := by
  cases b <;> cases b' <;> simp [word]

/-- A name that is read up to some place stands for what is read if this is its end, and else for
itself. -/
theorem ofLiteral_of_readCore {v : String} (hs : ∀ c ∈ v.toList, PullRequestRef.isRepoChar c = true)
    {w : Value} {rest : List Char} (hrest : rest.dropWhile isSpace = rest)
    (hread : readCore (readValue v.toList.length) v.toList = some (w, rest)) :
    Value.ofLiteral v = if rest = [] then w else .text v := by
  have hvalue : readValue (v.toList.length + 1) v.toList = some (w, rest) := by
    simp only [readValue, dropWhile_isSpace_of_isRepoChar hs, hread, Option.map_some, hrest]
  unfold Value.ofLiteral
  dsimp only
  rw [(isTrimmed_of_isRepoChar hs).trim_eq, hvalue, String.ofList_toList]
  cases rest with
  | nil => rfl
  | cons c rest => rfl

/-- A name stands for a truth value or a number if it is spelled as one, and else for itself. -/
theorem ofLiteral_name {v : String} (hv : IsName v) :
    (SpellsTyped v ∧ IsTyped (Value.ofLiteral v)) ∨
      (¬ SpellsTyped v ∧ Value.ofLiteral v = .text v) := by
  have hs : ∀ c ∈ v.toList, PullRequestRef.isRepoChar c = true := List.all_eq_true.1 hv.chars
  rcases readCore_of_isRepoChar hs (readValue v.toList.length) with
    ⟨b, rest, heq, hread⟩ | ⟨hnone, hread⟩
  · have hrest : rest.dropWhile isSpace = rest :=
      dropWhile_isSpace_of_isRepoChar fun c hc => hs c (by simp [heq, hc])
    rw [ofLiteral_of_readCore hs hrest hread]
    cases rest with
    | nil =>
        rw [List.append_nil, String.toList_inj] at heq
        rw [if_pos rfl]
        exact .inl ⟨.inl ⟨b, heq⟩, .bool b⟩
    -- behind a truth value there is nothing else in a literal
    | cons c rest =>
        rw [if_neg (List.cons_ne_nil c rest)]
        refine .inr ⟨?_, rfl⟩
        rintro (⟨b', rfl⟩ | hnumber)
        · exact word_ne_append b' b c rest heq
        · rw [heq] at hnumber
          exact not_isNumber_word_append b _ hnumber
  · rw [ofLiteral_of_readCore hs rfl hread, if_pos rfl]
    rcases ofBare_cases v.toList with ⟨hnumber, htyped⟩ | ⟨hnumber, htext⟩
    · exact .inl ⟨.inr hnumber, htyped⟩
    · rw [htext, String.ofList_toList]
      refine .inr ⟨?_, rfl⟩
      rintro (⟨b, rfl⟩ | hspelled)
      · exact hnone b rfl
      · exact hnumber hspelled

end Config.Literal

end PatchReview
