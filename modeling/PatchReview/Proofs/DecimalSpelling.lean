import PatchReview.Proofs.MarkupScalars

/-!
# Spellings of whole numbers

A whole number is read from more texts than the one that it is printed as: a plus sign, zeros
before the first other digit, and a minus sign before zero are read, and not printed.  Every
other text that is read as a number is what the number is printed as.

Main results:

- Theorem `Text.toDigits_digitsValue_iff`: digits are those of their value exactly if no zero
  is in front.
- Theorem `Text.toString_of_readInt64_iff`: which texts are printed again as they are read.
-/

namespace PatchReview.Text

/-! ## Digits -/

/-- A digit is the one of its value. -/
theorem digitChar_of_isDigit {c : Char} (hc : c.isDigit = true) :
    c.toNat - '0'.toNat < 10 ∧ Nat.digitChar (c.toNat - '0'.toNat) = c := by
  obtain ⟨hlow, hhigh⟩ := Char.isDigit_iff_toNat.1 hc
  have hzero : '0'.toNat = 48 := rfl
  have hnine : '9'.toNat = 57 := rfl
  have hlt : c.toNat - '0'.toNat < 10 := by omega
  refine ⟨hlt, Char.toNat_inj.1 ?_⟩
  rw [Nat.toNat_digitChar_of_lt_ten hlt]
  omega

/-- Digits are put behind those of a number by reading on. -/
theorem toDigits_append_digits {n : Nat} (hn : 0 < n) {s : List Char}
    (hs : ∀ c ∈ s, c.isDigit = true) :
    Nat.toDigits 10 n ++ s = Nat.toDigits 10 (Nat.ofDigitChars 10 s n) := by
  induction s generalizing n with
  | nil => exact List.append_nil _
  | cons c s ih =>
      obtain ⟨hc, hs⟩ := List.forall_mem_cons.1 hs
      obtain ⟨hlt, hdigit⟩ := digitChar_of_isDigit hc
      have hone : Nat.toDigits 10 n ++ [c] = Nat.toDigits 10 (10 * n + (c.toNat - '0'.toNat)) := by
        rw [← Nat.toDigits_append_toDigits (by decide) hn hlt, Nat.toDigits_of_lt_base hlt, hdigit]
      calc
        Nat.toDigits 10 n ++ c :: s = (Nat.toDigits 10 n ++ [c]) ++ s := by simp
        _ = Nat.toDigits 10 (10 * n + (c.toNat - '0'.toNat)) ++ s := by rw [hone]
        _ = Nat.toDigits 10 (Nat.ofDigitChars 10 (c :: s) n) := by
          rw [ih (by omega) hs, Nat.ofDigitChars_cons]

/-- The digits of a positive number do not start with zero. -/
theorem head?_toDigits_ne {n : Nat} (hn : 0 < n) : (Nat.toDigits 10 n).head? ≠ some '0' := by
  induction n using Nat.strongRecOn with
  | ind n ih =>
      by_cases hlt : n < 10
      · rw [Nat.toDigits_of_lt_base hlt, List.head?_singleton, Ne, Option.some.injEq,
          Nat.digitChar_eq_zero]
        omega
      · rw [Nat.toDigits_of_base_le (by decide) (by omega),
          List.head?_append_of_ne_nil _ Nat.toDigits_ne_nil]
        exact ih (n / 10) (by omega) (by omega)

/-- Digits are those of their value exactly if no zero stands before another digit. -/
theorem toDigits_digitsValue_iff {s : List Char} (hne : s ≠ []) (hs : ∀ c ∈ s, c.isDigit = true) :
    Nat.toDigits 10 (digitsValue s) = s ↔ s.head? ≠ some '0' ∨ s = ['0'] := by
  constructor
  · intro hprinted
    rcases Nat.eq_zero_or_pos (digitsValue s) with hzero | hpos
    · rw [hzero, Nat.toDigits_zero] at hprinted
      exact .inr hprinted.symm
    · exact .inl (hprinted ▸ head?_toDigits_ne hpos)
  · rintro (hhead | rfl)
    · cases s with
      | nil => exact absurd rfl hne
      | cons c rest =>
          obtain ⟨hc, hrest⟩ := List.forall_mem_cons.1 hs
          obtain ⟨hlt, hdigit⟩ := digitChar_of_isDigit hc
          have hpos : 0 < c.toNat - '0'.toNat := by
            refine Nat.pos_of_ne_zero fun hzero => hhead ?_
            rw [← hdigit, hzero]
            rfl
          have hread : digitsValue (c :: rest) =
              Nat.ofDigitChars 10 rest (10 * 0 + (c.toNat - '0'.toNat)) := Nat.ofDigitChars_cons
          rw [hread, Nat.mul_zero, Nat.zero_add, ← toDigits_append_digits hpos hrest,
            Nat.toDigits_of_lt_base hlt, hdigit, List.singleton_append]
    · rfl

/-! ## Signs -/

/-- A spelling that no number is printed in: with a plus sign, or with a zero in front that is
not the whole number. -/
def IsRedundant (s : List Char) : Prop :=
  s.head? = some '+' ∨ ['-', '0'] <+: s ∨ (s.head? = some '0' ∧ s ≠ ['0'])

instance (s : List Char) : Decidable (IsRedundant s) :=
  inferInstanceAs (Decidable (_ ∨ _ ∨ _))

/-- Digits that are read. -/
theorem readDigits_eq_some {s : List Char} {n : Nat} (h : readDigits s = some n) :
    s ≠ [] ∧ (∀ c ∈ s, c.isDigit = true) ∧ digitsValue s = n := by
  rw [readDigits] at h
  split at h
  · next hs =>
    rw [Bool.and_eq_true, Bool.not_eq_true', List.all_eq_true] at hs
    exact ⟨List.isEmpty_eq_false_iff.1 hs.1, hs.2, Option.some.inj h⟩
  · cases h

/-- A number is read from digits, with a sign before them or none. -/
theorem readInt64_cases {s : List Char} {i : Int} (h : readInt64 s = some i) :
    ∃ digits n, readDigits digits = some n ∧
      ((s = '-' :: digits ∧ i = -Int.ofNat n) ∨ (s = '+' :: digits ∧ i = Int.ofNat n) ∨
        (s = digits ∧ i = Int.ofNat n)) := by
  obtain ⟨hread, -⟩ := Option.filter_eq_some_iff.1 h
  split at hread
  · obtain ⟨n, hdigits, rfl⟩ := Option.map_eq_some_iff.1 hread
    exact ⟨_, n, hdigits, .inl ⟨rfl, rfl⟩⟩
  · obtain ⟨n, hdigits, rfl⟩ := Option.map_eq_some_iff.1 hread
    exact ⟨_, n, hdigits, .inr (.inl ⟨rfl, rfl⟩)⟩
  · obtain ⟨n, hdigits, rfl⟩ := Option.map_eq_some_iff.1 hread
    exact ⟨s, n, hdigits, .inr (.inr ⟨rfl, rfl⟩)⟩

/-- A text that is read as a number is what the number is printed as, unless it has a
redundant sign or zero. -/
theorem toString_of_readInt64_iff {s : List Char} {i : Int} (h : readInt64 s = some i) :
    (toString i).toList = s ↔ ¬ IsRedundant s := by
  obtain ⟨digits, n, hread, hsign⟩ := readInt64_cases h
  obtain ⟨hne, hdigits, hvalue⟩ := readDigits_eq_some hread
  have hprinted := toDigits_digitsValue_iff hne hdigits
  rw [hvalue] at hprinted
  have hhead : ∀ c, c.isDigit = false → digits.head? ≠ some c := by
    intro c hc hhead
    rw [hdigits c (List.mem_of_mem_head? hhead)] at hc
    cases hc
  rcases hsign with ⟨rfl, rfl⟩ | ⟨rfl, rfl⟩ | ⟨rfl, rfl⟩
  · have hredundant : IsRedundant ('-' :: digits) ↔ digits.head? = some '0' := by
      cases digits with
      | nil => exact absurd rfl hne
      | cons c rest => simp [IsRedundant, eq_comm]
    rw [hredundant]
    cases n with
    | zero =>
        -- zero is printed without a minus sign, and its digits are zeros
        refine iff_of_false nofun fun hzero => hzero ?_
        rcases em (digits.head? = some '0') with hhead | hhead
        · exact hhead
        · rw [← hprinted.2 (.inl hhead)]
          rfl
    | succ n =>
        have hnotZero : digits ≠ ['0'] := by
          rintro rfl
          cases hvalue
        have hnegative : -Int.ofNat (n + 1) = Int.negSucc n := rfl
        rw [hnegative, Metadata.toList_toString_negSucc, List.cons.injEq, hprinted,
          or_iff_left hnotZero]
        exact ⟨fun h => h.2, fun h => ⟨rfl, h⟩⟩
  · -- no plus sign is printed
    refine iff_of_false ?_ fun hnot => hnot (.inl rfl)
    intro heq
    exact absurd (Metadata.isNameChar_of_mem_toString _ '+' (heq ▸ List.mem_cons_self)) (by decide)
  · have hminus : ¬ ['-', '0'] <+: s := by
      rintro ⟨rest, rfl⟩
      exact hhead '-' rfl rfl
    rw [Metadata.toList_toString_ofNat, hprinted, IsRedundant, or_iff_right (hhead '+' rfl),
      or_iff_right hminus, not_and_or, not_not]

end PatchReview.Text
