import PatchReview.Pattern.Matcher

/-!
# Searching finds what a pattern matches

The search runs over a text once, with marks on the leaves of the pattern that have
just read a character.  A mark stands for the texts that can complete the pattern from
there, and reading a character takes it off the front of these texts.  So the search
answers whether the pattern matches some piece of the text in its place.

Main results:

- Theorem `Expr.matches_star_cons`: a repetition of a pattern starts with one match
  that reads something.
- Definition `Marked.Resumes`: the texts that complete a pattern from its marks.
- Theorem `Marked.resumes_read_enter`: what the marks stand for after one character.
- Theorem `Expr.isMatch_iff`: the search finds exactly the patterns that occur.
- Theorem `Expr.isMatch_whole`: a pattern with anchors at both ends is found in the texts
  that it matches as a whole.
-/

namespace PatchReview.Pattern

/-! ## Pieces of a text -/

/-- A text with a first character is cut before that character or behind it. -/
theorem exists_cons_eq_append {c : Char} {w : List Char} {P : List Char → List Char → Prop} :
    (∃ u v, c :: w = u ++ v ∧ P u v) ↔ P [] (c :: w) ∨ ∃ u v, w = u ++ v ∧ P (c :: u) v := by
  constructor
  · rintro ⟨u, v, hcut, h⟩
    rcases List.cons_eq_append_iff.1 hcut with ⟨rfl, rfl⟩ | ⟨u', rfl, rfl⟩
    · exact Or.inl h
    · exact Or.inr ⟨u', v, rfl, h⟩
  · rintro (h | ⟨u, v, rfl, h⟩)
    · exact ⟨[], c :: w, rfl, h⟩
    · exact ⟨c :: u, v, rfl, h⟩

/-- The empty text is cut into empty pieces. -/
theorem exists_nil_eq_append {P : List Char → List Char → Prop} :
    (∃ u v, [] = u ++ v ∧ P u v) ↔ P [] [] := by
  constructor
  · rintro ⟨u, v, hcut, h⟩
    obtain ⟨rfl, rfl⟩ := List.append_eq_nil_iff.1 hcut.symm
    exact h
  · exact fun h => ⟨[], [], rfl, h⟩

/-- The character before what follows a piece is the last one of the piece, whatever
stands before it. -/
theorem getLast?_cons_or (c : Char) (u : List Char) (p : Option Char) :
    (c :: u).getLast?.or p = u.getLast?.or (some c) := by
  rw [List.getLast?_cons]
  cases u.getLast? <;> rfl

/-! ## Members of sets -/

namespace CharSet

theorem contains_single_iff {c d : Char} : (single c).contains d = true ↔ d = c := by
  rw [contains_single, beq_iff_eq, eq_comm]

theorem contains_compl_iff {s : CharSet} {c : Char} :
    (compl s).contains c = true ↔ ¬ s.contains c = true := by
  simp [contains]

theorem contains_union_iff {s t : CharSet} {c : Char} :
    (union s t).contains c = true ↔ s.contains c = true ∨ t.contains c = true := by
  simp [contains]

end CharSet

namespace Expr

variable {e f : Expr} {p n : Option Char} {w : List Char}

/-! ## What the forms of patterns match -/

@[simp] theorem matches_empty : Matches .empty p w n ↔ w = [] := by
  constructor
  · rintro ⟨⟩
    rfl
  · rintro rfl
    exact .empty

@[simp] theorem matches_chars {s : CharSet} :
    Matches (.chars s) p w n ↔ ∃ c, w = [c] ∧ s.contains c = true := by
  constructor
  · rintro ⟨⟩
    exact ⟨_, rfl, ‹_›⟩
  · rintro ⟨c, rfl, h⟩
    exact .chars h

@[simp] theorem matches_look {a : Assertion} :
    Matches (.look a) p w n ↔ w = [] ∧ a.holds ⟨p, n⟩ = true := by
  constructor
  · rintro ⟨⟩
    exact ⟨rfl, ‹_›⟩
  · rintro ⟨rfl, h⟩
    exact .look h

theorem matches_seq :
    Matches (.seq e f) p w n ↔ ∃ u v, w = u ++ v ∧ Matches e p u (v.head?.or n) ∧
      Matches f (u.getLast?.or p) v n := by
  constructor
  · rintro ⟨⟩
    exact ⟨_, _, rfl, ‹_›, ‹_›⟩
  · rintro ⟨u, v, rfl, he, hf⟩
    exact .seq he hf

@[simp] theorem matches_alt :
    Matches (.alt e f) p w n ↔ Matches e p w n ∨ Matches f p w n := by
  constructor
  · intro h
    cases h with
    | altLeft h => exact Or.inl h
    | altRight h => exact Or.inr h
  · rintro (h | h)
    · exact .altLeft h
    · exact .altRight h

@[simp] theorem matches_char {c : Char} : Matches (.char c) p w n ↔ w = [c] := by
  simp only [char, matches_chars, CharSet.contains_single_iff]
  exact exists_eq_right

@[simp] theorem matches_optional : Matches (.optional e) p w n ↔ Matches e p w n ∨ w = [] := by
  rw [optional, matches_alt, matches_empty]

/-- A repetition that reads something starts with a match that does. -/
theorem matches_star_cons {c : Char} :
    Matches (.star e) p (c :: w) n ↔ ∃ u v, w = u ++ v ∧ Matches e p (c :: u) (v.head?.or n) ∧
      Matches (.star e) (u.getLast?.or (some c)) v n := by
  constructor
  · intro h
    generalize hstar : Expr.star e = r at h
    generalize htext : c :: w = t at h
    -- matches of the empty text can come first; they leave the text and its place as they are
    induction h with
    | starCons hfirst hrest _ ih =>
        obtain rfl := Expr.star.inj hstar
        rcases List.cons_eq_append_iff.1 htext with ⟨rfl, rfl⟩ | ⟨u', rfl, rfl⟩
        · exact ih rfl rfl
        · rw [getLast?_cons_or] at hrest
          exact ⟨u', _, rfl, hfirst, hrest⟩
    | starNil => cases htext
    | _ => cases hstar
  · rintro ⟨u, v, rfl, hfirst, hrest⟩
    rw [← getLast?_cons_or c u p] at hrest
    exact .starCons hfirst hrest

/-- A repetition of a set matches the texts whose characters are all in the set. -/
theorem matches_star_chars {s : CharSet} :
    Matches (.star (.chars s)) p w n ↔ ∀ c ∈ w, s.contains c = true := by
  induction w generalizing p with
  | nil => exact ⟨fun _ => nofun, fun _ => .starNil⟩
  | cons c w ih =>
      rw [matches_star_cons, List.forall_mem_cons]
      constructor
      · rintro ⟨u, v, rfl, hfirst, hrest⟩
        obtain ⟨d, hone, hd⟩ := matches_chars.1 hfirst
        obtain ⟨rfl, rfl⟩ := List.cons.inj hone
        exact ⟨hd, ih.1 hrest⟩
      · rintro ⟨hc, hw⟩
        exact ⟨[], w, rfl, .chars hc, ih.2 hw⟩

/-- Patterns one after the other match what the first matches, and then the others. -/
theorem matches_seqAll_cons {es : List Expr} :
    Matches (seqAll (e :: es)) p w n ↔ ∃ u v, w = u ++ v ∧ Matches e p u (v.head?.or n) ∧
      Matches (seqAll es) (u.getLast?.or p) v n := by
  cases es with
  | nil =>
      constructor
      · exact fun h => ⟨w, [], (List.append_nil w).symm, h, .empty⟩
      · rintro ⟨u, v, rfl, he, hempty⟩
        obtain rfl := matches_empty.1 hempty
        rw [List.append_nil]
        exact he
  | cons f es => exact matches_seq

/-- Given characters one after the other match just themselves. -/
theorem matches_seqAll_chars {s : List Char} {es : List Expr} :
    Matches (seqAll (s.map char ++ es)) p w n ↔
      ∃ v, w = s ++ v ∧ Matches (seqAll es) (s.getLast?.or p) v n := by
  induction s generalizing p w with
  | nil => simp
  | cons c s ih =>
      simp only [List.map_cons, List.cons_append, matches_seqAll_cons, matches_char, ih,
        getLast?_cons_or]
      constructor
      · rintro ⟨_, _, rfl, rfl, v, rfl, hes⟩
        exact ⟨v, rfl, hes⟩
      · rintro ⟨v, rfl, hes⟩
        exact ⟨[c], s ++ v, rfl, rfl, v, rfl, hes⟩

end Expr

/-! ## Marks -/

namespace Marked

/-- The pattern without its marks. -/
def erase : Marked → Expr
  | .empty => .empty
  | .chars s _ => .chars s
  | .look a => .look a
  | .seq e f => .seq e.erase f.erase
  | .alt e f => .alt e.erase f.erase
  | .star e => .star e.erase

/-- `m.Resumes p w n` says that the text `w` completes the pattern from one of its marks,
where `p` is the character that the mark has read and `n` the one after `w`. -/
def Resumes : Marked → Option Char → List Char → Option Char → Prop
  | .empty, _, _, _ => False
  | .chars _ mark, _, w, _ => mark = true ∧ w = []
  | .look _, _, _, _ => False
  | .seq e f, p, w, n =>
    f.Resumes p w n ∨ ∃ u v, w = u ++ v ∧ e.Resumes p u (v.head?.or n) ∧
      f.erase.Matches (u.getLast?.or p) v n
  | .alt e f, p, w, n => e.Resumes p w n ∨ f.Resumes p w n
  | .star e, p, w, n =>
    ∃ u v, w = u ++ v ∧ e.Resumes p u (v.head?.or n) ∧
      (Expr.star e.erase).Matches (u.getLast?.or p) v n

@[simp] theorem erase_enter (g : Gap) (start : Bool) (m : Marked) :
    (m.enter g start).erase = m.erase := by
  induction m generalizing start with
  | seq e f ihe ihf => simp [enter, erase, ihe, ihf]
  | alt e f ihe ihf => simp [enter, erase, ihe, ihf]
  | star e ih => simp [enter, erase, ih]
  | _ => rfl

@[simp] theorem erase_read (c : Char) (m : Marked) : (m.read c).erase = m.erase := by
  induction m with
  | seq e f ihe ihf => simp [read, erase, ihe, ihf]
  | alt e f ihe ihf => simp [read, erase, ihe, ihf]
  | star e ih => simp [read, erase, ih]
  | _ => rfl

@[simp] theorem erase_unmarked (e : Expr) : e.unmarked.erase = e := by
  induction e with
  | seq e f ihe ihf => simp [Expr.unmarked, erase, ihe, ihf]
  | alt e f ihe ihf => simp [Expr.unmarked, erase, ihe, ihf]
  | star e ih => simp [Expr.unmarked, erase, ih]
  | _ => rfl

/-- A pattern is passed at a gap if it matches the empty text there. -/
theorem passes_iff (m : Marked) (p n : Option Char) :
    m.passes ⟨p, n⟩ = true ↔ m.erase.Matches p [] n := by
  induction m with
  | empty => simp [passes, erase]
  | chars s mark => simp [passes, erase]
  | look a => simp [passes, erase]
  | seq e f ihe ihf =>
      simp only [passes, erase, Bool.and_eq_true, ihe, ihf, Expr.matches_seq, exists_nil_eq_append]
      rfl
  | alt e f ihe ihf => simp [passes, erase, ihe, ihf]
  | star e ih =>
      simp only [passes, erase, true_iff]
      exact .starNil

/-- A mark leaves a pattern at a gap if the empty text completes the pattern there. -/
theorem exits_iff (m : Marked) (p n : Option Char) :
    m.exits ⟨p, n⟩ = true ↔ m.Resumes p [] n := by
  induction m with
  | empty => simp [exits, Resumes]
  | chars s mark => simp [exits, Resumes]
  | look a => simp [exits, Resumes]
  | seq e f ihe ihf =>
      simp only [exits, Resumes, Bool.or_eq_true, Bool.and_eq_true, ihe, ihf, passes_iff,
        exists_nil_eq_append]
      rfl
  | alt e f ihe ihf => simp [exits, Resumes, ihe, ihf]
  | star e ih =>
      have hnil : (Expr.star e.erase).Matches p [] n := .starNil
      simp only [exits, Resumes, ih, exists_nil_eq_append]
      exact ⟨fun h => ⟨h, hnil⟩, And.left⟩

/-- A pattern without marks is not completed from any. -/
theorem not_resumes_unmarked (e : Expr) (p n : Option Char) (w : List Char) :
    ¬ e.unmarked.Resumes p w n := by
  induction e generalizing p n w with
  | seq e f ihe ihf => simp [Expr.unmarked, Resumes, ihe, ihf]
  | alt e f ihe ihf => simp [Expr.unmarked, Resumes, ihe, ihf]
  | star e ih => simp [Expr.unmarked, Resumes, ih]
  | _ => simp [Expr.unmarked, Resumes]

/-- After one character the marks stand for the texts that complete the pattern behind
it: from a mark before, or from the start of the pattern. -/
theorem resumes_read_enter (m : Marked) (start : Bool) (c : Char) (p n : Option Char)
    (w : List Char) :
    ((m.enter ⟨p, some c⟩ start).read c).Resumes (some c) w n ↔
      m.Resumes p (c :: w) n ∨ (start = true ∧ m.erase.Matches p (c :: w) n) := by
  induction m generalizing start w n with
  | empty => simp [enter, read, Resumes, erase]
  | look a => simp [enter, read, Resumes, erase]
  | chars s mark =>
      simp only [enter, read, Resumes, erase, Bool.and_eq_true, Expr.matches_chars, List.cons.injEq,
        reduceCtorEq, and_false, false_or]
      constructor
      · rintro ⟨⟨hstart, hc⟩, rfl⟩
        exact ⟨hstart, c, ⟨rfl, rfl⟩, hc⟩
      · rintro ⟨hstart, d, ⟨rfl, rfl⟩, hd⟩
        exact ⟨⟨hstart, hd⟩, rfl⟩
  | alt e f ihe ihf =>
      simp only [enter, read, Resumes, erase, ihe, ihf, Expr.matches_alt, and_or_left]
      exact or_or_or_comm
  | seq e f ihe ihf =>
      simp only [enter, read, Resumes, erase, ihe, ihf, Expr.matches_seq, exists_cons_eq_append,
        erase_read, erase_enter, Bool.or_eq_true, Bool.and_eq_true, exits_iff, passes_iff,
        getLast?_cons_or]
      constructor
      -- the second part is entered from the first, or the first part has read the character
      · rintro ((hf | ⟨he | ⟨hstart, he⟩, hf⟩) | ⟨u, v, rfl, he | ⟨hstart, he⟩, hf⟩)
        · exact Or.inl (Or.inl hf)
        · exact Or.inl (Or.inr (Or.inl ⟨he, hf⟩))
        · exact Or.inr ⟨hstart, Or.inl ⟨he, hf⟩⟩
        · exact Or.inl (Or.inr (Or.inr ⟨u, v, rfl, he, hf⟩))
        · exact Or.inr ⟨hstart, Or.inr ⟨u, v, rfl, he, hf⟩⟩
      · rintro ((hf | ⟨he, hf⟩ | ⟨u, v, rfl, he, hf⟩) |
          ⟨hstart, ⟨he, hf⟩ | ⟨u, v, rfl, he, hf⟩⟩)
        · exact Or.inl (Or.inl hf)
        · exact Or.inl (Or.inr ⟨Or.inl he, hf⟩)
        · exact Or.inr ⟨u, v, rfl, Or.inl he, hf⟩
        · exact Or.inl (Or.inr ⟨Or.inr ⟨hstart, he⟩, hf⟩)
        · exact Or.inr ⟨u, v, rfl, Or.inr ⟨hstart, he⟩, hf⟩
  | star e ih =>
      simp only [enter, read, Resumes, erase, ih, exists_cons_eq_append, erase_read, erase_enter,
        Bool.or_eq_true, exits_iff, getLast?_cons_or]
      constructor
      -- the character is the first of a round; this is the first round or follows a mark
      · rintro ⟨u, v, rfl, he | ⟨hstart | hmark, he⟩, hrest⟩
        · exact Or.inl (Or.inr ⟨u, v, rfl, he, hrest⟩)
        · exact Or.inr ⟨hstart, Expr.matches_star_cons.2 ⟨u, v, rfl, he, hrest⟩⟩
        · exact Or.inl (Or.inl ⟨hmark, Expr.matches_star_cons.2 ⟨u, v, rfl, he, hrest⟩⟩)
      · rintro ((⟨hmark, hrest⟩ | ⟨u, v, rfl, he, hrest⟩) | ⟨hstart, hrest⟩)
        · obtain ⟨u, v, rfl, he, hrest⟩ := Expr.matches_star_cons.1 hrest
          exact ⟨u, v, rfl, Or.inr ⟨Or.inr hmark, he⟩, hrest⟩
        · exact ⟨u, v, rfl, Or.inl he, hrest⟩
        · obtain ⟨u, v, rfl, he, hrest⟩ := Expr.matches_star_cons.1 hrest
          exact ⟨u, v, rfl, Or.inr ⟨Or.inl hstart, he⟩, hrest⟩

/-- The rest of a text is searched for what completes a mark, and for every piece that
the pattern matches in its place. -/
theorem finds_iff (m : Marked) (p : Option Char) (w : List Char) :
    m.finds p w = true ↔ (∃ u v, w = u ++ v ∧ m.Resumes p u v.head?) ∨
      ∃ before rest, w = before ++ rest ∧
        ∃ u v, rest = u ++ v ∧ m.erase.Matches (before.getLast?.or p) u v.head? := by
  induction w generalizing m p with
  | nil =>
      simp only [finds, Bool.or_eq_true, exits_iff, passes_iff, exists_nil_eq_append]
      rfl
  | cons c w ih =>
      simp only [finds, Bool.or_eq_true, exits_iff, passes_iff, ih, resumes_read_enter, erase_read,
        erase_enter, exists_cons_eq_append, getLast?_cons_or]
      simp only [true_and, and_or_left, exists_or, List.head?_cons, List.getLast?_nil, Option.none_or]
      rw [← or_assoc, or_or_or_comm, or_assoc]

end Marked

/-- A search finds a pattern in a text exactly if the pattern occurs in it. -/
theorem Expr.isMatch_iff (e : Expr) (text : List Char) :
    e.isMatch text = true ↔ e.OccursIn text := by
  rw [isMatch, Marked.finds_iff]
  simp only [Marked.not_resumes_unmarked, and_false, exists_false, false_or, Marked.erase_unmarked,
    Option.or_none]
  constructor
  · rintro ⟨before, _, rfl, piece, after, rfl, h⟩
    exact ⟨before, piece, after, (List.append_assoc _ _ _).symm, h⟩
  · rintro ⟨before, piece, after, rfl, h⟩
    exact ⟨before, _, List.append_assoc _ _ _, piece, after, rfl, h⟩

/-! ## Patterns for whole texts -/

namespace Expr

/-- Patterns up to the end of the text match there what they match. -/
theorem matches_seqAll_textEnd (es : List Expr) {p n : Option Char} {w : List Char} :
    Matches (seqAll (es ++ [.look .textEnd])) p w n ↔ n = none ∧ Matches (seqAll es) p w n := by
  induction es generalizing p w with
  | nil =>
      have hend : Matches (seqAll ([] ++ [.look .textEnd])) p w n ↔ w = [] ∧ n.isNone = true :=
        matches_look
      rw [hend, Option.isNone_iff_eq_none, and_comm]
      exact and_congr_right fun _ => matches_empty.symm
  | cons e es ih =>
      simp only [List.cons_append, matches_seqAll_cons, ih]
      constructor
      · rintro ⟨u, v, rfl, he, hn, hes⟩
        exact ⟨hn, u, v, rfl, he, hes⟩
      · rintro ⟨hn, u, v, rfl, he, hes⟩
        exact ⟨u, v, rfl, he, hn, hes⟩

/-- Patterns between the start and the end of the text are found where they match the
whole text. -/
theorem isMatch_whole (es : List Expr) (text : List Char) :
    (seqAll (.look .textStart :: (es ++ [.look .textEnd]))).isMatch text = true ↔
      Matches (seqAll es) none text none := by
  rw [isMatch_iff]
  constructor
  · rintro ⟨before, piece, after, rfl, h⟩
    rw [matches_seqAll_cons] at h
    obtain ⟨u, v, rfl, hstart, hes⟩ := h
    obtain ⟨rfl, hbefore⟩ := matches_look.1 hstart
    obtain ⟨hafter, hes⟩ := (matches_seqAll_textEnd es).1 hes
    -- nothing stands before the start of the text or behind its end
    have hbefore : before = [] := List.getLast?_eq_none_iff.1 (Option.isNone_iff_eq_none.1 hbefore)
    have hafter : after = [] := List.head?_eq_none_iff.1 hafter
    subst hbefore hafter
    simpa using hes
  · intro h
    refine ⟨[], text, [], by simp, ?_⟩
    rw [matches_seqAll_cons]
    exact ⟨[], text, rfl, .look rfl, (matches_seqAll_textEnd es).2 ⟨rfl, h⟩⟩

end Expr

end PatchReview.Pattern
