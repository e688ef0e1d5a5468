import PatchReview.Rules.FilePattern

/-!
# What a file pattern is read as

A file pattern is cut into parts from left to right, each part is written in the notation
of patterns, and the reader of patterns makes of the whole just what the parts stand for.
No character of a file pattern can disturb it: those that mean something in patterns are
escaped.

Main results:

- Definition `parts`: the parts of a file pattern.
- Theorem `body_eq`: the written pattern is that of the parts, one after the other.
- Theorem `readLoop_spell`: the reader takes a part off the front and keeps its pattern.
- Theorem `ofText?_toPattern`: every file pattern can be read, whatever its characters.
-/

namespace PatchReview

open Pattern

namespace FilePattern

/-! ## Parts -/

/-- A part of a file pattern. -/
inductive Part where
  /-- `**/` -/
  | directories
  /-- `**` with no slash behind it. -/
  | anything
  /-- `*` -/
  | name
  /-- Any other character. -/
  | literal (c : Char)
  deriving DecidableEq, Repr

/-- The parts of a file pattern, from left to right. -/
def parts : List Char → List Part
  | '*' :: '*' :: '/' :: rest => .directories :: parts rest
  | '*' :: '*' :: rest => .anything :: parts rest
  | '*' :: rest => .name :: parts rest
  | c :: rest => .literal c :: parts rest
  | [] => []

example : parts "***/a*".toList = [.anything, .name, .literal '/', .literal 'a', .name] := by
  decide

namespace Part

/-- How a part is written in the notation of patterns. -/
def spell : Part → List Char
  | .directories => anyDirectories
  | .anything => anyText
  | .name => anyName
  | .literal c => FilePattern.literal c

/-- The pattern that a part is read as. -/
def expr : Part → Expr
  | .directories => .optional (.seq (.star (.chars (.compl (.single '\n')))) (.char '/'))
  | .anything => .star (.chars (.compl (.single '\n')))
  | .name => .star (.chars (.compl (.single '/')))
  | .literal c => .char c

end Part

/-- The pattern of some parts: they match a whole text, one after the other. -/
def exprOf (ps : List Part) : Expr :=
  .seqAll (.look .textStart :: (ps.map Part.expr ++ [.look .textEnd]))

/-- A file pattern is written part by part. -/
theorem body_eq (cs : List Char) : body cs = (parts cs).flatMap Part.spell := by
  induction cs using body.induct with
  | case1 rest ih => simp [body, parts, ih, Part.spell]
  | case2 rest hslash ih =>
      rw [body, parts, ih, List.flatMap_cons, Part.spell] <;> exact hslash
  | case3 rest hslash hstar ih =>
      rw [body, parts, ih, List.flatMap_cons, Part.spell] <;> assumption
  | case4 c rest hslash hstar hname ih =>
      rw [body, parts, ih, List.flatMap_cons, Part.spell] <;> assumption
  | case5 => rfl

/-! ## Reading a part -/

/-- The reader after some patterns, outside of all groups and with no flag set. -/
def reading (es : List Expr) : ReaderState :=
  { flags := {}, items := es.reverse.map Item.expr }

theorem push_reading (es : List Expr) (e : Expr) : (reading es).push e = reading (es ++ [e]) := by
  simp [reading, ReaderState.push]

theorem finish_reading (es : List Expr) : (reading es).finish = .ok (.seqAll es) := by
  have hitems : es.filterMap some = es := List.filterMap_some
  simp only [reading, ReaderState.finish, ReaderState.body, ReaderState.current,
    List.map_reverse, List.reverse_reverse, List.filterMap_map]
  exact congrArg (fun es => Except.ok (Expr.seqAll es)) hitems

/-- A character that is escaped where it has to be is read as itself. -/
theorem readLoop_literal (fuel : Nat) (es : List Expr) (c : Char) (rest : List Char) :
    readLoop (fuel + 1) (reading es) (literal c ++ rest) =
      readLoop fuel ((reading es).push (.char c)) rest := by
  rw [literal]
  split
  · next hmeta =>
    have hescape : escape {} (c :: rest) = .ok (.literal c, rest) := if_pos hmeta
    simp only [readLoop, reading, List.cons_append, List.nil_append, Flags.skip,
      Bool.false_eq_true, if_false, hescape]
    rfl
  · next hmeta =>
    simp only [readLoop, reading, List.cons_append, List.nil_append, Flags.skip,
      Bool.false_eq_true, if_false]
    -- a character with a branch of its own in the reader is one that is escaped
    split <;> rename_i heq <;> cases heq <;> first | exact absurd rfl hmeta | rfl

/-- A part is read in at most as many rounds as it is long.  A question mark behind it
would belong to its repetition. -/
theorem readLoop_spell (part : Part) :
    ∃ rounds, rounds ≤ part.spell.length ∧
      ∀ (fuel : Nat) (es : List Expr) (rest : List Char), rest.head? ≠ some '?' →
        readLoop (fuel + rounds) (reading es) (part.spell ++ rest) =
          readLoop fuel (reading (es ++ [part.expr])) rest := by
  have hlazy : ∀ rest : List Char, rest.head? ≠ some '?' → dropLazy rest = rest := by
    intro rest hrest
    unfold dropLazy
    split
    · exact absurd rfl hrest
    · rfl
  simp only [← push_reading]
  cases part with
  | directories =>
      refine ⟨6, by decide, fun fuel es rest hrest => ?_⟩
      have hread : readLoop (fuel + 6) (reading es) (anyDirectories ++ rest) =
          readLoop fuel ((reading es).push Part.directories.expr) (dropLazy rest) := rfl
      rwa [hlazy rest hrest] at hread
  | anything =>
      refine ⟨2, by decide, fun fuel es rest hrest => ?_⟩
      have hread : readLoop (fuel + 2) (reading es) (anyText ++ rest) =
          readLoop fuel ((reading es).push Part.anything.expr) (dropLazy rest) := rfl
      rwa [hlazy rest hrest] at hread
  | name =>
      refine ⟨2, by decide, fun fuel es rest hrest => ?_⟩
      have hread : readLoop (fuel + 2) (reading es) (anyName ++ rest) =
          readLoop fuel ((reading es).push Part.name.expr) (dropLazy rest) := rfl
      rwa [hlazy rest hrest] at hread
  | literal c =>
      refine ⟨1, ?_, fun fuel es rest _ => readLoop_literal fuel es c rest⟩
      simp only [Part.spell, literal]
      split <;> simp

/-! ## Reading a file pattern -/

/-- No part is written with a question mark at its front. -/
theorem head?_spell_ne (part : Part) (rest : List Char) : (part.spell ++ rest).head? ≠ some '?' := by
  cases part with
  | literal c =>
      simp only [Part.spell, literal]
      split
      · simp
      · next hmeta =>
        rintro heq
        cases heq
        exact hmeta rfl
  | _ => simp [Part.spell, anyDirectories, anyText, anyName]

/-- The parts of a file pattern up to its end are read as their patterns. -/
theorem readLoop_parts (ps : List Part) (es : List Expr) {fuel : Nat}
    (hfuel : (ps.flatMap Part.spell).length + 2 ≤ fuel) :
    readLoop fuel (reading es) (ps.flatMap Part.spell ++ ['$']) =
      .ok (.seqAll (es ++ (ps.map Part.expr ++ [.look .textEnd]))) := by
  induction ps generalizing es fuel with
  | nil =>
      obtain ⟨fuel, rfl⟩ := Nat.exists_eq_add_of_le' hfuel
      have hend : readLoop (fuel + 2) (reading es) ['$'] =
          ((reading es).push (.look .textEnd)).finish := rfl
      rw [push_reading, finish_reading] at hend
      exact hend
  | cons part ps ih =>
      obtain ⟨rounds, hrounds, hread⟩ := readLoop_spell part
      have hhead : (ps.flatMap Part.spell ++ ['$']).head? ≠ some '?' := by
        cases ps with
        | nil => simp
        | cons next ps =>
            rw [List.flatMap_cons, List.append_assoc]
            exact head?_spell_ne next _
      rw [List.flatMap_cons, List.length_append] at hfuel
      obtain ⟨fuel, rfl⟩ : ∃ fuel', fuel = fuel' + rounds := ⟨fuel - rounds, by omega⟩
      rw [List.flatMap_cons, List.append_assoc, hread fuel es _ hhead, ih _ (by omega)]
      simp

/-- Every file pattern can be read, whatever its characters. -/
theorem ofText?_toPattern (p : String) :
    Expr.ofText? (toPattern p).toList false = .ok (exprOf (parts p.toList)) := by
  have hstart : ∀ (fuel : Nat) (rest : List Char),
      readLoop (fuel + 1) (reading []) ('^' :: rest) =
        readLoop fuel (reading [.look .textStart]) rest := fun _ _ => rfl
  have hread := readLoop_parts (parts p.toList) [.look .textStart] (Nat.le_refl _)
  rw [← hstart] at hread
  have hlength : ('^' :: ((parts p.toList).flatMap Part.spell ++ ['$'])).length + 1 =
      ((parts p.toList).flatMap Part.spell).length + 2 + 1 := by simp
  rw [Expr.ofText?, toPattern, String.toList_ofList, body_eq, List.cons_append, hlength]
  exact hread

end FilePattern

end PatchReview
