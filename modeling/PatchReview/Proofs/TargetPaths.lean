import Mathlib.Data.List.TakeWhile
import PatchReview.Proofs.ChangedFiles
import PatchReview.Proofs.PercentDecoding

/-!
# Paths of targets

The target of an address has the segments of the path of the address, except that some
segments are followed as in a directory.  Segments that are followed leave nothing behind, and
all others stay as they are.

Main definitions:

- `pathText`: the text of a path, by its segments.
- `segmentsOf` and `queryOf`: the segments of the path in a target, and its query.
- `follow`: what one segment does to the segments before it.

Main results:

- Theorem `followSegments_append`: segments are followed one after the other.
- Theorem `followSegments_plain`: plain segments stay as they are.
- Theorem `exists_target?_path`: the segments and the query of the target of an address.
-/

namespace PatchReview.Http

open Text

/-! ## Segments of a path -/

/-- The text of a path: its segments, each behind a slash. -/
def pathText (segments : List (List Char)) : List Char :=
  segments.flatMap ('/' :: ·)

@[simp]
theorem pathText_append (first second : List (List Char)) :
    pathText (first ++ second) = pathText first ++ pathText second :=
  List.flatMap_append

/-- The segments of the path in a target. -/
def segmentsOf (target : String) : List (List Char) :=
  (fields (· == '/') (target.toList.takeWhile (· ≠ '?'))).drop 1

/-- The query of a target with its mark; nothing if it has none. -/
def queryOf (target : String) : String :=
  String.ofList (target.toList.dropWhile (· ≠ '?'))

/-- The segments of a path are the fields between its slashes. -/
theorem fields_append_pathText {first : List Char} {segments : List (List Char)}
    (hfirst : '/' ∉ first) (h : ∀ segment ∈ segments, '/' ∉ segment) :
    fields (· == '/') (first ++ pathText segments) = first :: segments := by
  induction segments generalizing first with
  | nil => simp [pathText, fields_of_notMem hfirst]
  | cons segment segments ih =>
      rw [List.forall_mem_cons] at h
      have hpath : pathText (segment :: segments) = '/' :: (segment ++ pathText segments) := rfl
      rw [hpath, fields_append_cons, fields_of_notMem hfirst, ih h.1 h.2]
      rfl

/-- A character that stands in a path is a slash or stands in a segment. -/
theorem mem_pathText {c : Char} {segments : List (List Char)} (h : c ∈ pathText segments) :
    c = '/' ∨ ∃ segment ∈ segments, c ∈ segment := by
  rcases List.mem_flatMap.1 h with ⟨segment, hsegment, hc⟩
  rcases List.mem_cons.1 hc with rfl | hc
  · exact .inl rfl
  · exact .inr ⟨segment, hsegment, hc⟩

/-! ## Following segments -/

/-- What one segment does to the segments before it, last one first, if the path goes on
behind it. -/
def follow (done : List (List Char)) (segment : List Char) : List (List Char) :=
  if isAbove segment then done.drop 1
  else if isHere segment then done
  else segment :: done

/-- A path that goes on is followed segment by segment. -/
theorem followSegments_append {rest : List (List Char)} (hrest : rest ≠ [])
    (done segments : List (List Char)) :
    followSegments done (segments ++ rest) = followSegments (segments.foldl follow done) rest := by
  induction segments generalizing done with
  | nil => rfl
  | cons segment segments ih =>
      have hmore : segments ++ rest ≠ [] := by simp [hrest]
      have hstep : followSegments done (segment :: (segments ++ rest)) =
          followSegments (follow done segment) (segments ++ rest) := by
        simp only [followSegments, if_neg hmore, follow]
        split
        · rfl
        · split <;> rfl
      rw [List.cons_append, hstep, ih, List.foldl_cons]

/-- A plain segment is added to those before it. -/
theorem follow_plain {segment : List Char} (h : IsPlainSegment segment)
    (done : List (List Char)) : follow done segment = segment :: done := by
  simp [follow, h.here, h.above]

/-- Plain segments stay as they are. -/
theorem foldl_follow_plain {segments : List (List Char)}
    (h : ∀ segment ∈ segments, IsPlainSegment segment) (done : List (List Char)) :
    segments.foldl follow done = segments.reverse ++ done := by
  induction segments generalizing done with
  | nil => rfl
  | cons segment segments ih =>
      rw [List.forall_mem_cons] at h
      rw [List.foldl_cons, follow_plain h.1, ih h.2]
      simp

/-- Plain segments stay as they are also at the end of a path. -/
theorem followSegments_plain {segments : List (List Char)}
    (h : ∀ segment ∈ segments, IsPlainSegment segment) (done : List (List Char)) :
    followSegments done segments = done.reverse ++ segments := by
  induction segments generalizing done with
  | nil => simp [followSegments]
  | cons segment segments ih =>
      rw [List.forall_mem_cons] at h
      rw [followSegments, if_neg (by simp [h.1.above]), if_neg (by simp [h.1.here]), ih h.2]
      simp

/-- A segment that is not added leaves no more segments than there were before. -/
theorem length_follow_le {segment : List Char}
    (h : isHere segment = true ∨ isAbove segment = true) (done : List (List Char)) :
    (follow done segment).length ≤ done.length := by
  unfold follow
  split
  · simp
  · next habove => simp [h.resolve_right habove]

/-- One segment leaves at most one segment more. -/
theorem length_follow_le_succ (segment : List Char) (done : List (List Char)) :
    (follow done segment).length ≤ done.length + 1 := by
  unfold follow
  split
  · simp only [List.length_drop]
    omega
  · split <;> simp

/-- One segment brings in no others than itself, and an empty one at the end of a path. -/
theorem exists_followSegments_cons (done : List (List Char)) (segment : List Char)
    (rest : List (List Char)) :
    ∃ next, followSegments done (segment :: rest) = followSegments next rest ∧
      ∀ s ∈ next, s = [] ∨ s = segment ∨ s ∈ done := by
  have hended : ∀ {before : List (List Char)}, (∀ s ∈ before, s ∈ done) →
      ∀ s ∈ (if rest = [] then [] :: before else before), s = [] ∨ s = segment ∨ s ∈ done := by
    intro before hbefore s hs
    by_cases hrest : rest = []
    · rw [if_pos hrest, List.mem_cons] at hs
      exact hs.imp_right fun hmem => .inr (hbefore s hmem)
    · rw [if_neg hrest] at hs
      exact .inr (.inr (hbefore s hs))
  rw [followSegments]
  by_cases habove : isAbove segment = true
  · rw [if_pos habove]
    exact ⟨_, rfl, hended fun s => List.mem_of_mem_drop⟩
  · rw [if_neg habove]
    by_cases hhere : isHere segment = true
    · rw [if_pos hhere]
      exact ⟨_, rfl, hended fun s => id⟩
    · rw [if_neg hhere]
      refine ⟨_, rfl, fun s hs => ?_⟩
      exact .inr (List.mem_cons.1 hs)

/-- The segments of a followed path are some that it had, or an empty one at its end. -/
theorem mem_of_mem_followSegments {segments done : List (List Char)} {segment : List Char}
    (h : segment ∈ followSegments done segments) :
    segment = [] ∨ segment ∈ done ∨ segment ∈ segments := by
  induction segments generalizing done with
  | nil =>
      rw [followSegments, List.mem_reverse] at h
      exact .inr (.inl h)
  | cons first segments ih =>
      rcases exists_followSegments_cons done first segments with ⟨next, hfollow, hnext⟩
      rw [hfollow] at h
      rcases ih h with hempty | hmem | hmem
      · exact .inl hempty
      · rcases hnext segment hmem with hempty | rfl | hdone
        · exact .inl hempty
        · exact .inr (.inr List.mem_cons_self)
        · exact .inr (.inl hdone)
      · exact .inr (.inr (List.mem_cons_of_mem _ hmem))

/-! ## Targets -/

theorem hide_append (test : Char → Bool) (first second : List Char) :
    hide test (first ++ second) = hide test first ++ hide test second :=
  List.flatMap_append

/-- Characters that are none of a class are written as they are. -/
theorem hide_eq_self {test : Char → Bool} {s : List Char} (h : ∀ c ∈ s, test c = false) :
    hide test s = s := by
  induction s with
  | nil => rfl
  | cons c s ih =>
      rw [List.forall_mem_cons] at h
      have hcons : hide test (c :: s) = [c] ++ hide test s := by
        simp [hide, h.1]
      rw [hcons, ih h.2, List.singleton_append]

section

variable {segments : List (List Char)} (h : ∀ segment ∈ segments, HasPlainChars segment)
include h

/-- The marks that end a path are not in it. -/
theorem ne_of_mem_pathText {c : Char} (hc : c ∈ pathText segments) : c ≠ '?' ∧ c ≠ '#' := by
  rcases mem_pathText hc with rfl | ⟨segment, hsegment, hmem⟩
  · decide
  · have hplain := (h segment hsegment c hmem).2.2
    constructor
    · rintro rfl
      cases hplain
    · rintro rfl
      cases hplain

/-- The segments of a path stand behind its slashes. -/
theorem drop_fields_pathText : (fields (· == '/') (pathText segments)).drop 1 = segments := by
  have hfields : fields (· == '/') ([] ++ pathText segments) = [] :: segments :=
    fields_append_pathText List.not_mem_nil fun segment hsegment hc =>
      (h segment hsegment '/' hc).1 rfl
  rw [← List.nil_append (pathText segments), hfields, List.drop_one, List.tail_cons]

/-- The path of an address ends at the mark of its query. -/
theorem span_pathText_append {query : List Char} (hquery : ∀ c ∈ query.head?, c = '?') :
    (pathText segments ++ query).takeWhile (· ≠ '?') = pathText segments ∧
      (pathText segments ++ query).dropWhile (· ≠ '?') = query := by
  apply span_append
  · intro c hc
    simpa using (ne_of_mem_pathText h hc).1
  · intro c hc
    simpa using hquery c hc

/-- The segments in a target are those of its path, and the query follows them. -/
theorem segmentsOf_pathText_append {query : List Char} (hquery : ∀ c ∈ query.head?, c = '?') :
    segmentsOf (String.ofList (pathText segments ++ query)) = segments ∧
      queryOf (String.ofList (pathText segments ++ query)) = String.ofList query := by
  obtain ⟨hpath, hrest⟩ := span_pathText_append h hquery
  rw [segmentsOf, queryOf, String.toList_ofList, hpath, hrest, drop_fields_pathText h]
  exact ⟨rfl, rfl⟩

/-- Following segments brings in no other characters. -/
theorem hasPlainChars_followSegments :
    ∀ segment ∈ followSegments [] segments, HasPlainChars segment := by
  intro segment hsegment
  rcases mem_of_mem_followSegments hsegment with rfl | hmem | hmem
  · exact nofun
  · cases hmem
  · exact h segment hmem

/-- The path of a target is the followed path of the address. -/
theorem pathOf_pathText : pathOf (pathText segments) = pathText (followSegments [] segments) := by
  rw [pathOf, drop_fields_pathText h, pathText]
  apply List.flatMap_congr
  intro segment hsegment
  rw [hide_eq_self fun c hc => (hasPlainChars_followSegments h segment hsegment c hc).2.2]

end

/-! ## Addresses -/

/-- A server: it is not empty, and has none of the marks that end it. -/
structure IsServer (s : List Char) : Prop where
  ne_nil : s ≠ []
  chars : ∀ c ∈ s, endsServer c = false ∧ c ≠ '\\'

instance (s : List Char) : Decidable (IsServer s) :=
  have : Decidable (∀ c ∈ s, endsServer c = false ∧ c ≠ '\\') :=
    List.decidableBAll (fun c => endsServer c = false ∧ c ≠ '\\') s
  decidable_of_iff (s ≠ [] ∧ ∀ c ∈ s, endsServer c = false ∧ c ≠ '\\')
    ⟨fun h => ⟨h.1, h.2⟩, fun h => ⟨h.ne_nil, h.chars⟩⟩

/-- A query with its mark, or nothing; it has no hash sign. -/
structure IsQuery (s : List Char) : Prop where
  head : ∀ c ∈ s.head?, c = '?'
  hash : '#' ∉ s

/-- The query of a target has its mark as well. -/
theorem IsQuery.head_hide {query : List Char} (h : IsQuery query) :
    ∀ c ∈ (hide isHiddenInQuery query).head?, c = '?' := by
  cases query with
  | nil => exact nofun
  | cons c rest =>
      obtain rfl : c = '?' := h.head c rfl
      intro d hd
      cases hd
      rfl

/-- Behind a server, the target of an address has the segments of its path, some of them
followed, and its query. -/
theorem exists_target?_path {url : String} {server query : List Char}
    {segments : List (List Char)} (hserver : IsServer server)
    (hsegments : ∀ segment ∈ segments, HasPlainChars segment) (hne : segments ≠ [])
    (hquery : IsQuery query)
    (hurl : afterScheme url.toList = some (server ++ (pathText segments ++ query))) :
    ∃ target, target? url = some target ∧ segmentsOf target = followSegments [] segments ∧
      queryOf target = String.ofList (hide isHiddenInQuery query) := by
  rcases List.exists_cons_of_ne_nil hne with ⟨first, rest, hcons⟩
  have hslash : pathText segments = '/' :: (first ++ pathText rest) := by
    rw [hcons]
    rfl
  have hpath : pathText segments ≠ [] := by simp [hslash]
  have hend : (server ++ (pathText segments ++ query)).takeWhile (!endsServer ·) = server := by
    refine (span_append ?_ ?_).1
    · intro c hc
      simp [(hserver.chars c hc).1]
    · simp [hslash, endsServer]
  have hhash : (pathText segments ++ query).takeWhile (· ≠ '#') = pathText segments ++ query := by
    rw [List.takeWhile_eq_self_iff]
    intro c hc
    rw [decide_eq_true_eq]
    rcases List.mem_append.1 hc with hc | hc
    · exact (ne_of_mem_pathText hsegments hc).2
    · rintro rfl
      exact hquery.hash hc
  refine ⟨String.ofList (pathText (followSegments [] segments) ++ hide isHiddenInQuery query),
    ?_, ?_⟩
  · simp only [target?, hurl, Option.bind_eq_bind, Option.bind_some, hend,
      if_neg hserver.ne_nil, List.drop_left, hhash, (span_pathText_append hsegments hquery.head).1,
      if_neg hpath, pathOf_pathText hsegments]
    rfl
  · exact segmentsOf_pathText_append (hasPlainChars_followSegments hsegments) hquery.head_hide

end PatchReview.Http
