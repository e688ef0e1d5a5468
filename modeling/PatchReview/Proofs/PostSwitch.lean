import PatchReview.Cli.Program
import PatchReview.Proofs.LiveSources
import PatchReview.Proofs.ReviewRequests

/-!
# Nothing is posted by accident

The program posts only for a review with the switch for it, or if a configuration source
asks for a live run.

Main results:

- Theorem `mem_of_asksToPost`: a command line that asks to post has the word `--post`.
- Theorem `get_of_run`: without such a command line and such a source, the program sends
  nothing but GET requests.
-/

namespace PatchReview.Cli

open Config (Settings Sources)
open Http (Link)

/-! ## The switch -/

/-- The name of the switch for posting. -/
theorem eq_post_of_switch? {level : Level} {name : String}
    (h : level.switch? name = some .post) : name = "post" := by
  unfold Level.switch? at h
  split at h <;> cases h
  rfl

namespace Given

variable {level : Level} {g g' : Given}

/-- The directory of the rules is no switch. -/
theorem switches_of_putRulesDir {dir : String} (h : g.putRulesDir dir = .ok g') :
    g'.switches = g.switches := by
  unfold putRulesDir at h
  split at h
  · cases h
  · split at h <;> cases h
    rfl

/-- A value for the last switch is no switch. -/
theorem switches_of_settle (h : g.settle = .ok g') : g'.switches = g.switches := by
  unfold settle at h
  split at h
  · cases h
    rfl
  · cases h
  · rw [switches_of_putRulesDir h]

/-- A word that is no switch adds none. -/
theorem switches_of_putWord {word : String} (h : g.putWord level word = .ok g') :
    g'.switches = g.switches := by
  unfold putWord at h
  split at h
  · obtain ⟨settled, hsettle, hput⟩ := exists_of_bind_eq_ok h
    rw [← switches_of_settle hsettle]
    cases hput
    rfl
  · cases h

/-- A switch is added to those before. -/
theorem switches_of_putSwitch {s : Switch} (h : g.putSwitch s = .ok g') :
    g'.switches = s :: g.switches := by
  obtain ⟨settled, hsettle, h⟩ := exists_of_bind_eq_ok h
  rw [← switches_of_settle hsettle]
  split at h
  · cases h
  · cases h
  · split at h <;> cases h
    rfl

/-- No letter stands for the switch for posting. -/
theorem post_mem_of_putLetters {letters : List Char} (h : g.putLetters level letters = .ok g')
    (hpost : .post ∈ g'.switches) : .post ∈ g.switches := by
  induction letters generalizing g with
  | nil =>
      cases h
      exact hpost
  | cons c letters ih =>
      rw [putLetters] at h
      split at h
      · cases h
      · next s hletter =>
        obtain ⟨settled, hput, h⟩ := exists_of_bind_eq_ok h
        have hmem := ih h
        rw [switches_of_putSwitch hput, List.mem_cons] at hmem
        rcases hmem with rfl | hmem
        · unfold Level.letter? at hletter
          split at hletter <;> cases hletter
        · exact hmem

/-- After two dashes only the name itself stands for the switch for posting. -/
theorem post_mem_of_putLong {text : List Char} (h : g.putLong level text = .ok g')
    (hpost : .post ∈ g'.switches) : .post ∈ g.switches ∨ text = "post".toList := by
  unfold putLong at h
  cases hsplit : Text.splitOnce '=' text with
  | some parts =>
      obtain ⟨name, value⟩ := parts
      simp only [hsplit] at h
      split at h
      · cases h
      · next dir _ =>
        obtain ⟨settled, hsettle, h⟩ := exists_of_bind_eq_ok h
        rw [switches_of_putRulesDir h, switches_of_settle hsettle] at hpost
        exact Or.inl hpost
      · next hvalue => cases hvalue
      · cases h
      · next hvalue => cases hvalue
  | none =>
      simp only [hsplit] at h
      split at h
      · cases h
      · next hvalue => cases hvalue
      · obtain ⟨settled, hsettle, h⟩ := exists_of_bind_eq_ok h
        cases h
        rw [switches_of_settle hsettle] at hpost
        exact Or.inl hpost
      · cases h
      · next s _ hswitch _ =>
        rw [switches_of_putSwitch h, List.mem_cons] at hpost
        rcases hpost with rfl | hpost
        · rw [← eq_post_of_switch? hswitch, String.toList_ofList]
          exact Or.inr rfl
        · exact Or.inl hpost

end Given

/-! ## Levels -/

variable {level : Level}

/-- A word with two dashes and a text after them. -/
theorem toList_of_ofText {word : String} {text : List Char} (h : Word.ofText word = .long text) :
    word.toList = '-' :: '-' :: text := by
  unfold Word.ofText at h
  split at h <;> cases h
  assumption

/-- What the first word of a part of a command line does: it ends the part as the name of a
command, or the part goes on, with the switch for posting only if that is the word. -/
theorem readLevel_cons {trailing : Bool} {g : Given} {word : String} {words : List String}
    {r : Given × Rest} (h : readLevel level trailing g (word :: words) = .ok r) :
    r = (g, some (word, words)) ∨
      ∃ trailing' g', readLevel level trailing' g' words = .ok r ∧
        (.post ∈ g'.switches → .post ∈ g.switches ∨ word = "--post") := by
  rw [readLevel] at h
  split at h
  -- after two dashes every word is plain
  · split at h
    · cases h
    · obtain ⟨g', hput, h⟩ := exists_of_bind_eq_ok h
      exact Or.inr ⟨true, g', h, fun hpost => Or.inl (Given.switches_of_putWord hput ▸ hpost)⟩
  · split at h
    · cases h
      exact Or.inl rfl
    · split at h
      · exact Or.inr ⟨true, g, h, Or.inl⟩
      · next text hword =>
        obtain ⟨g', hput, h⟩ := exists_of_bind_eq_ok h
        refine Or.inr ⟨false, g', h, fun hpost => ?_⟩
        refine (Given.post_mem_of_putLong hput hpost).imp_right fun htext => ?_
        rw [← String.toList_inj, toList_of_ofText hword, htext]
        rfl
      · obtain ⟨g', hput, h⟩ := exists_of_bind_eq_ok h
        exact Or.inr ⟨false, g', h, fun hpost => Or.inl (Given.post_mem_of_putLetters hput hpost)⟩
      · split at h
        · cases h
        · split at h
          · exact Or.inr ⟨false, _, h, Or.inl⟩
          · obtain ⟨g', hput, h⟩ := exists_of_bind_eq_ok h
            exact Or.inr ⟨false, g', h, fun hpost =>
              Or.inl (Given.switches_of_putWord hput ▸ hpost)⟩

/-- A part of a command line gives the switch for posting only with the word for it. -/
theorem mem_of_readLevel {trailing : Bool} {g : Given} {words : List String} {r : Given × Rest}
    (h : readLevel level trailing g words = .ok r) (hpost : .post ∈ r.1.switches) :
    .post ∈ g.switches ∨ "--post" ∈ words := by
  induction words generalizing trailing g with
  | nil =>
      rw [readLevel] at h
      cases hsettle : g.settle with
      | error e =>
          rw [hsettle] at h
          cases h
      | ok settled =>
          rw [hsettle] at h
          cases h
          rw [← Given.switches_of_settle hsettle]
          exact Or.inl hpost
  | cons word words ih =>
      rcases readLevel_cons h with rfl | ⟨trailing', g', hrest, hstep⟩
      · exact Or.inl hpost
      · rcases ih hrest with hmem | hmem
        · refine (hstep hmem).imp_right ?_
          rintro rfl
          exact List.mem_cons_self
        · exact Or.inr (List.mem_cons_of_mem _ hmem)

/-- What follows the name of a command is on the command line. -/
theorem subset_of_readLevel {trailing : Bool} {g g' : Given} {words rest : List String}
    {name : String} (h : readLevel level trailing g words = .ok (g', some (name, rest))) :
    rest ⊆ words := by
  induction words generalizing trailing g with
  | nil =>
      rw [readLevel] at h
      cases hsettle : g.settle with
      | error e =>
          rw [hsettle] at h
          cases h
      | ok settled =>
          rw [hsettle] at h
          cases h
  | cons word words ih =>
      rcases readLevel_cons h with hend | ⟨trailing', g', hrest, -⟩
      · cases hend
        exact List.subset_cons_self _ _
      · exact List.Subset.trans (ih hrest) (List.subset_cons_self _ _)

/-! ## Commands -/

/-- Whether a command is a review with the switch for posting. -/
def Command.posts : Command → Bool
  | .review _ post _ _ => post
  | .rules _ _ => false

/-- A command line that asks to post: it is read as a review with the switch for it. -/
def AsksToPost (words : List String) : Prop :=
  ∃ a, Arguments.ofList words = .ok a ∧ a.command.posts = true

/-- Only a command line with the word `--post` asks to post. -/
theorem mem_of_asksToPost {words : List String} (h : AsksToPost words) : "--post" ∈ words := by
  obtain ⟨a, hread, hposts⟩ := h
  obtain ⟨⟨g, rest⟩, htop, hread⟩ := exists_of_bind_eq_ok hread
  dsimp only at hread
  split at hread
  · next rest =>
    obtain ⟨⟨given, _⟩, hlevel, hread⟩ := exists_of_bind_eq_ok hread
    dsimp only at hread
    split at hread
    · cases hread
    · cases hread
      have hswitch : Switch.post ∈ given.switches := List.contains_iff_mem.1 hposts
      rcases mem_of_readLevel hlevel hswitch with hnone | hmem
      · cases hnone
      · exact subset_of_readLevel htop hmem
  · obtain ⟨⟨given, _⟩, -, hread⟩ := exists_of_bind_eq_ok hread
    cases hread
    cases hposts
  · cases hread
  · cases hread

/-- A command overrides the setting for a dry run only if it posts. -/
theorem posts_of_dryRun_overrides {command : Command}
    (h : command.overrides.dryRun = some false) : command.posts = true := by
  cases command with
  | review _ post _ _ =>
      cases post with
      | false => cases h
      | true => rfl
  | rules _ _ => cases h

/-! ## The program -/

/-- A dry review sends nothing but GET requests. -/
theorem get_of_runReview {s : Settings} (hdry : s.dryRun = true) (root : Files.Node)
    (text : String) (l : Link) :
    ∃ requests, (runReview root s text l).value.2.sent = l.sent ++ requests ∧
      ∀ r ∈ requests, r.method = .get := by
  cases hpr : PullRequestRef.ofText? text s.host.defaultOwner s.host.defaultRepo with
  | none =>
      refine ⟨[], ?_, nofun⟩
      rw [runReview_of_eq_none root l hpr, List.append_nil]
      rfl
  | some pr =>
      obtain ⟨k, m, batches, asked, fault, horderly⟩ := orderly_runReview root l hpr (Or.inl hdry)
      exact ⟨_, horderly.sent_eq, horderly.get_of_dryRun hdry⟩

/-- Listing the rules leaves the link alone. -/
theorem link_runCommand_rules (root : Files.Node) (s : Settings) (json : Bool)
    (choice : RuleChoice) (l : Link) :
    (runCommand root s (.rules json choice) l).value.2 = l :=
  rfl

/-- A review leaves the link as its report does. -/
theorem link_runCommand_review (root : Files.Node) (s : Settings) (text : String)
    (post json : Bool) (choice : RuleChoice) (l : Link) :
    (runCommand root s (.review text post json choice) l).value.2 =
      (runReview root s text l).value.2 := by
  rw [runCommand, Logged.value_bind]
  cases (runReview root s text l).value with
  | mk result l' => cases result <;> rfl

section Run

variable {sources : Sources} {words : List String} {a : Arguments} (l : Link)

/-- A command line that cannot be read leaves the link alone. -/
theorem link_run_of_usage {e : UsageError} (hwords : Arguments.ofList words = .error e) :
    (run sources words l).value.2 = l := by
  rw [run, hwords]
  rfl

/-- Without settings the link is left alone. -/
theorem link_run_of_load_error {e : Config.ConfigError} (hwords : Arguments.ofList words = .ok a)
    (hload : { sources with overrides := a.command.overrides }.load.value = .error e) :
    (run sources words l).value.2 = l := by
  rw [run, hwords]
  dsimp only
  rw [Logged.value_bind, hload]
  rfl

/-- With settings the program leaves the link as the command does. -/
theorem link_run_of_load {s : Settings} (hwords : Arguments.ofList words = .ok a)
    (hload : { sources with overrides := a.command.overrides }.load.value = .ok s) :
    (run sources words l).value.2 = (runCommand sources.root s a.command l).value.2 := by
  rw [run, hwords]
  dsimp only
  rw [Logged.value_bind, hload]

end Run

/-- Without a command line that asks to post and a source that asks for a live run, the
program sends nothing but GET requests; listing the rules sends nothing at all. -/
theorem get_of_run (sources : Sources) (words : List String) (l : Link) :
    (¬ AsksToPost words → ¬ sources.AsksToPost →
      ∃ requests, (run sources words l).value.2.sent = l.sent ++ requests ∧
        ∀ r ∈ requests, r.method = .get) ∧
    ∀ debug json choice, Arguments.ofList words = .ok ⟨debug, .rules json choice⟩ →
      (run sources words l).value.2 = l := by
  cases hwords : Arguments.ofList words with
  | error e =>
      rw [link_run_of_usage l hwords]
      exact ⟨fun _ _ => ⟨[], (List.append_nil _).symm, nofun⟩, nofun⟩
  | ok a =>
      obtain ⟨debug, command⟩ := a
      cases hload : ({ sources with overrides := command.overrides } : Sources).load.value with
      | error e =>
          rw [link_run_of_load_error l hwords hload]
          exact ⟨fun _ _ => ⟨[], (List.append_nil _).symm, nofun⟩, fun _ _ _ _ => rfl⟩
      | ok s =>
          rw [link_run_of_load l hwords hload]
          refine ⟨?_, ?_⟩
          · intro hcommand hsources
            have hdry : s.dryRun = true := by
              refine Config.Sources.dryRun_of_load hload hsources ?_
              intro hoverrides
              exact hcommand ⟨_, hwords, posts_of_dryRun_overrides hoverrides⟩
            cases command with
            | rules json choice => exact ⟨[], (List.append_nil _).symm, nofun⟩
            | review text post json choice =>
                rw [link_runCommand_review]
                exact get_of_runReview hdry sources.root text l
          · rintro _ json choice heq
            cases heq
            exact link_runCommand_rules sources.root s json choice l

/-- A review with a token whose settings come from the environment. -/
theorem get_of_run_token :
    let sources : Sources := {
      root := .empty
      globalDir := none
      projectDir := none
      environment := [("DIFFWARDEN_DRY_RUN", "true"), ("DIFFWARDEN_POSTING__PER_PAGE", "50"),
        ("GITHUB_TOKEN", "secret")] }
    let words := ["review", "acme/widgets#7", "--json"]
    ¬ AsksToPost words ∧ ¬ sources.AsksToPost ∧ ∀ l, ∃ requests,
      (run sources words l).value.2.sent = l.sent ++ requests ∧ ∀ r ∈ requests, r.method = .get := by
  intro sources words
  have hwords : ¬ AsksToPost words := fun h => absurd (mem_of_asksToPost h) (by decide)
  have hsources : ¬ sources.AsksToPost := by decide
  exact ⟨hwords, hsources, fun l => (get_of_run sources words l).1 hwords hsources⟩

end PatchReview.Cli
