import PatchReview.Proofs.LiveSources
import PatchReview.Proofs.SettingKeys

/-!
# Settings hold the values of their keys

A table whose values are of the right kind gives settings in which each key has its value
from the table, or its default if the table does not set it.

Main results:

- Definition `Settings.get`: the value of a key in settings.
- Definition `Holds`: what the slots of a group do to the keys in it.
- Theorem `Holds.putFields`: fields change the keys that they are for, and no others.
- Theorem `Settings.get_of_ofValue`: the settings of a table, key by key.
-/

namespace PatchReview.Config

/-! ## Values of keys -/

/-- A text that may be missing, as a value. -/
def Value.ofOptionalText : Option String → Value
  | some s => .text s
  | none => .null

/-- The value of a key in settings for the host. -/
def HostSettings.get (h : HostSettings) : HostKey → Value
  | .apiUrl => .text h.apiUrl
  | .token => .ofOptionalText h.token
  | .defaultOwner => .ofOptionalText h.defaultOwner
  | .defaultRepo => .ofOptionalText h.defaultRepo

/-- The value of a key in settings for posting. -/
def PostingOptions.get (p : PostingOptions) : PostingKey → Value
  | .batchSize => .int p.batchSize
  | .perPage => .int p.perPage
  | .maxCommentPages => .int p.maxCommentPages

/-- The value of a key in settings. -/
def Settings.get (s : Settings) : Key → Value
  | .rulesDir => .text s.rulesDir
  | .builtinRules => .bool s.builtinRules
  | .dryRun => .bool s.dryRun
  | .host key => s.host.get key
  | .posting key => PostingOptions.get s.posting key

namespace Value

theorem asText_of_accepts {v : Value} (h : Kind.text.accepts v = true) :
    ∃ s, v.asText = .ok s ∧ .text s = v := by
  cases v with
  | text s => exact ⟨s, rfl, rfl⟩
  | _ => cases h

theorem asOptionalText_of_accepts {v : Value} (h : Kind.optionalText.accepts v = true) :
    ∃ s, v.asOptionalText = .ok s ∧ ofOptionalText s = v := by
  cases v with
  | null => exact ⟨none, rfl, rfl⟩
  | text s => exact ⟨some s, rfl, rfl⟩
  | _ => cases h

theorem asBool_of_accepts {v : Value} (h : Kind.truth.accepts v = true) :
    ∃ b, v.asBool = .ok b ∧ .bool b = v := by
  cases v with
  | bool b => exact ⟨b, rfl, rfl⟩
  | _ => cases h

theorem asNatBelow_of_accepts {bound : Nat} {v : Value}
    (h : (Kind.natBelow bound).accepts v = true) :
    ∃ n : Nat, v.asNatBelow bound = .ok n ∧ .int n = v := by
  cases v with
  | int i =>
      have hi : 0 ≤ i ∧ i < bound := of_decide_eq_true h
      refine ⟨i.toNat, ?_, ?_⟩
      · rw [asNatBelow, if_pos hi]
      · rw [Int.toNat_of_nonneg hi.1]
  | _ => cases h

end Value

/-! ## Slots -/

section

variable {α κ : Type}

/-- What the slots of a group do to the keys in it: a value that fits under a name changes
the keys with this name to what they are given by it, and the slots are for names of keys
only. -/
structure Holds (slots : List (Slot α)) (name : κ → String) (fits : String → Value → Prop)
    (given : κ → Value → Value) (get : α → κ → Value) : Prop where
  put (key : κ) {v : Value} (hv : fits (name key) v) (a : α) : ∃ put b,
    Fields.get? slots (name key) = some put ∧ put v a = .ok b ∧
      ∀ other, get b other = if name other = name key then given other v else get a other
  other {n : String} (hn : ∀ key, name key ≠ n) : Fields.get? slots n = none

variable {slots : List (Slot α)} {name : κ → String} {fits : String → Value → Prop}
  {given : κ → Value → Value} {get : α → κ → Value}

/-- A field changes the keys with its name. -/
theorem Holds.putField (h : Holds slots name fits given get) {n : String} {v : Value}
    (hv : fits n v) (a : α) : ∃ b, Config.putField slots a (n, v) = .ok b ∧
      ∀ key, get b key = if name key = n then given key v else get a key := by
  by_cases hn : ∃ key, name key = n
  · obtain ⟨key, rfl⟩ := hn
    obtain ⟨put, b, hslot, hput, hget⟩ := h.put key hv a
    refine ⟨b, ?_, hget⟩
    simp only [Config.putField, hslot, hput]
    rfl
  · have hnone : ∀ key, name key ≠ n := fun key hkey => hn ⟨key, hkey⟩
    refine ⟨a, ?_, fun key => (if_neg (hnone key)).symm⟩
    simp [Config.putField, h.other hnone]

/-- Fields with different names change the keys with these names. -/
theorem Holds.putFields (h : Holds slots name fits given get) {fields : List (String × Value)}
    (hnames : (fields.map (·.1)).Nodup) (hfits : ∀ field ∈ fields, fits field.1 field.2) (a : α) :
    ∃ b, Config.putFields slots a fields = .ok b ∧
      ∀ key, get b key = ((Fields.get? fields (name key)).map (given key)).getD (get a key) := by
  induction fields generalizing a with
  | nil => exact ⟨a, rfl, fun _ => rfl⟩
  | cons field rest ih =>
      obtain ⟨n, v⟩ := field
      obtain ⟨hv, hrest⟩ := List.forall_mem_cons.1 hfits
      rw [List.map_cons, List.nodup_cons] at hnames
      obtain ⟨b, hput, hfirst⟩ := h.putField hv a
      obtain ⟨c, hputs, hlater⟩ := ih hnames.2 hrest b
      refine ⟨c, ?_, fun key => ?_⟩
      · rw [Config.putFields, hput]
        exact hputs
      -- a key with the name of the first field is changed by no later one
      · rw [hlater key, hfirst key]
        by_cases hkey : name key = n
        · have hnone : Fields.get? rest n = none := Fields.get?_eq_none_iff.2 hnames.1
          simp [Fields.get?, hkey, hnone]
        · simp [Fields.get?, hkey, Ne.symm hkey]

end

/-! ## Groups -/

/-- A value fits under a name if it is of the kind of each key with this name. -/
def HostKey.Fits (n : String) (v : Value) : Prop :=
  ∀ key : HostKey, key.name = n → key.kind.accepts v = true

/-- A value fits under a name if it is of the kind of each key with this name. -/
def PostingKey.Fits (n : String) (v : Value) : Prop :=
  ∀ key : PostingKey, key.name = n → key.kind.accepts v = true

/-- The slots for the host hold its keys. -/
theorem holds_hostSlots :
    Holds hostSlots HostKey.name HostKey.Fits (fun _ v => v) HostSettings.get where
  put key v hv a := by
    have hkind := hv key rfl
    cases key with
    | apiUrl =>
        obtain ⟨s, hs, rfl⟩ := Value.asText_of_accepts hkind
        refine ⟨_, { a with apiUrl := s }, rfl, by simp only [hs]; rfl, fun other => ?_⟩
        cases other <;> rfl
    | token =>
        obtain ⟨s, hs, rfl⟩ := Value.asOptionalText_of_accepts hkind
        refine ⟨_, { a with token := s }, rfl, by simp only [hs]; rfl, fun other => ?_⟩
        cases other <;> rfl
    | defaultOwner =>
        obtain ⟨s, hs, rfl⟩ := Value.asOptionalText_of_accepts hkind
        refine ⟨_, { a with defaultOwner := s }, rfl, by simp only [hs]; rfl, fun other => ?_⟩
        cases other <;> rfl
    | defaultRepo =>
        obtain ⟨s, hs, rfl⟩ := Value.asOptionalText_of_accepts hkind
        refine ⟨_, { a with defaultRepo := s }, rfl, by simp only [hs]; rfl, fun other => ?_⟩
        cases other <;> rfl
  other {n} hn := by
    rw [Fields.get?_eq_none_iff]
    intro hmem
    simp only [hostSlots, List.map_cons, List.map_nil, List.mem_cons, List.not_mem_nil,
      or_false] at hmem
    rcases hmem with rfl | rfl | rfl | rfl
    · exact hn .apiUrl rfl
    · exact hn .token rfl
    · exact hn .defaultOwner rfl
    · exact hn .defaultRepo rfl

/-- The slots for posting hold its keys. -/
theorem holds_postingSlots :
    Holds postingSlots PostingKey.name PostingKey.Fits (fun _ v => v) PostingOptions.get where
  put key v hv a := by
    have hkind := hv key rfl
    cases key with
    | batchSize =>
        obtain ⟨n, hn, rfl⟩ := Value.asNatBelow_of_accepts hkind
        refine ⟨_, { a with batchSize := n }, rfl, by simp only [hn]; rfl, fun other => ?_⟩
        cases other <;> rfl
    | perPage =>
        obtain ⟨n, hn, rfl⟩ := Value.asNatBelow_of_accepts hkind
        refine ⟨_, { a with perPage := n }, rfl, by simp only [hn]; rfl, fun other => ?_⟩
        cases other <;> rfl
    | maxCommentPages =>
        obtain ⟨n, hn, rfl⟩ := Value.asNatBelow_of_accepts hkind
        refine ⟨_, { a with maxCommentPages := n }, rfl, by simp only [hn]; rfl, fun other => ?_⟩
        cases other <;> rfl
  other {n} hn := by
    rw [Fields.get?_eq_none_iff]
    intro hmem
    simp only [postingSlots, List.map_cons, List.map_nil, List.mem_cons, List.not_mem_nil,
      or_false] at hmem
    rcases hmem with rfl | rfl | rfl
    · exact hn .batchSize rfl
    · exact hn .perPage rfl
    · exact hn .maxCommentPages rfl

/-- The settings for the host from a table. -/
theorem get_of_putGroup_host {t : Table} (hnames : (t.map (·.1)).Nodup)
    (hfits : ∀ field ∈ t, HostKey.Fits field.1 field.2) :
    ∃ h : HostSettings, putGroup hostSlots (.table t) {} = .ok h ∧
      ∀ key, h.get key = (Fields.get? t key.name).getD (HostSettings.get {} key) := by
  obtain ⟨h, hput, hget⟩ := holds_hostSlots.putFields hnames hfits {}
  exact ⟨h, hput, fun key => by simpa using hget key⟩

/-- The settings for posting from a table. -/
theorem get_of_putGroup_posting {t : Table} (hnames : (t.map (·.1)).Nodup)
    (hfits : ∀ field ∈ t, PostingKey.Fits field.1 field.2) :
    ∃ p : PostingOptions, putGroup postingSlots (.table t) {} = .ok p ∧
      ∀ key, PostingOptions.get p key =
        (Fields.get? t key.name).getD (PostingOptions.get {} key) := by
  obtain ⟨p, hput, hget⟩ := holds_postingSlots.putFields hnames hfits {}
  exact ⟨p, hput, fun key => by simpa using hget key⟩

/-! ## All settings -/

/-- What a value under the first name of a key gives the key: the value itself or the one
inside of it, and the default if there is none. -/
def Key.given (key : Key) (v : Value) : Value :=
  (v.at? key.rest).getD (({} : Settings).get key)

/-- A value fits under a name if the table with nothing else does. -/
def Key.Fits (n : String) (v : Value) : Prop :=
  Table.IsOrdered [(n, v)] ∧ Table.Fits [(n, v)]

namespace Table

variable {t : Table}

/-- Every field of a table that fits does. -/
theorem Fits.of_mem (ht : t.Fits) (hordered : t.IsOrdered) {n : String} {v : Value}
    (h : (n, v) ∈ t) : Key.Fits n v := by
  have hget : Fields.get? t n = some v := Fields.get?_of_mem hordered.nodup h
  have hvalue : v.IsOrdered := (Value.isOrdered_table_iff.1 hordered).2 _ h
  refine ⟨.table (Fields.isOrdered_singleton _) (List.forall_mem_singleton.2 hvalue), ?_, ?_⟩
  · intro key w hw
    refine ht.value ?_
    by_cases hkey : n = key.head
    · simpa [at?, Key.path, Value.at?, Value.field?, Fields.get?, hkey, hkey ▸ hget] using hw
    · simp [at?, Key.path, Value.at?, Value.field?, Fields.get?, hkey] at hw
  · intro key w hkey hw
    by_cases hn : n = key.head
    · simp only [Fields.get?, hn, if_true, Option.some.injEq] at hw
      exact ht.group hkey (by rw [← hn, hget, hw])
    · simp [Fields.get?, hn] at hw

end Table

/-- A value that fits under the name of a key on its own is of its kind. -/
theorem Key.Fits.accepts {key : Key} {v : Value} (h : Key.Fits key.head v) (hkey : key.rest = []) :
    key.kind.accepts v = true := by
  refine h.2.value ?_
  rw [Table.at?_of_rest_eq_nil hkey]
  simp [Fields.get?]

/-- A value that fits under the name of a group is a table, and the values in it are of the
kinds of their keys. -/
theorem Key.Fits.exists_table {key : Key} {v : Value} (h : Key.Fits key.head v)
    (hkey : key.rest ≠ []) : ∃ fields : Table, v = .table fields ∧ (fields.map (·.1)).Nodup ∧
      ∀ other : Key, other.head = key.head → ∀ n, other.rest = [n] → ∀ w, (n, w) ∈ fields →
        other.kind.accepts w = true := by
  have hget : Fields.get? [(key.head, v)] key.head = some v := by simp [Fields.get?]
  obtain ⟨fields, rfl⟩ := h.2.group hkey hget
  have hordered : Table.IsOrdered fields := h.1.of_get? hget
  refine ⟨fields, rfl, hordered.nodup, fun other hother n hrest w hw => h.2.value ?_⟩
  rw [Table.at?_of_rest_eq_singleton hrest]
  simpa [Table.group, Fields.get?, hother] using Fields.get?_of_mem hordered.nodup hw

/-- All slots hold all keys. -/
theorem holds_settingsSlots :
    Holds settingsSlots Key.head Key.Fits Key.given Settings.get where
  put key v hv a := by
    cases key with
    | rulesDir =>
        obtain ⟨s, hs, rfl⟩ := Value.asText_of_accepts (hv.accepts rfl)
        refine ⟨_, { a with rulesDir := s }, rfl, by simp only [hs]; rfl, fun other => ?_⟩
        cases other <;> rfl
    | builtinRules =>
        obtain ⟨b, hb, rfl⟩ := Value.asBool_of_accepts (hv.accepts rfl)
        refine ⟨_, { a with builtinRules := b }, rfl, by simp only [hb]; rfl, fun other => ?_⟩
        cases other <;> rfl
    | dryRun =>
        obtain ⟨b, hb, rfl⟩ := Value.asBool_of_accepts (hv.accepts rfl)
        refine ⟨_, { a with dryRun := b }, rfl, by simp only [hb]; rfl, fun other => ?_⟩
        cases other <;> rfl
    -- a group is read anew from its defaults, so keys that it leaves out get their defaults
    | host key =>
        obtain ⟨fields, rfl, hnames, hkinds⟩ := hv.exists_table (List.cons_ne_nil _ _)
        have hfits : ∀ field ∈ fields, HostKey.Fits field.1 field.2 := by
          rintro ⟨n, w⟩ hw key' rfl
          exact hkinds (.host key') rfl _ rfl w hw
        obtain ⟨h, hput, hget⟩ := get_of_putGroup_host hnames hfits
        refine ⟨_, { a with host := h }, rfl, by simp only [hput]; rfl, fun other => ?_⟩
        cases other with
        | host other =>
            have hvalue := hget other
            simpa [Settings.get, Key.head, Key.given, Key.rest, Value.at?, Value.field?] using hvalue
        | _ => rfl
    | posting key =>
        obtain ⟨fields, rfl, hnames, hkinds⟩ := hv.exists_table (List.cons_ne_nil _ _)
        have hfits : ∀ field ∈ fields, PostingKey.Fits field.1 field.2 := by
          rintro ⟨n, w⟩ hw key' rfl
          exact hkinds (.posting key') rfl _ rfl w hw
        obtain ⟨p, hput, hget⟩ := get_of_putGroup_posting hnames hfits
        refine ⟨_, { a with posting := p }, rfl, by simp only [hput]; rfl, fun other => ?_⟩
        cases other with
        | posting other =>
            have hvalue := hget other
            simpa [Settings.get, Key.head, Key.given, Key.rest, Value.at?, Value.field?] using hvalue
        | _ => rfl
  other {n} hn := by
    rw [Fields.get?_eq_none_iff]
    intro hmem
    simp only [settingsSlots, List.map_cons, List.map_nil, List.mem_cons, List.not_mem_nil,
      or_false] at hmem
    rcases hmem with rfl | rfl | rfl | rfl | rfl
    · exact hn .rulesDir rfl
    · exact hn .builtinRules rfl
    · exact hn .dryRun rfl
    · exact hn (.host .token) rfl
    · exact hn (.posting .perPage) rfl

/-- The settings of a table that fits: each key has its value from the table, or its
default. -/
theorem Settings.get_of_ofValue {t : Table} (hordered : t.IsOrdered) (ht : t.Fits) :
    ∃ s : Settings, Settings.ofValue (.table t) = .ok s ∧
      ∀ key, s.get key = (t.at? key).getD (({} : Settings).get key) := by
  have hfits : ∀ field ∈ t, Key.Fits field.1 field.2 := fun _ hfield =>
    ht.of_mem hordered hfield
  obtain ⟨s, hput, hget⟩ := holds_settingsSlots.putFields hordered.nodup hfits {}
  refine ⟨s, hput, fun key => ?_⟩
  rw [hget key]
  simp only [Table.at?, Key.path, Value.at?, Value.field?]
  cases Fields.get? t key.head <;> rfl

end PatchReview.Config
