import DirectiveLint.Settings
import Mathlib.Data.List.Nodup
import Mathlib.Tactic.Lemma

/-!
# Spelling and order of the keys

Each field of the settings has two keys, and the members of a table stand in some order.  Neither
matters as long as no field is given under both of its keys (`GivenOnce`).

**Keys.**  `Field.ofKey?` is the field that a key gives in either spelling.  A key that mixes
hyphens and underscores gives none.  `respelled` puts any choice of keys into their other spelling;
a key that gives no field has no other one.

**Members.**  In a table that gives each field once, what is given for a field is the one member
whose key gives this field (`GivenOnce.given?_eq_some_iff`), wherever it stands.  So it transports
along any other spelling and any other order (`given?_respelled`), and the keys that no field uses
are those that give none (`GivenOnce.unknownKeys_eq`).

**Readings.**  The settings are the same, and so are the problems of the fields, each under the key
as it is spelled now.  The unknown keys follow the new order
(`spelling_and_order_do_not_matter`).
-/

namespace DirectiveLint.Settings

open Data

/-! ## The field of a key -/

/-- The field that a key gives, in either spelling. -/
def Field.ofKey? (key : String) : Option Field :=
  Field.all.find? fun field => key == field.key || key == field.otherKey

lemma Field.ofKey?_eq_some_iff {key : String} {field : Field} :
    Field.ofKey? key = some field ↔ key = field.key ∨ key = field.otherKey := by
  constructor
  · intro h
    simpa using List.find?_some h
  · rintro (rfl | rfl) <;> cases field <;> decide

lemma Field.key_ne_otherKey (field : Field) : field.key ≠ field.otherKey := by
  cases field <;> decide

/-- The other key of the same field.  An unknown key stays as it is. -/
def otherSpelling (key : String) : String :=
  match Field.ofKey? key with
  | some field => if key = field.key then field.otherKey else field.key
  | none => key

lemma ofKey?_otherSpelling (key : String) :
    Field.ofKey? (otherSpelling key) = Field.ofKey? key := by
  cases hfield : Field.ofKey? key with
  | none => simp only [otherSpelling, hfield]
  | some field =>
    rw [Field.ofKey?_eq_some_iff]
    simp only [otherSpelling, hfield]
    split
    · exact Or.inr rfl
    · exact Or.inl rfl

/-- A key with the spelling that it gets when the changed keys are put into the other one. -/
def respelled (changed : String → Bool) (key : String) : String :=
  if changed key then otherSpelling key else key

/-- **A key gives the same field in either spelling.** -/
@[simp] lemma ofKey?_respelled (changed : String → Bool) (key : String) :
    Field.ofKey? (respelled changed key) = Field.ofKey? key := by
  rw [respelled]
  split
  · exact ofKey?_otherSpelling key
  · rfl

lemma respelled_of_unknown (changed : String → Bool) {key : String}
    (hkey : Field.ofKey? key = none) : respelled changed key = key := by
  rw [respelled, otherSpelling, hkey, ite_self]

/-- The members of a table with the changed keys in their other spelling. -/
def respelledTable (changed : String → Bool) (table : Table) : Table :=
  table.map fun member => (respelled changed member.1, member.2)

lemma keys_respelledTable (changed : String → Bool) (table : Table) :
    (respelledTable changed table).map Prod.fst
      = (table.map Prod.fst).map (respelled changed) := by
  simp [respelledTable]

/-- A problem under the key as it is spelled now. -/
def Problem.respelled (changed : String → Bool) (problem : Problem) : Problem :=
  match problem.place with
  | .key key :: inside =>
    { problem with place := .key (Settings.respelled changed key) :: inside }
  | _ => problem

/-! ## Tables that give each field once -/

/-- No key stands twice in the table, and no field is given under both of its keys. -/
structure GivenOnce (table : Table) : Prop where
  nodup : (table.map Prod.fst).Nodup
  one_key (field : Field) : field.key ∈ table.map Prod.fst → field.otherKey ∉ table.map Prod.fst

lemma lookup_eq_some_iff_mem {table : Table} (h : (table.map Prod.fst).Nodup) {key : String}
    {value : Value} : table.lookup key = some value ↔ (key, value) ∈ table := by
  induction table with
  | nil => simp
  | cons member rest ih =>
    obtain ⟨k, v⟩ := member
    rw [List.map_cons, List.nodup_cons] at h
    rw [List.lookup_cons, List.mem_cons]
    by_cases hkey : key = k
    · subst hkey
      have hnone : key ∉ rest.map Prod.fst := h.1
      have hrest : (key, value) ∉ rest := fun hmem => hnone (List.mem_map_of_mem hmem)
      simp [hrest, eq_comm]
    · simp [beq_eq_false_iff_ne.2 hkey, ih h.2, hkey]

namespace GivenOnce

variable {table table' : Table} {changed : String → Bool}

lemma key_unique (h : GivenOnce table) {k₁ k₂ : String} (h₁ : k₁ ∈ table.map Prod.fst)
    (h₂ : k₂ ∈ table.map Prod.fst) {field : Field} (hfield₁ : Field.ofKey? k₁ = some field)
    (hfield₂ : Field.ofKey? k₂ = some field) : k₁ = k₂ := by
  rcases Field.ofKey?_eq_some_iff.1 hfield₁ with rfl | rfl <;>
    rcases Field.ofKey?_eq_some_iff.1 hfield₂ with rfl | rfl
  · rfl
  · exact absurd h₂ (h.one_key field h₁)
  · exact absurd h₁ (h.one_key field h₂)
  · rfl

/-- Two keys of the table stay apart in any spelling. -/
lemma eq_of_respelled_eq (h : GivenOnce table) {k₁ k₂ : String} (h₁ : k₁ ∈ table.map Prod.fst)
    (h₂ : k₂ ∈ table.map Prod.fst) (heq : respelled changed k₁ = respelled changed k₂) :
    k₁ = k₂ := by
  have hfield : Field.ofKey? k₁ = Field.ofKey? k₂ := by
    rw [← ofKey?_respelled changed k₁, heq, ofKey?_respelled]
  cases hfield₁ : Field.ofKey? k₁ with
  | none =>
    rwa [respelled_of_unknown changed hfield₁,
      respelled_of_unknown changed (hfield.symm.trans hfield₁)] at heq
  | some field => exact h.key_unique h₁ h₂ hfield₁ (hfield.symm.trans hfield₁)

lemma respelledTable (h : GivenOnce table) (changed : String → Bool) :
    GivenOnce (respelledTable changed table) where
  nodup := by
    rw [keys_respelledTable]
    exact h.nodup.map_on fun k₁ h₁ k₂ h₂ heq => h.eq_of_respelled_eq h₁ h₂ heq
  one_key field := by
    rw [keys_respelledTable]
    intro hkey hother
    obtain ⟨k₁, h₁, heq₁⟩ := List.mem_map.1 hkey
    obtain ⟨k₂, h₂, heq₂⟩ := List.mem_map.1 hother
    have hfield₁ : Field.ofKey? k₁ = some field := by
      rw [← ofKey?_respelled changed, heq₁, Field.ofKey?_eq_some_iff]
      exact Or.inl rfl
    have hfield₂ : Field.ofKey? k₂ = some field := by
      rw [← ofKey?_respelled changed, heq₂, Field.ofKey?_eq_some_iff]
      exact Or.inr rfl
    obtain rfl := h.key_unique h₁ h₂ hfield₁ hfield₂
    exact field.key_ne_otherKey (heq₁.symm.trans heq₂)

lemma perm (h : GivenOnce table) (hperm : table'.Perm table) : GivenOnce table' where
  nodup := (hperm.map Prod.fst).nodup_iff.2 h.nodup
  one_key field hkey hother :=
    h.one_key field ((hperm.map Prod.fst).subset hkey) ((hperm.map Prod.fst).subset hother)

/-- **What is given for a field** is the one member whose key gives this field. -/
lemma given?_eq_some_iff (h : GivenOnce table) {field : Field} {key : String} {value : Value} :
    given? table field = some (key, value)
      ↔ (key, value) ∈ table ∧ Field.ofKey? key = some field := by
  rw [Field.ofKey?_eq_some_iff, given?]
  cases hkey : table.lookup field.key with
  | some v =>
    have hmem := (lookup_eq_some_iff_mem h.nodup).1 hkey
    constructor
    · intro hgiven
      obtain ⟨rfl, rfl⟩ := Prod.mk.inj (Option.some.inj hgiven)
      exact ⟨hmem, Or.inl rfl⟩
    · rintro ⟨hmember, rfl | rfl⟩
      · rw [(lookup_eq_some_iff_mem h.nodup).2 hmember] at hkey
        rw [Option.some.inj hkey]
      · exact absurd (List.mem_map_of_mem hmember)
          (h.one_key field (List.mem_map_of_mem (f := Prod.fst) hmem))
  | none =>
    simp only [Option.map_eq_some_iff, lookup_eq_some_iff_mem h.nodup]
    constructor
    · rintro ⟨v, hmember, hpair⟩
      obtain ⟨rfl, rfl⟩ := Prod.mk.inj hpair
      exact ⟨hmember, Or.inr rfl⟩
    · rintro ⟨hmember, rfl | rfl⟩
      · rw [(lookup_eq_some_iff_mem h.nodup).2 hmember] at hkey
        cases hkey
      · exact ⟨value, hmember, rfl⟩

end GivenOnce

/-! ## Keys that give no field -/

/-- The problems of the keys that give no field in either spelling, in the order of the data. -/
def unrecognised (table : Table) : List Problem :=
  (table.filter fun member => (Field.ofKey? member.1).isNone).map fun member =>
    ⟨[.key member.1], .unknownKey⟩

lemma unrecognised_respelledTable (changed : String → Bool) (table : Table) :
    unrecognised (respelledTable changed table) = unrecognised table := by
  rw [unrecognised, respelledTable, List.filter_map, List.map_map]
  simp only [Function.comp_def, ofKey?_respelled]
  refine List.map_congr_left fun member hmember => ?_
  rw [respelled_of_unknown changed (Option.isNone_iff_eq_none.1 (List.mem_filter.1 hmember).2)]

/-- **The unknown keys stay the same**; they only follow the order of the members. -/
lemma unrecognised_perm {table table' : Table} {changed : String → Bool}
    (hperm : table'.Perm (respelledTable changed table)) :
    (unrecognised table').Perm (unrecognised table) := by
  rw [← unrecognised_respelledTable changed table]
  exact (hperm.filter _).map _

lemma GivenOnce.mem_usedKeys_iff {table : Table} (h : GivenOnce table) {member : String × Value}
    (hmember : member ∈ table) :
    member.1 ∈ usedKeys table ↔ (Field.ofKey? member.1).isSome = true := by
  obtain ⟨key, value⟩ := member
  simp only [usedKeys, List.mem_filterMap, Option.map_eq_some_iff, Option.isSome_iff_exists]
  constructor
  · rintro ⟨field, -, ⟨k, v⟩, hgiven, rfl⟩
    exact ⟨field, (h.given?_eq_some_iff.1 hgiven).2⟩
  · rintro ⟨field, hfield⟩
    have hall : field ∈ Field.all := by cases field <;> decide
    exact ⟨field, hall, (key, value), h.given?_eq_some_iff.2 ⟨hmember, hfield⟩, rfl⟩

lemma GivenOnce.unknownKeys_eq {table : Table} (h : GivenOnce table) :
    unknownKeys table = unrecognised table := by
  rw [unknownKeys, unrecognised]
  congr 1
  refine List.filter_congr fun member hmember => ?_
  rw [Bool.eq_iff_iff, Bool.not_eq_true', ← Bool.not_eq_true, List.contains_iff_mem,
    h.mem_usedKeys_iff hmember, Option.isNone_iff_eq_none, Option.not_isSome_iff_eq_none]

/-! ## Reading a table in another spelling and order -/

section Respelled

variable {table table' : Table} {changed : String → Bool} (h : GivenOnce table)
  (hperm : table'.Perm (respelledTable changed table))

include h hperm

/-- **What is given for a field transports** along a new spelling and a new order. -/
lemma given?_respelled (field : Field) :
    given? table' field
      = (given? table field).map fun member => (respelled changed member.1, member.2) := by
  have h' : GivenOnce table' := (h.respelledTable changed).perm hperm
  refine Option.ext fun ⟨key', value⟩ => ?_
  simp only [h'.given?_eq_some_iff, Option.map_eq_some_iff, Prod.exists, h.given?_eq_some_iff,
    hperm.mem_iff, respelledTable, List.mem_map, Prod.mk.injEq]
  constructor
  · rintro ⟨⟨key, v, hmember, rfl, rfl⟩, hfield⟩
    rw [ofKey?_respelled] at hfield
    exact ⟨key, v, ⟨hmember, hfield⟩, rfl, rfl⟩
  · rintro ⟨key, v, ⟨hmember, hfield⟩, rfl, rfl⟩
    rw [ofKey?_respelled]
    exact ⟨⟨key, v, hmember, rfl, rfl⟩, hfield⟩

lemma setting_respelled {α : Type} (field : Field) (standard : α) (read : Value → Reading α) :
    setting table' field standard read
      = { value := (setting table field standard read).value
          problems :=
            (setting table field standard read).problems.map (Problem.respelled changed) } := by
  rw [setting, given?_respelled h hperm, setting]
  cases given? table field with
  | none => rfl
  | some member =>
    simp only [Option.map_some, List.map_map]
    rfl

/-- **A reading transports**: the value stays, the problems of the fields are found under the keys
as they are spelled now, and the unknown keys come in the order in which they stand now. -/
lemma ofTable_respelled :
    ∃ known, (ofTable table).problems = known ++ unrecognised table ∧
      ofTable table' = ⟨(ofTable table).value,
        known.map (Problem.respelled changed) ++ unrecognised table'⟩ := by
  have h' : GivenOnce table' := (h.respelledTable changed).perm hperm
  refine ⟨_, by rw [ofTable, h.unknownKeys_eq], ?_⟩
  simp only [ofTable, setting_respelled h hperm, h'.unknownKeys_eq, List.map_append]

end Respelled

lemma read_eq_ok_iff {table : Table} {settings : Settings} :
    read (.table table) = .ok settings
      ↔ (ofTable table).problems = [] ∧ (ofTable table).value = settings := by
  rw [read]
  split <;> simp_all

lemma read_eq_error_iff {table : Table} {problems : List Problem} :
    read (.table table) = .error problems
      ↔ (ofTable table).problems ≠ [] ∧ (ofTable table).problems = problems := by
  rw [read]
  split <;> simp_all

/-- **Spelling and order of the keys do not matter.**  Whatever keys of a table are put into their
other spelling, and in whatever order its members come then, the same settings are read and the same
rule configuration comes of them.  If the table is refused, it is refused with the same problems:
those of the fields in the same order, each under the key as it is spelled now, and behind them the
unknown keys, which are the same, in the order in which they stand now. -/
theorem spelling_and_order_do_not_matter {table table' : Table} (h : GivenOnce table)
    (changed : String → Bool) (hperm : table'.Perm (respelledTable changed table)) :
    (∀ settings, read (.table table') = .ok settings ↔ read (.table table) = .ok settings) ∧
      (read (.table table')).toOption.map toRuleConfig
        = (read (.table table)).toOption.map toRuleConfig ∧
      (unrecognised table').Perm (unrecognised table) ∧
      ∀ problems, read (.table table) = .error problems →
        ∃ known, problems = known ++ unrecognised table ∧
          read (.table table')
            = .error (known.map (Problem.respelled changed) ++ unrecognised table') := by
  have hunknown := unrecognised_perm hperm
  obtain ⟨known, hproblems, hreading⟩ := ofTable_respelled h hperm
  -- both tables have problems, or neither has
  have hnil : (ofTable table').problems = [] ↔ (ofTable table).problems = [] := by
    rw [hreading, hproblems, List.append_eq_nil_iff, List.append_eq_nil_iff, List.map_eq_nil_iff,
      ← List.length_eq_zero_iff (l := unrecognised table'), hunknown.length_eq,
      List.length_eq_zero_iff]
  have hok (settings : Settings) :
      read (.table table') = .ok settings ↔ read (.table table) = .ok settings := by
    rw [read_eq_ok_iff, read_eq_ok_iff, hnil, hreading]
  refine ⟨hok, congrArg _ (Option.ext fun settings => ?_), hunknown, fun problems hrefused => ?_⟩
  · have htoOption (value : Value) :
        (read value).toOption = some settings ↔ read value = .ok settings := by
      cases read value <;> simp [Except.toOption]
    rw [htoOption, htoOption, hok]
  · obtain ⟨hne, rfl⟩ := read_eq_error_iff.1 hrefused
    refine ⟨known, hproblems, read_eq_error_iff.2 ⟨mt hnil.1 hne, ?_⟩⟩
    rw [hreading]

/-- A key that mixes hyphens and underscores is unknown whatever stands around it, and what is wrong
with a field is reported under the key that gives it. -/
theorem mixed_spelling_is_unknown_in_any_order :
    read (.table [("rule-name", .text "directives"), ("require-machine_readable", .boolean false),
        ("allow_unused", .text "perhaps")])
      = .error [⟨[.key "allow_unused"], .unclearBoolean⟩,
          ⟨[.key "require-machine_readable"], .unknownKey⟩] ∧
    read (.table [("allow-unused", .text "perhaps"), ("rule_name", .text "directives"),
        ("require-machine_readable", .boolean false)])
      = .error [⟨[.key "allow-unused"], .unclearBoolean⟩,
          ⟨[.key "require-machine_readable"], .unknownKey⟩] := by
  have hread : read (.table [("rule-name", .text "directives"),
        ("require-machine_readable", .boolean false), ("allow_unused", .text "perhaps")])
      = .error [⟨[.key "allow_unused"], .unclearBoolean⟩,
          ⟨[.key "require-machine_readable"], .unknownKey⟩] := rfl
  have hgiven : GivenOnce [("rule-name", .text "directives"),
      ("require-machine_readable", .boolean false), ("allow_unused", .text "perhaps")] := by
    refine ⟨by simp, fun field => ?_⟩
    cases field <;> decide
  have hperm : List.Perm [("allow-unused", .text "perhaps"), ("rule_name", .text "directives"),
        ("require-machine_readable", .boolean false)]
      (respelledTable (fun _ => true) [("rule-name", .text "directives"),
        ("require-machine_readable", .boolean false), ("allow_unused", .text "perhaps")]) :=
    (List.Perm.swap _ _ _).trans ((List.Perm.swap _ _ []).cons _)
  obtain ⟨-, -, -, hrefused⟩ :=
    spelling_and_order_do_not_matter hgiven (fun _ => true) hperm
  obtain ⟨known, hknown, hread'⟩ := hrefused _ hread
  obtain rfl : known = [⟨[.key "allow_unused"], .unclearBoolean⟩] :=
    (List.append_inj_left' hknown rfl).symm
  exact ⟨hread, hread'⟩

end DirectiveLint.Settings
