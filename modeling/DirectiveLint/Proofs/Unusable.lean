import DirectiveLint.Configuration.Words
import DirectiveLint.Language.Scanners
import DirectiveLint.Proofs.Collected

/-!
# Configurations that cannot be used

A configuration can fail at every step of its reading.  Two kinds of fault are reported to its
author: the text is no TOML, and the settings in it have problems.  The others are nobody's, and a
run breaks off over them without a word.

* `Configuration.Fails` — what can be wrong with something that is there, step by step.  Nothing
  else is (`Configuration.load_eq_error_iff`).
* `Configuration.Heeded` — the files whose faults are reported.
* `Fault.Reported` and `Fault.BreaksOff` — how a run ends that reports the fault of its
  configuration, and how one ends that does not.
* `configuration_is_used_or_reported_iff` — **a configuration gives settings or an error message
  exactly if it is heeded.**

What is not heeded: a directory, bytes that are no text, a text that passes a limit of the reader,
and a value of `tool` that is no table.

Which file is refused, and for which of the two reasons, is part of every message.  The words behind
that are left to whoever reads TOML and settings (`Configuration.Wording`).
-/

namespace DirectiveLint

open Data

/-! ## Settings with problems -/

/-- Settings that are refused are refused for a reason. -/
lemma Settings.problems_ne_nil {value : Value} {problems : List Problem}
    (h : read value = .error problems) : problems ≠ [] := by
  cases value with
  | table table =>
    rw [read] at h
    split at h
    · cases h
    · next hproblems =>
      obtain rfl := Except.error.inj h
      simpa using hproblems
  | _ =>
    obtain rfl := Except.error.inj h
    exact List.cons_ne_nil _ _

namespace Configuration

/-! ## What is wrong with a configuration -/

lemma section?_eq_error_iff {document : Table} {fault : Fault} : section? document = .error fault ↔
    fault = .toolNotTable ∧
      ∃ value, document.lookup "tool" = some value ∧ ∀ tools, value ≠ .table tools := by
  rw [section?]
  cases document.lookup "tool" with
  | none => simp
  | some value => cases value <;> simp [eq_comm]

lemma exists_section?_iff {document : Table} : (∃ value, section? document = .ok value) ↔
    ∀ value, document.lookup "tool" = some value → ∃ tools, value = .table tools := by
  rw [section?]
  cases document.lookup "tool" with
  | none => simp
  | some value => cases value <;> simp

section

variable [Wording]

/-- **What is wrong with what is there**: a directory is in its place; its bytes are no text; its
text has no table; its table has no place for settings; or there are problems with the settings. -/
inductive Fails (path : FilePath) : FileSystem.Entry → Fault → Prop
  | directory : Fails path .directory (.unreadable ⟨.isADirectory, path⟩)
  | notText {bytes : List UInt8} (hbytes : Text.Utf8.decode? bytes = none) :
      Fails path (.file bytes) .notText
  | notToml {bytes : List UInt8} {text : List Char} {reason : Toml.Fault}
      (htext : Text.Utf8.decode? bytes = some text) (hreason : Toml.parse text = .error reason) :
      Fails path (.file bytes) (.notToml reason (Wording.toml text))
  | tool {bytes : List UInt8} {text : List Char} {document : Table} {value : Value}
      (htext : Text.Utf8.decode? bytes = some text) (hdocument : Toml.parse text = .ok document)
      (hvalue : document.lookup "tool" = some value) (htable : ∀ tools, value ≠ .table tools) :
      Fails path (.file bytes) .toolNotTable
  | settings {bytes : List UInt8} {text : List Char} {document : Table} {value : Value}
      {problems : List Settings.Problem} (htext : Text.Utf8.decode? bytes = some text)
      (hdocument : Toml.parse text = .ok document) (hvalue : section? document = .ok value)
      (hproblems : Settings.read value = .error problems) :
      Fails path (.file bytes) (.settings problems (Wording.settings text problems))

variable {fs : FileSystem} {path : FilePath}

lemma load_of_file {bytes : List UInt8} (h : fs.find path = .ok (.file bytes)) :
    load fs path = ofBytes bytes := by
  have hread : fs.read path = .ok bytes := by rw [FileSystem.read, h]
  rw [load, hread]

lemma load_of_directory (h : fs.find path = .ok .directory) :
    load fs path = .error (.unreadable ⟨.isADirectory, path⟩) := by
  have hread : fs.read path = .error ⟨.isADirectory, path⟩ := by rw [FileSystem.read, h]
  rw [load, hread]
  rfl

lemma ofBytes_of_parse_error {bytes : List UInt8} {text : List Char} {reason : Toml.Fault}
    (htext : Text.Utf8.decode? bytes = some text) (hreason : Toml.parse text = .error reason) :
    ofBytes bytes = .error (.notToml reason (Wording.toml text)) := by
  rw [ofBytes, htext]
  dsimp only
  rw [hreason]

lemma ofBytes_of_parse {bytes : List UInt8} {text : List Char} {document : Table}
    (htext : Text.Utf8.decode? bytes = some text) (hdocument : Toml.parse text = .ok document) :
    ofBytes bytes = (section? document).bind fun value =>
      (Settings.read value).mapError fun problems =>
        .settings problems (Wording.settings text problems) := by
  rw [ofBytes, htext]
  dsimp only
  rw [hdocument]
  dsimp only
  cases section? document <;> rfl

lemma load_eq_error_of_fails {entry : FileSystem.Entry} {fault : Fault}
    (h : fs.find path = .ok entry) (hfault : Fails path entry fault) :
    load fs path = .error fault := by
  cases hfault with
  | directory => exact load_of_directory h
  | notText hbytes => rw [load_of_file h, ofBytes, hbytes]
  | notToml htext hreason => rw [load_of_file h, ofBytes_of_parse_error htext hreason]
  | tool htext hdocument hvalue htable =>
    have hsection := section?_eq_error_iff.mpr ⟨rfl, _, hvalue, htable⟩
    rw [load_of_file h, ofBytes_of_parse htext hdocument, hsection]
    rfl
  | settings htext hdocument hvalue hproblems =>
    rw [load_of_file h, ofBytes_of_parse htext hdocument, hvalue, Except.bind, hproblems]
    rfl

/-- The steps of reading fail one after the other, and what is left has settings. -/
lemma fails_of_load_eq_error {entry : FileSystem.Entry} {fault : Fault}
    (h : fs.find path = .ok entry) (hload : load fs path = .error fault) :
    Fails path entry fault := by
  cases entry with
  | directory =>
    rw [load_of_directory h] at hload
    obtain rfl := Except.error.inj hload
    exact .directory
  | file bytes =>
    rw [load_of_file h] at hload
    cases htext : Text.Utf8.decode? bytes with
    | none =>
      rw [ofBytes, htext] at hload
      obtain rfl := Except.error.inj hload
      exact .notText htext
    | some text =>
      cases hdocument : Toml.parse text with
      | error reason =>
        rw [ofBytes_of_parse_error htext hdocument] at hload
        obtain rfl := Except.error.inj hload
        exact .notToml htext hdocument
      | ok document =>
        rw [ofBytes_of_parse htext hdocument] at hload
        cases hvalue : section? document with
        | error fault' =>
          rw [hvalue] at hload
          obtain rfl := Except.error.inj hload
          obtain ⟨rfl, value, hvalue, htable⟩ := section?_eq_error_iff.mp hvalue
          exact .tool htext hdocument hvalue htable
        | ok value =>
          rw [hvalue, Except.bind] at hload
          cases hproblems : Settings.read value with
          | error problems =>
            rw [hproblems] at hload
            obtain rfl := Except.error.inj hload
            exact .settings htext hdocument hvalue hproblems
          | ok settings =>
            rw [hproblems] at hload
            cases hload

/-- **The faults of a configuration are those of the steps of its reading.** -/
lemma load_eq_error_iff {entry : FileSystem.Entry} {fault : Fault} (h : fs.find path = .ok entry) :
    load fs path = .error fault ↔ Fails path entry fault :=
  ⟨fails_of_load_eq_error h, load_eq_error_of_fails h⟩

end

/-! ## Which faults are reported -/

/-- **What is heeded**: a file with a text that is no TOML, or that is TOML whose value of `tool`,
if it has one, is a table. -/
def Heeded (entry : FileSystem.Entry) : Prop :=
  ∃ bytes text, entry = .file bytes ∧ Text.Utf8.decode? bytes = some text ∧
    (Toml.parse text = .error .malformed ∨ ∃ document, Toml.parse text = .ok document ∧
      ∀ value, document.lookup "tool" = some value → ∃ tools, value = .table tools)

lemma heeded_file_iff {bytes : List UInt8} {text : List Char}
    (htext : Text.Utf8.decode? bytes = some text) :
    Heeded (.file bytes) ↔ Toml.parse text = .error .malformed ∨
      ∃ document, Toml.parse text = .ok document ∧
        ∀ value, document.lookup "tool" = some value → ∃ tools, value = .table tools := by
  constructor
  · rintro ⟨_, text', ⟨⟩, htext', hparse⟩
    rw [htext] at htext'
    obtain rfl := Option.some.inj htext'
    exact hparse
  · exact fun hparse => ⟨bytes, text, rfl, htext, hparse⟩

/-- **A fault is reported exactly if it is one of what is heeded.** -/
lemma Fails.isReported_iff [Wording] {path : FilePath} {entry : FileSystem.Entry} {fault : Fault}
    (h : Fails path entry fault) : fault.isReported = true ↔ Heeded entry := by
  cases h with
  | directory => simp [Fault.isReported, Heeded]
  | notText hbytes => simp [Fault.isReported, Heeded, hbytes]
  | @notToml bytes text reason htext hreason =>
    rw [heeded_file_iff htext, hreason]
    cases reason <;> simp [Fault.isReported]
  | tool htext hdocument hvalue htable =>
    rw [heeded_file_iff htext, hdocument]
    simp [Fault.isReported, hvalue, htable]
  | @settings bytes text document value problems htext hdocument hvalue hproblems =>
    rw [heeded_file_iff htext, hdocument]
    exact iff_of_true rfl (Or.inr ⟨document, rfl, exists_section?_iff.mp ⟨value, hvalue⟩⟩)

/-- What is not heeded has a fault. -/
lemma exists_fails_of_not_heeded [Wording] (path : FilePath) {entry : FileSystem.Entry}
    (h : ¬ Heeded entry) : ∃ fault, Fails path entry fault := by
  cases entry with
  | directory => exact ⟨_, .directory⟩
  | file bytes =>
    cases htext : Text.Utf8.decode? bytes with
    | none => exact ⟨_, .notText htext⟩
    | some text =>
      cases hdocument : Toml.parse text with
      | error reason => exact ⟨_, .notToml htext hdocument⟩
      | ok document =>
        cases hvalue : section? document with
        | error fault =>
          obtain ⟨-, value, hvalue, htable⟩ := section?_eq_error_iff.mp hvalue
          exact ⟨_, .tool htext hdocument hvalue htable⟩
        | ok value =>
          refine absurd ((heeded_file_iff htext).mpr (Or.inr ⟨document, hdocument, ?_⟩)) h
          exact exists_section?_iff.mp ⟨value, hvalue⟩

end Configuration

/-! ## How a run ends -/

namespace Configuration.Fault

variable {fault : Fault} {path : FilePath}

/-- **A run that reports the fault of its configuration**: it says what is invalid in which file,
with some detail, and nothing else, and ends with the exit code of an error. -/
structure Reported (fault : Fault) (path : FilePath) (outcome : Outcome) : Prop where
  kind : (∃ detail, fault = .notToml .malformed detail) ∨
    ∃ problems detail, problems ≠ [] ∧ fault = .settings problems detail
  message : ∃ what ∈ [": invalid TOML: ", ": invalid [tool.nolintlint] settings:\n"],
    ∃ detail, fault.message path = path.render ++ what ++ detail
  stdout : outcome.stdout = ""
  stderr : outcome.stderr = Text.printed ["Error: " ++ fault.message path]
  ending : outcome.ending = .exited 2

/-- **A run that breaks off over its configuration**, without a word. -/
structure BreaksOff (fault : Fault) (outcome : Outcome) : Prop where
  stdout : outcome.stdout = ""
  stderr : outcome.stderr = ""
  ending : outcome.ending = .aborted (.configuration fault)

lemma kind_of_isReported (h : fault.isReported = true) :
    (∃ detail, fault = .notToml .malformed detail) ∨
      ∃ problems detail, fault = .settings problems detail := by
  cases fault with
  | notToml reason detail =>
    cases reason with
    | malformed => exact Or.inl ⟨detail, rfl⟩
    | _ => cases h
  | settings problems detail => exact Or.inr ⟨problems, detail, rfl⟩
  | _ => cases h

lemma message_of_isReported (path : FilePath) (h : fault.isReported = true) :
    ∃ what ∈ [": invalid TOML: ", ": invalid [tool.nolintlint] settings:\n"],
      ∃ detail, fault.message path = path.render ++ what ++ detail := by
  rcases kind_of_isReported h with ⟨detail, rfl⟩ | ⟨problems, detail, rfl⟩
  · exact ⟨_, List.mem_cons_self, detail, rfl⟩
  · exact ⟨_, List.mem_cons_of_mem _ List.mem_cons_self, detail, rfl⟩

end Configuration.Fault

section

variable [Configuration.Wording] {fs : FileSystem} {options : LintOptions}
  {fault : Configuration.Fault}

lemma FileSystem.lintConfig_of_load_eq_error
    (h : Configuration.load fs options.config = .error fault) :
    fs.lintConfig options = .error fault := by
  rw [lintConfig, h]
  rfl

variable [Grammars]

/-- A run whose configuration fails has nothing to log, as it did nothing. -/
lemma FileSystem.lintLog_of_load_eq_error
    (h : Configuration.load fs options.config = .error fault) : fs.lintLog options = [] := by
  rw [lintLog, lintConfig_of_load_eq_error h]

/-- **What a run makes of the fault of its configuration.** -/
lemma Command.run_lint_of_load_eq_error
    (h : Configuration.load fs options.config = .error fault) (verbose : Bool) :
    run fs ⟨verbose, .lint options⟩ =
      if fault.isReported then Outcome.failed [] [] (fault.message options.config)
      else Outcome.brokenOff [] (.configuration fault) := by
  have hlog : (if verbose then fs.lintLog options else []) = [] := by
    rw [FileSystem.lintLog_of_load_eq_error h, ite_self]
  show lintOutcome fs options (if verbose then fs.lintLog options else []) = _
  rw [hlog, lintOutcome,
    FileSystem.lint_of_config_error (FileSystem.lintConfig_of_load_eq_error h)]

/-- A fault that is reported is reported in full. -/
lemma Command.reported_of_load_eq_error
    (h : Configuration.load fs options.config = .error fault) (hreported : fault.isReported = true)
    {entry : FileSystem.Entry} (hentry : fs.find options.config = .ok entry) (verbose : Bool) :
    fault.Reported options.config (run fs ⟨verbose, .lint options⟩) := by
  have hfails : Configuration.Fails options.config entry fault :=
    (Configuration.load_eq_error_iff hentry).mp h
  rw [run_lint_of_load_eq_error h, if_pos hreported]
  refine ⟨?_, Configuration.Fault.message_of_isReported options.config hreported, rfl, ?_, rfl⟩
  · rcases Configuration.Fault.kind_of_isReported hreported with hkind | ⟨problems, detail, rfl⟩
    · exact Or.inl hkind
    · cases hfails with
      | settings _ _ _ hproblems =>
        exact Or.inr ⟨problems, _, Settings.problems_ne_nil hproblems, rfl⟩
  · exact String.empty_append

lemma Command.breaksOff_of_load_eq_error
    (h : Configuration.load fs options.config = .error fault)
    (hreported : ¬ fault.isReported = true) (verbose : Bool) :
    fault.BreaksOff (run fs ⟨verbose, .lint options⟩) := by
  rw [run_lint_of_load_eq_error h, if_neg hreported]
  exact ⟨rfl, rfl, rfl⟩

end

/-- **A configuration gives settings or an error message exactly if it is heeded.**  For whatever is
there under the path of the configuration: if it is heeded and has no settings, its fault is
reported.  If it is not heeded, the run breaks off over its fault. -/
theorem configuration_is_used_or_reported_iff [Grammars] [Configuration.Wording]
    {fs : FileSystem} {options : LintOptions} {entry : FileSystem.Entry}
    (h : fs.find options.config = .ok entry) (verbose : Bool) :
    let loaded := Configuration.load fs options.config
    let outcome := Command.run fs ⟨verbose, .lint options⟩
    ((∃ settings, loaded = .ok settings) ∨
        (∃ fault, loaded = .error fault ∧ fault.Reported options.config outcome) ↔
      Configuration.Heeded entry) ∧
    (¬ Configuration.Heeded entry → ∃ fault, loaded = .error fault ∧ fault.BreaksOff outcome) := by
  dsimp only
  refine ⟨⟨?used_or_reported, ?heeded⟩, ?not_heeded⟩
  case used_or_reported =>
    rintro (⟨settings, hsettings⟩ | ⟨fault, hload, hreported⟩)
    · by_contra hnot
      obtain ⟨fault, hfails⟩ := Configuration.exists_fails_of_not_heeded options.config hnot
      rw [(Configuration.load_eq_error_iff h).mpr hfails] at hsettings
      cases hsettings
    · refine ((Configuration.load_eq_error_iff h).mp hload).isReported_iff.mp ?_
      rcases hreported.kind with ⟨detail, rfl⟩ | ⟨problems, detail, -, rfl⟩ <;> rfl
  case heeded =>
    intro hheeded
    cases hload : Configuration.load fs options.config with
    | ok settings => exact Or.inl ⟨settings, rfl⟩
    | error fault =>
      have hreported := ((Configuration.load_eq_error_iff h).mp hload).isReported_iff.mpr hheeded
      exact Or.inr ⟨fault, rfl, Command.reported_of_load_eq_error hload hreported h verbose⟩
  case not_heeded =>
    intro hnot
    obtain ⟨fault, hfails⟩ := Configuration.exists_fails_of_not_heeded options.config hnot
    have hload := (Configuration.load_eq_error_iff h).mpr hfails
    exact ⟨fault, hload,
      Command.breaksOff_of_load_eq_error hload (mt hfails.isReported_iff.mp hnot) verbose⟩

/-- A source file, and a configuration with this content. -/
def configured (bytes : List UInt8) : FileSystem :=
  (FileSystem.writeFile {} (.ofString "a.go") []).writeFile (.ofString ".nolintlint.toml") bytes

def goFile : LintOptions where
  paths := [.ofString "a.go"]

/-- A header without its closing bracket is reported. -/
theorem unclosed_header_is_reported :
    let bytes := "[tool.nolintlint\n".toList.map Char.toUInt8
    let outcome := Command.run (configured bytes) ⟨true, .lint goFile⟩
    (configured bytes).find goFile.config = .ok (.file bytes) ∧
      Configuration.Heeded (.file bytes) ∧
      ((∃ settings, Configuration.load (configured bytes) goFile.config = .ok settings) ∨
        ∃ fault, Configuration.load (configured bytes) goFile.config = .error fault ∧
          fault.Reported goFile.config outcome) ∧
      "Error: .nolintlint.toml: invalid TOML: ".toList <+: outcome.stderr.toList := by
  have hfind : (configured ("[tool.nolintlint\n".toList.map Char.toUInt8)).find goFile.config =
      .ok (.file ("[tool.nolintlint\n".toList.map Char.toUInt8)) := by rfl
  have hheeded : Configuration.Heeded (.file ("[tool.nolintlint\n".toList.map Char.toUInt8)) :=
    ⟨_, "[tool.nolintlint\n".toList, rfl, by decide, Or.inl (by rfl)⟩
  exact ⟨hfind, hheeded, (configuration_is_used_or_reported_iff hfind true).1.mpr hheeded,
    by decide +kernel⟩

/-- **A run over a configuration that is no text says nothing**, though the file is there and gives
no settings. -/
theorem stray_byte_breaks_off :
    let outcome := Command.run (configured [0xFF]) ⟨false, .lint goFile⟩
    (configured [0xFF]).find goFile.config = .ok (.file [0xFF]) ∧
      Configuration.load (configured [0xFF]) goFile.config = .error .notText ∧
      Configuration.Fault.isReported .notText = false ∧
      outcome.ending = .aborted (.configuration .notText) ∧ outcome.exitCode = 1 ∧
      outcome.stderr = "" := by
  decide +kernel

end DirectiveLint
