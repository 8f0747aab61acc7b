import DirectiveLint.Command
import DirectiveLint.Configuration.Words
import DirectiveLint.Language.Scanners
import Mathlib.Data.List.Infix
import Mathlib.Tactic.Lemma

/-!
# What a directory stands for

A directory among the paths of a command stands for source files below it.  Which files are source
files is also decided where a file is loaded, from the suffix in any case; this module holds the two
against each other.

* `FileSystem.Below` — something is there below a directory, at any depth.
* `FileSystem.mem_entriesBelow_iff` — a directory is listed completely, and nothing else is listed
  with it.
* `Language.hasSourceSuffix_iff` — a suffix is spelled as in the table if it belongs to a language
  and is in lower case.
* `expansion_contributes_iff` — **what a directory contributes**: everything below it, whether file
  or directory, whose suffix belongs to a language and is in lower case.

So the two disagree twice.  A file with a suffix in upper case is left out, though it is linted when
it is named itself, and a directory that is called like a source file is taken for one
(`expansion_and_language_disagree`).
-/

namespace DirectiveLint

namespace Language

lemma exists_ofPath_iff {path : FilePath} : (∃ language, ofPath path = .ok language) ↔
    (bySuffix.lookup (foldCase path.suffix)).isSome = true := by
  rw [ofPath]
  cases bySuffix.lookup (foldCase path.suffix) with
  | none => simp
  | some language => simp

/-- The suffixes of the table are in lower case. -/
lemma foldCase_of_lookup {suffix : String} (h : (bySuffix.lookup suffix).isSome = true) :
    foldCase suffix = suffix := by
  obtain ⟨language, hlanguage⟩ := Option.isSome_iff_exists.mp h
  obtain ⟨front, back, htable, -⟩ := List.lookup_eq_some_iff.mp hlanguage
  have hmem : (suffix, language) ∈ bySuffix := htable ▸ List.mem_append_cons_self
  simp only [bySuffix, List.mem_cons, Prod.mk.injEq, List.not_mem_nil, or_false] at hmem
  rcases hmem with ⟨rfl, -⟩ | ⟨rfl, -⟩ | ⟨rfl, -⟩ <;> decide

/-- **A suffix is one of the table if it belongs to a language and is in lower case.** -/
lemma hasSourceSuffix_iff {path : FilePath} : hasSourceSuffix path = true ↔
    (∃ language, ofPath path = .ok language) ∧ foldCase path.suffix = path.suffix := by
  rw [exists_ofPath_iff, hasSourceSuffix]
  constructor
  · intro h
    rw [foldCase_of_lookup h]
    exact ⟨h, rfl⟩
  · rintro ⟨h, hlower⟩
    rwa [hlower] at h

end Language

namespace FileSystem

variable {fs : FileSystem} {directory file : FilePath}

/-! ## What is there -/

lemma mem_leading_iff {parts whole : List String} :
    parts ∈ leading whole ↔ parts ≠ [] ∧ parts <+: whole := by
  rw [leading, List.mem_map]
  constructor
  · rintro ⟨n, hn, rfl⟩
    rw [List.mem_range] at hn
    refine ⟨fun hnil => ?_, List.take_prefix (n + 1) whole⟩
    have hlength := congrArg List.length hnil
    rw [List.length_take, List.length_nil] at hlength
    omega
  · rintro ⟨hne, hprefix⟩
    have hpos : 0 < parts.length := List.length_pos_iff.mpr hne
    refine ⟨parts.length - 1, List.mem_range.mpr ?_, ?_⟩
    · have := hprefix.length_le
      omega
    · rw [Nat.sub_add_cancel hpos]
      exact (List.prefix_iff_eq_take.mp hprefix).symm

/-- **Something is there under every list of parts that a name goes through**, and under no
other. -/
lemma exists_lookup?_iff {parts : List String} : (∃ entry, fs.lookup? parts = some entry) ↔
    parts = [] ∨ ∃ whole ∈ fs.mentioned, parts <+: whole := by
  rw [lookup?]
  cases hfile : fs.files.lookup parts with
  | some bytes =>
    obtain ⟨front, back, hfiles, -⟩ := List.lookup_eq_some_iff.mp hfile
    have hmem : (parts, bytes) ∈ fs.files := hfiles ▸ List.mem_append_cons_self
    refine iff_of_true ⟨_, rfl⟩ (Or.inr ⟨parts, ?_, List.prefix_refl parts⟩)
    exact List.mem_append_left _ (List.mem_map.mpr ⟨_, hmem, rfl⟩)
  | none =>
    simp only [Bool.or_eq_true, List.isEmpty_iff, List.any_eq_true, List.isPrefixOf_iff_prefix]
    split
    · next h => exact iff_of_true ⟨_, rfl⟩ h
    · next h =>
      refine iff_of_false ?_ h
      rintro ⟨entry, hentry⟩
      cases hentry

lemma mem_entries_iff {parts : List String} :
    parts ∈ fs.entries ↔ parts ≠ [] ∧ ∃ entry, fs.lookup? parts = some entry := by
  rw [entries, List.mem_eraseDups, List.mem_flatMap, exists_lookup?_iff]
  simp only [mem_leading_iff]
  constructor
  · rintro ⟨whole, hwhole, hne, hprefix⟩
    exact ⟨hne, Or.inr ⟨whole, hwhole, hprefix⟩⟩
  · rintro ⟨hne, hnil | ⟨whole, hwhole, hprefix⟩⟩
    · exact absurd hnil hne
    · exact ⟨whole, hwhole, hne, hprefix⟩

lemma mem_partsBelow_iff {base parts : List String} : parts ∈ fs.partsBelow base ↔
    parts ≠ [] ∧ ∃ entry, fs.lookup? (base ++ parts) = some entry := by
  rw [partsBelow, List.mem_mergeSort, List.mem_map]
  simp only [List.mem_filter, mem_entries_iff, Bool.and_eq_true, List.isPrefixOf_iff_prefix,
    bne_iff_ne]
  constructor
  · rintro ⟨_, ⟨⟨-, hthere⟩, ⟨rest, rfl⟩, hne⟩, rfl⟩
    rw [List.drop_left]
    refine ⟨?_, hthere⟩
    rintro rfl
    exact hne (List.append_nil base)
  · rintro ⟨hne, hthere⟩
    refine ⟨base ++ parts, ⟨⟨?_, hthere⟩, List.prefix_append base parts, ?_⟩, List.drop_left⟩
    · exact List.append_ne_nil_of_right_ne_nil base hne
    · exact fun heq => hne (List.append_cancel_left (heq.trans (List.append_nil base).symm))

/-! ## What is below a directory -/

/-- **Something is there below a directory**, at any depth, under the path of the directory with
more parts behind it. -/
def Below (fs : FileSystem) (directory file : FilePath) (entry : Entry) : Prop :=
  ∃ base parts, fs.resolve directory = .ok base ∧ parts ≠ [] ∧ file = directory.below parts ∧
    fs.lookup? (base ++ parts) = some entry

lemma exists_resolve_of_isDirectory (h : fs.isDirectory directory = true) :
    ∃ base, fs.resolve directory = .ok base := by
  cases hresolve : fs.resolve directory with
  | ok base => exact ⟨base, rfl⟩
  | error reason =>
    have hfind : fs.find directory = .error reason := by rw [find, hresolve]; rfl
    rw [isDirectory, hfind] at h
    cases h

/-- **A directory is listed completely.** -/
lemma mem_entriesBelow_iff (h : fs.isDirectory directory = true) :
    file ∈ fs.entriesBelow directory ↔ ∃ entry, fs.Below directory file entry := by
  obtain ⟨base, hbase⟩ := exists_resolve_of_isDirectory h
  rw [entriesBelow, hbase]
  dsimp only
  rw [if_pos h, List.mem_map]
  simp only [mem_partsBelow_iff]
  constructor
  · rintro ⟨parts, ⟨hne, entry, hentry⟩, rfl⟩
    exact ⟨entry, base, parts, hbase, hne, rfl, hentry⟩
  · rintro ⟨entry, base', parts, hbase', hne, rfl, hentry⟩
    obtain rfl := Except.ok.inj (hbase.symm.trans hbase')
    exact ⟨parts, ⟨hne, entry, hentry⟩, rfl⟩

lemma refusal?_of_isDirectory (h : fs.isDirectory directory = true) :
    fs.refusal? directory = none := by
  rw [isDirectory] at h
  rw [refusal?]
  split at h
  · next hfind => rw [hfind]
  · cases h

/-- Arguments stand for the same whatever comes before and after them. -/
lemma collect_append_cons {before after collected : List FilePath} {path : FilePath}
    (h : fs.collect (before ++ path :: after) = .ok collected) :
    collected = fs.sources before ++ fs.expand path ++ fs.sources after := by
  rw [(collect_eq_ok_iff.mp h).2, sources_append, List.append_assoc]
  rfl

end FileSystem

open FileSystem

/-- **What a directory contributes to the files of a command**, on its own and between other
arguments: what is below it, whether it is a file or a directory, with a suffix that belongs to a
language and is in lower case. -/
theorem expansion_contributes_iff {fs : FileSystem} {directory : FilePath}
    (h : fs.isDirectory directory = true) :
    ∃ files, fs.collect [directory] = .ok files ∧
      (∀ before after collected, fs.collect (before ++ directory :: after) = .ok collected →
        collected = fs.sources before ++ files ++ fs.sources after) ∧
      ∀ file, file ∈ files ↔ (∃ entry, fs.Below directory file entry) ∧
        (∃ language, Language.ofPath file = .ok language) ∧
        Language.foldCase file.suffix = file.suffix := by
  have hcollect : fs.collect [directory] = .ok (fs.expand directory) := by
    rw [collect_eq_ok (List.forall_mem_singleton.mpr (refusal?_of_isDirectory h)), sources,
      List.flatMap_singleton]
  refine ⟨fs.expand directory, hcollect, fun _ _ _ => collect_append_cons, fun file => ?_⟩
  rw [expand, if_pos h, List.mem_filter, mem_entriesBelow_iff h, Language.hasSourceSuffix_iff]

/-- Three directories: with a C header further down, with a Go file whose suffix is in upper case,
and with a directory that is called like a Go file. -/
def threeDirectories : FileSystem :=
  ((FileSystem.writeFile {} (.ofString "c/sub/a.h") []).writeFile (.ofString "d/b.GO")
    ("//nolint\n".toList.map Char.toUInt8)).makeDirectory (.ofString "e/x.go")

/-- The header further down is contributed. -/
theorem header_is_contributed :
    threeDirectories.isDirectory (.ofString "c") = true ∧
      ∃ files, threeDirectories.collect [.ofString "c"] = .ok files ∧
        FilePath.ofString "c/sub/a.h" ∈ files := by
  have hdirectory : threeDirectories.isDirectory (.ofString "c") = true := by decide
  obtain ⟨files, hfiles, -, hmem⟩ := expansion_contributes_iff hdirectory
  refine ⟨hdirectory, files, hfiles, (hmem _).mpr ⟨⟨.file [], ["c"], ["sub", "a.h"], ?_⟩, ?_⟩⟩
  · exact ⟨rfl, by decide, by decide, by decide⟩
  · exact ⟨⟨.c, rfl⟩, by decide⟩

/-- **The two disagree.**  The file `b.GO` is not contributed, though it is linted when it is named,
and the directory `x.go` is, so that the run fails over it. -/
theorem expansion_and_language_disagree :
    threeDirectories.isDirectory (.ofString "d") = true ∧
      threeDirectories.isDirectory (.ofString "e") = true ∧
      threeDirectories.collect [.ofString "d", .ofString "e"] = .ok [.ofString "e/x.go"] ∧
      threeDirectories.Below (.ofString "d") (.ofString "d/b.GO")
        (.file ("//nolint\n".toList.map Char.toUInt8)) ∧
      Language.ofPath (.ofString "d/b.GO") = .ok .go ∧
      (Command.run threeDirectories
        ⟨false, .lint { paths := [.ofString "d/b.GO"] }⟩).exitCode = 1 ∧
      threeDirectories.Below (.ofString "e") (.ofString "e/x.go") .directory ∧
      (Command.run threeDirectories ⟨false, .lint { paths := [.ofString "e"] }⟩).stderr =
        "Error: [Errno 21] Is a directory: 'e/x.go'\n" := by
  refine ⟨by decide, by decide, by decide +kernel, ⟨["d"], ["b.GO"], ?_⟩, rfl, by decide +kernel,
    ⟨["e"], ["x.go"], ?_⟩, by decide +kernel⟩
  · exact ⟨rfl, by decide, by decide, by decide⟩
  · exact ⟨rfl, by decide, by decide, by decide⟩

end DirectiveLint
