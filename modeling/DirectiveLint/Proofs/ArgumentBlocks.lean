import DirectiveLint.Proofs.Cuts
import DirectiveLint.Proofs.Expansion
import Mathlib.Data.List.Forall2
import Mathlib.Data.List.Nodup

/-!
# The files of a command, argument by argument

Each argument of a command stands for a block of files, and the blocks follow each other as the
arguments do.  `Expansion` tells what is in the block of a directory; this module tells the rest.

**Names.**  `IsSourceName` is the name of a source file without any talk of dots: something, and one
of three endings behind it.  `Language.hasSourceSuffix_iff_isSourceName` holds it against the suffix
that is cut off at the last dot.

**Order.**  The order of parts is the lexicographic one (`FileSystem.partsLe_iff`), which is not the
order of texts: a hyphen goes before a slash.  No entry is listed twice
(`FileSystem.nodup_partsBelow`), so the entries of a directory increase strictly
(`FileSystem.pairwise_entriesBelow`).

`FileSystem.StandsFor` is the block of an argument, and `collected_argument_by_argument` puts the
blocks together.  This works for every path but one: while it is not known whether an argument is a
directory, there is no block for it, and nothing is collected (`long_name_is_refused`).
-/

namespace DirectiveLint

/-! ## The names of source files -/

/-- **The name of a source file**: one of the endings of source files, with something in front. -/
def IsSourceName (name : String) : Prop :=
  ∃ stem ending, stem ≠ "" ∧ ending ∈ [".go", ".c", ".h"] ∧ name = stem ++ ending

namespace FilePath

/-- The last dot of a name begins its suffix, unless it comes first or last. -/
lemma suffixOfName_append (stem : List Char) {ending : List Char} (hdot : '.' ∉ ending) :
    suffixOfName (stem ++ '.' :: ending) =
      if ending.isEmpty || stem.isEmpty then [] else '.' :: ending := by
  have hrev : (stem ++ '.' :: ending).reverse = ending.reverse ++ '.' :: stem.reverse := by simp
  have hrun : ending.reverse.all (· != '.') = true :=
    Text.all_bne_of_not_mem (mt List.mem_reverse.mp hdot)
  have hhead : ∀ c ∈ ('.' :: stem.reverse).head?, (c != '.') = false := by
    rintro _ ⟨⟩
    rfl
  rw [suffixOfName, hrev, Text.takeWhile_run hrun hhead, Text.dropWhile_run hrun hhead]
  simp

lemma suffixOfName_of_not_mem {name : List Char} (hdot : '.' ∉ name) : suffixOfName name = [] := by
  have hall : name.reverse.all (· != '.') = true :=
    Text.all_bne_of_not_mem (mt List.mem_reverse.mp hdot)
  have hdrop : name.reverse.dropWhile (· != '.') = [] := Text.trimStart_eq_nil_of_all hall
  rw [suffixOfName, hdrop]
  simp

/-- **A suffix without further dots is the suffix of the names that end in it** behind something. -/
lemma suffixOfName_eq_iff {name ending : List Char} (hending : ending ≠ []) (hdot : '.' ∉ ending) :
    suffixOfName name = '.' :: ending ↔ ∃ stem, stem ≠ [] ∧ name = stem ++ '.' :: ending := by
  constructor
  · intro h
    by_cases hmem : '.' ∈ name.reverse
    · obtain ⟨last, front, hname, hlast⟩ := List.eq_append_cons_of_mem hmem
      have hname' : name = front.reverse ++ '.' :: last.reverse := by
        rw [← List.reverse_reverse name, hname]
        simp
      rw [hname', suffixOfName_append _ (mt List.mem_reverse.mp hlast)] at h
      split at h
      · cases h
      · next hparts =>
        simp only [Bool.or_eq_true, List.isEmpty_iff, not_or] at hparts
        exact ⟨front.reverse, hparts.2, by rw [hname', h]⟩
    · rw [suffixOfName_of_not_mem (mt List.mem_reverse.mpr hmem)] at h
      cases h
  · rintro ⟨stem, hstem, rfl⟩
    rw [suffixOfName_append stem hdot]
    simp [hending, hstem]

lemma suffix_eq_iff {path : FilePath} {ending : List Char} (hending : ending ≠ [])
    (hdot : '.' ∉ ending) : path.suffix = String.ofList ('.' :: ending) ↔
      ∃ stem, stem ≠ "" ∧ path.parts.getLast? = some (stem ++ String.ofList ('.' :: ending)) := by
  rw [suffix]
  cases path.parts.getLast? with
  | none =>
    refine iff_of_false (fun h => ?_) ?_
    · have hne : String.ofList ('.' :: ending) ≠ "" := by simp
      exact hne h.symm
    · rintro ⟨stem, -, ⟨⟩⟩
  | some name =>
    dsimp only
    rw [String.ofList_inj, suffixOfName_eq_iff hending hdot]
    constructor
    · rintro ⟨stem, hstem, hname⟩
      refine ⟨String.ofList stem, by simpa using hstem, ?_⟩
      rw [← String.ofList_append, ← hname, String.ofList_toList]
    · rintro ⟨stem, hstem, hname⟩
      refine ⟨stem.toList, by simpa using hstem, ?_⟩
      rw [Option.some.inj hname, String.toList_append, String.toList_ofList]

end FilePath

/-- **A suffix is one of the table if the name is one of a source file.** -/
lemma Language.hasSourceSuffix_iff_isSourceName {path : FilePath} :
    hasSourceSuffix path = true ↔ ∃ name ∈ path.parts.getLast?, IsSourceName name := by
  have htable : hasSourceSuffix path = true ↔ path.suffix ∈ [".go", ".c", ".h"] := by
    rw [hasSourceSuffix, List.lookup_isSome_iff]
    simp [bySuffix]
  have hsuffix : ∀ ending ∈ [".go", ".c", ".h"], path.suffix = ending ↔
      ∃ stem, stem ≠ "" ∧ path.parts.getLast? = some (stem ++ ending) := by
    simp only [List.forall_mem_cons, List.not_mem_nil, false_imp_iff, implies_true, and_true]
    exact ⟨FilePath.suffix_eq_iff (by decide) (by decide),
      FilePath.suffix_eq_iff (by decide) (by decide),
      FilePath.suffix_eq_iff (by decide) (by decide)⟩
  rw [htable]
  constructor
  · intro hmem
    obtain ⟨stem, hstem, hname⟩ := (hsuffix _ hmem).mp rfl
    exact ⟨_, hname, stem, _, hstem, hmem, rfl⟩
  · rintro ⟨_, hname, stem, ending, hstem, hmem, rfl⟩
    rw [(hsuffix ending hmem).mpr ⟨stem, hstem, hname⟩]
    exact hmem

namespace FileSystem

/-! ## The order of parts -/

lemma partsLe_cons_iff {a b : String} {as bs : List String} :
    partsLe (a :: as) (b :: bs) = true ↔ a < b ∨ a = b ∧ partsLe as bs = true := by
  rw [partsLe]
  split
  · next hab =>
    obtain rfl := beq_iff_eq.mp hab
    rw [eq_self_iff_true, true_and, or_iff_right (String.lt_irrefl a)]
  · next hab =>
    rw [beq_iff_eq] at hab
    simp [hab]

/-- **The order of parts is the lexicographic one.** -/
lemma partsLe_iff {as bs : List String} :
    partsLe as bs = true ↔ as = bs ∨ List.Lex (· < ·) as bs := by
  induction as generalizing bs with
  | nil =>
    cases bs with
    | nil => exact iff_of_true rfl (Or.inl rfl)
    | cons b bs => exact iff_of_true rfl (Or.inr .nil)
  | cons a as ih =>
    cases bs with
    | nil => simp [partsLe]
    | cons b bs =>
      rw [partsLe_cons_iff, ih]
      constructor
      · rintro (hlt | ⟨rfl, rfl | hlex⟩)
        · exact Or.inr (.rel hlt)
        · exact Or.inl rfl
        · exact Or.inr (.cons hlex)
      · rintro (heq | hlex)
        · obtain ⟨rfl, rfl⟩ := List.cons.inj heq
          exact Or.inr ⟨rfl, Or.inl rfl⟩
        · cases hlex with
          | rel hlt => exact Or.inl hlt
          | cons hlex => exact Or.inr ⟨rfl, Or.inr hlex⟩

lemma partsLe_trans (as bs cs : List String) (hab : partsLe as bs = true)
    (hbc : partsLe bs cs = true) : partsLe as cs = true := by
  induction as generalizing bs cs with
  | nil => rfl
  | cons a as ih =>
    cases bs with
    | nil => cases hab
    | cons b bs =>
      cases cs with
      | nil => cases hbc
      | cons c cs =>
        rw [partsLe_cons_iff] at hab hbc ⊢
        rcases hab with hab | ⟨rfl, hab⟩
        · rcases hbc with hbc | ⟨rfl, -⟩
          · exact Or.inl (String.lt_trans hab hbc)
          · exact Or.inl hab
        · exact hbc.imp_right fun hbc => ⟨hbc.1, ih bs cs hab hbc.2⟩

lemma partsLe_total (as bs : List String) : (partsLe as bs || partsLe bs as) = true := by
  rw [Bool.or_eq_true]
  induction as generalizing bs with
  | nil => exact Or.inl rfl
  | cons a as ih =>
    cases bs with
    | nil => exact Or.inr rfl
    | cons b bs =>
      rw [partsLe_cons_iff, partsLe_cons_iff]
      rcases Std.lt_trichotomy a b with hlt | rfl | hlt
      · exact Or.inl (Or.inl hlt)
      · exact (ih bs).imp (fun h => Or.inr ⟨rfl, h⟩) (fun h => Or.inr ⟨rfl, h⟩)
      · exact Or.inr (Or.inl hlt)

/-! ## Every entry once -/

lemma nodup_eraseDups : ∀ parts : List (List String), parts.eraseDups.Nodup
  | [] => by rw [List.eraseDups_nil]; exact List.nodup_nil
  | first :: parts => by
      rw [List.eraseDups_cons, List.nodup_cons, List.mem_eraseDups, List.mem_filter]
      exact ⟨by simp, nodup_eraseDups _⟩
termination_by parts => parts.length
decreasing_by exact Nat.lt_succ_of_le (List.length_filter_le _ parts)

variable {fs : FileSystem} {path : FilePath} {paths : List FilePath}

/-- **No entry of a directory is listed twice.** -/
lemma nodup_partsBelow (fs : FileSystem) (base : List String) : (fs.partsBelow base).Nodup := by
  rw [partsBelow, (List.mergeSort_perm _ partsLe).nodup_iff]
  refine List.Nodup.map_on ?_ ((nodup_eraseDups _).filter _)
  intro whole hwhole whole' hwhole' hdrop
  simp only [List.mem_filter, Bool.and_eq_true, List.isPrefixOf_iff_prefix] at hwhole hwhole'
  obtain ⟨⟨rest, rfl⟩, -⟩ := hwhole.2
  obtain ⟨⟨rest', rfl⟩, -⟩ := hwhole'.2
  rw [List.drop_left, List.drop_left] at hdrop
  rw [hdrop]

/-- Paths with the same beginning are ordered as what follows it. -/
lemma lex_below_iff {xs ys : List String} :
    List.Lex (· < ·) (path.below xs).parts (path.below ys).parts ↔ List.Lex (· < ·) xs ys := by
  show List.Lex (· < ·) (path.parts ++ xs) (path.parts ++ ys) ↔ _
  induction path.parts with
  | nil => rfl
  | cons part parts ih =>
    rw [List.cons_append, List.cons_append, ← ih]
    constructor
    · rintro (_ | hlt | hlex)
      · exact absurd hlt (String.lt_irrefl part)
      · exact hlex
    · exact .cons

/-- **The entries of a directory increase strictly**, part by part. -/
lemma pairwise_entriesBelow (fs : FileSystem) (path : FilePath) :
    (fs.entriesBelow path).Pairwise fun a b => List.Lex (· < ·) a.parts b.parts := by
  rw [entriesBelow]
  split
  · exact .nil
  · next base _ =>
    split
    · rw [List.pairwise_map]
      have hsorted : (fs.partsBelow base).Pairwise fun xs ys => partsLe xs ys = true :=
        List.pairwise_mergeSort partsLe_trans partsLe_total _
      refine (hsorted.and (fs.nodup_partsBelow base)).imp ?_
      rintro xs ys ⟨hle, hne⟩
      exact lex_below_iff.mpr ((partsLe_iff.mp hle).resolve_left hne)
    · exact .nil

/-! ## What an argument stands for -/

/-- **The block of an argument.**  What is no directory stands for itself, whether it is a file of
any kind or nothing at all.  A directory stands for everything below it, at any depth, that has the
name of a source file, in the order of parts and without repetitions. -/
inductive StandsFor (fs : FileSystem) : FilePath → List FilePath → Prop
  | itself {path : FilePath} (h : fs.find path ≠ .ok .directory) : StandsFor fs path [path]
  | contents {path : FilePath} {files : List FilePath} (h : fs.find path = .ok .directory)
      (complete : ∀ file, file ∈ files ↔ (∃ entry, fs.Below path file entry) ∧
        ∃ name ∈ file.parts.getLast?, IsSourceName name)
      (increasing : files.Pairwise fun a b => List.Lex (· < ·) a.parts b.parts) :
      StandsFor fs path files

lemma isDirectory_iff : fs.isDirectory path = true ↔ fs.find path = .ok .directory := by
  rw [isDirectory]
  split
  · next h => exact iff_of_true rfl h
  · next h => exact iff_of_false Bool.false_ne_true h

lemma standsFor_expand (fs : FileSystem) (path : FilePath) :
    fs.StandsFor path (fs.expand path) := by
  rw [expand]
  split
  · next h =>
    refine .contents (isDirectory_iff.mp h) (fun file => ?_)
      ((fs.pairwise_entriesBelow path).filter _)
    rw [List.mem_filter, mem_entriesBelow_iff h, Language.hasSourceSuffix_iff_isSourceName]
  · next h => exact .itself (mt isDirectory_iff.mpr h)

/-- A name that is too long cannot be looked up, whatever directory it is looked up in. -/
lemma find_of_long_name {name : String} (hhere : fs.lookup? fs.workingDirectory = some .directory)
    (hlong : FilePath.maxPartSize < name.utf8ByteSize) (hnull : '\x00' ∉ name.toList) :
    fs.find ⟨"", [name]⟩ = .error .nameTooLong := by
  have hresolve : fs.resolve ⟨"", [name]⟩ = .error .nameTooLong := by
    have hnot : FilePath.hasNull ⟨"", [name]⟩ = false := by simpa [FilePath.hasNull] using hnull
    have hstart : fs.start ⟨"", [name]⟩ = fs.workingDirectory := rfl
    rw [resolve, hnot, hstart, if_neg Bool.false_ne_true]
    split
    · rfl
    · rw [walk, hhere]
      exact if_pos hlong
  rw [find, hresolve]
  rfl

lemma refusal?_eq_some_iff {failure : Failure} : fs.refusal? path = some failure ↔
    fs.find path = .error .nameTooLong ∧ failure = ⟨.nameTooLong, path⟩ := by
  rw [refusal?]
  split
  · next h => simp [h, eq_comm]
  · next h =>
    refine iff_of_false (fun hsome => ?_) fun hfind => h hfind.1
    cases hsome

lemma refusal?_eq_none_iff : fs.refusal? path = none ↔ fs.find path ≠ .error .nameTooLong := by
  rw [refusal?]
  split
  · next h => simp [h]
  · next h => simpa using h

lemma collect_cons_of_refused (hfind : fs.find path = .error .nameTooLong) :
    fs.collect (path :: paths) = .error ⟨.nameTooLong, path⟩ := by
  rw [collect, List.findSome?_cons, refusal?_eq_some_iff.mpr ⟨hfind, rfl⟩]

/-- The first argument that cannot be looked up is the one that is reported. -/
lemma exists_collect_error (h : ∃ path ∈ paths, fs.find path = .error .nameTooLong) :
    ∃ before path after, paths = before ++ path :: after ∧
      (∀ earlier ∈ before, fs.find earlier ≠ .error .nameTooLong) ∧
      fs.find path = .error .nameTooLong ∧
      fs.collect paths = .error ⟨.nameTooLong, path⟩ := by
  rw [collect]
  cases hfirst : paths.findSome? fs.refusal? with
  | none =>
    obtain ⟨path, hpath, hfind⟩ := h
    exact absurd hfind (refusal?_eq_none_iff.mp (List.findSome?_eq_none_iff.mp hfirst path hpath))
  | some failure =>
    obtain ⟨before, path, after, rfl, hrefusal, hbefore⟩ := List.findSome?_eq_some_iff.mp hfirst
    obtain ⟨hfind, rfl⟩ := refusal?_eq_some_iff.mp hrefusal
    exact ⟨before, path, after, rfl,
      fun earlier hearlier => refusal?_eq_none_iff.mp (hbefore earlier hearlier), hfind, rfl⟩

end FileSystem

/-- **The files of a command, argument by argument.**  If every argument can be looked up, there is
a block for each, and the files are the blocks in the order of the arguments.  Otherwise nothing is
collected, and the first argument that cannot be looked up is reported. -/
theorem collected_argument_by_argument (fs : FileSystem) (paths : List FilePath) :
    ((∀ path ∈ paths, fs.find path ≠ .error .nameTooLong) →
      ∃ blocks, List.Forall₂ fs.StandsFor paths blocks ∧
        fs.collect paths = .ok blocks.flatten) ∧
    ((∃ path ∈ paths, fs.find path = .error .nameTooLong) →
      ∃ before path after, paths = before ++ path :: after ∧
        (∀ earlier ∈ before, fs.find earlier ≠ .error .nameTooLong) ∧
        fs.find path = .error .nameTooLong ∧
        fs.collect paths = .error ⟨.nameTooLong, path⟩) := by
  refine ⟨fun h => ⟨paths.map fs.expand, ?blocks, ?files⟩, FileSystem.exists_collect_error⟩
  case blocks =>
    rw [List.forall₂_map_right_iff, List.forall₂_same]
    exact fun path _ => fs.standsFor_expand path
  case files =>
    rw [FileSystem.collect_eq_ok fun path hpath =>
      FileSystem.refusal?_eq_none_iff.mpr (h path hpath)]
    rfl

/-- A directory with two directories in it.  One of their names goes on with a hyphen where the
other ends, and as a character a hyphen comes before the slash that follows there. -/
def hyphenated : FileSystem :=
  (FileSystem.writeFile {} (.ofString "d/b-c/x.go") []).writeFile (.ofString "d/b/.y.h") []

/-- A path that leads nowhere stands for itself.  Behind it come the files of the directory, the
hidden one included. -/
theorem hyphenated_argument_by_argument :
    let paths := ["gone.txt", "d"].map FilePath.ofString
    (∀ path ∈ paths, hyphenated.find path ≠ .error .nameTooLong) ∧
      ∃ files, hyphenated.collect paths = .ok (.ofString "gone.txt" :: files) ∧
        .ofString "d/b/.y.h" ∈ files ∧ .ofString "d/b-c/x.go" ∈ files ∧
        files.Pairwise fun a b => List.Lex (· < ·) a.parts b.parts := by
  have hfind : ∀ path ∈ ["gone.txt", "d"].map FilePath.ofString,
      hyphenated.find path ≠ .error .nameTooLong := by decide
  obtain ⟨blocks, hblocks, hcollect⟩ := (collected_argument_by_argument hyphenated _).1 hfind
  obtain ⟨gone, rest, hgone, hrest, rfl⟩ := List.forall₂_cons_left_iff.mp hblocks
  obtain ⟨files, nothing, hfiles, hnothing, rfl⟩ := List.forall₂_cons_left_iff.mp hrest
  obtain rfl := List.forall₂_nil_left_iff.mp hnothing
  cases hgone with
  | contents h => exact absurd h (by decide)
  | itself _ =>
    cases hfiles with
    | itself h => exact absurd (by decide) h
    | contents h complete increasing =>
      refine ⟨hfind, files, ?_, (complete _).mpr ⟨⟨.file [], ["d"], ["b", ".y.h"], ?_⟩, ?_⟩,
        (complete _).mpr ⟨⟨.file [], ["d"], ["b-c", "x.go"], ?_⟩, ?_⟩, increasing⟩
      · simpa using hcollect
      · exact ⟨rfl, by decide, by decide, by decide⟩
      · exact ⟨".y.h", rfl, ".y", ".h", by decide, by decide, rfl⟩
      · exact ⟨rfl, by decide, by decide, by decide⟩
      · exact ⟨"x.go", rfl, "x", ".go", by decide, by decide, rfl⟩

/-- A name that is longer than any name can be, with the ending of a source file. -/
def longName : String :=
  String.ofList (List.replicate 256 'n' ++ ['.', 'g', 'o'])

/-- **A long name is refused.**  Nothing is there under it, but it does not stand for itself. -/
theorem long_name_is_refused :
    FileSystem.find {} ⟨"", [longName]⟩ ≠ .ok .directory ∧
      FileSystem.collect {} [⟨"", [longName]⟩] = .error ⟨.nameTooLong, ⟨"", [longName]⟩⟩ := by
  have hnull : '\x00' ∉ longName.toList := by
    unfold longName
    rw [String.toList_ofList, List.mem_append, List.mem_replicate]
    decide
  have hfind : FileSystem.find {} ⟨"", [longName]⟩ = .error .nameTooLong :=
    FileSystem.find_of_long_name rfl (by decide +kernel) hnull
  exact ⟨by simp [hfind], FileSystem.collect_cons_of_refused hfind⟩

end DirectiveLint
