import DirectiveLint.Proofs.Cuts
import DirectiveLint.SourceFiles
import Mathlib.Tactic.Lemma

/-!
# The names of files

A comment goes by the text of the path of its file.  Two paths of one text would be two files that a
report takes for one, so what has to be ruled out is that a path can be read out of another one's
text.

* `FilePath.WellFormed` — a path whose text keeps its parts apart.  What was read is such a path
  (`wellFormed_ofString`), and so is what stands below one.
* `FilePath.ofString_render` — **a path is read back from its text**, hence the text of a path
  belongs to no other path (`FilePath.render_inj`).
* `FileSystem.WellNamed` — a file system whose names are parts of a path.  Making directories and
  files keeps it so, as the paths that are asked for are read.
* `FileSystem.wellFormed_of_mem_sources` — in such a file system, the files of a command have
  well-formed paths.
-/

namespace DirectiveLint

namespace FilePath

/-- A name that a path keeps: reading a path neither cuts it nor drops it. -/
structure IsPart (part : String) : Prop where
  slash_not_mem : '/' ∉ part.toList
  ne_empty : part ≠ ""
  ne_dot : part ≠ "."

/-- **A path whose text keeps its parts apart.** -/
structure WellFormed (path : FilePath) : Prop where
  root : path.root = "" ∨ path.root = "/" ∨ path.root = "//"
  parts : ∀ part ∈ path.parts, IsPart part

/-! ## Reading gives well-formed paths -/

lemma not_mem_of_mem_splitOn {c : Char} {s piece : List Char} (h : piece ∈ s.splitOn c) :
    c ∉ piece := by
  induction s generalizing piece with
  | nil =>
    rw [List.splitOn_nil, List.mem_singleton] at h
    rw [h]
    exact List.not_mem_nil
  | cons x s ih =>
    rw [List.splitOn_cons_eq_if_modifyHead] at h
    split at h
    · rcases List.mem_cons.mp h with rfl | h
      · exact List.not_mem_nil
      · exact ih h
    · next hx =>
      cases hs : s.splitOn c with
      | nil => exact absurd hs (List.splitOn_ne_nil c s)
      | cons first rest =>
        rw [hs] at h ih
        rcases List.mem_cons.mp h with rfl | h
        · rw [List.mem_cons, not_or]
          exact ⟨fun heq => hx (beq_iff_eq.mpr heq.symm), ih List.mem_cons_self⟩
        · exact ih (List.mem_cons_of_mem first h)

lemma rootOf_cases (s : List Char) : rootOf s = "" ∨ rootOf s = "/" ∨ rootOf s = "//" := by
  rw [rootOf]
  split
  · exact Or.inl rfl
  · exact Or.inr (Or.inr rfl)
  · exact Or.inr (Or.inl rfl)

lemma wellFormed_ofString (s : String) : (ofString s).WellFormed where
  root := rootOf_cases s.toList
  parts := by
    intro part hpart
    obtain ⟨hmem, hkept⟩ := List.mem_filter.mp hpart
    obtain ⟨piece, hpiece, rfl⟩ := List.mem_map.mp hmem
    rw [Bool.and_eq_true, bne_iff_ne, bne_iff_ne] at hkept
    exact ⟨by rw [String.toList_ofList]; exact not_mem_of_mem_splitOn hpiece, hkept.1, hkept.2⟩

lemma WellFormed.below {path : FilePath} (h : path.WellFormed) {parts : List String}
    (hparts : ∀ part ∈ parts, IsPart part) : (path.below parts).WellFormed where
  root := h.root
  parts := List.forall_mem_append.mpr ⟨h.parts, hparts⟩

/-! ## Reading what was written -/

/-- Joined parts begin with the first character of the first part. -/
lemma exists_intercalate_eq_cons {part : String} (h : IsPart part) (parts : List String) :
    ∃ c rest, c ≠ '/' ∧ ['/'].intercalate ((part :: parts).map String.toList) = c :: rest := by
  obtain ⟨c, rest, hchars⟩ := List.exists_cons_of_ne_nil
    (mt String.toList_eq_nil_iff.mp h.ne_empty)
  have hc : c ≠ '/' := by
    rintro rfl
    exact h.slash_not_mem (hchars ▸ List.mem_cons_self)
  cases parts with
  | nil => exact ⟨c, rest, hc, by rw [List.map_singleton, List.intercalate_singleton, hchars]⟩
  | cons next parts =>
    refine ⟨c, rest ++ ['/'] ++ ['/'].intercalate ((next :: parts).map String.toList), hc, ?_⟩
    rw [List.map_cons, List.map_cons, List.intercalate_cons_cons, hchars]
    rfl

/-- The pieces of a root are empty. -/
lemma splitOn_root_append {root : String} (h : root = "" ∨ root = "/" ∨ root = "//")
    (s : List Char) : (root.toList ++ s).splitOn '/' =
      List.replicate root.toList.length [] ++ s.splitOn '/' := by
  have hslash : ∀ t : List Char, ('/' :: t).splitOn '/' = [] :: t.splitOn '/' :=
    fun t => List.splitOn_append_cons_self [] t
  rcases h with rfl | rfl | rfl
  · rfl
  · exact hslash s
  · show ('/' :: '/' :: s).splitOn '/' = [] :: [] :: s.splitOn '/'
    rw [hslash, hslash]

lemma rootOf_append {root : String} (h : root = "" ∨ root = "/" ∨ root = "//") {s : List Char}
    (hs : ∀ c ∈ s.head?, (c == '/') = false) : rootOf (root.toList ++ s) = root := by
  have hrun : root.toList.all (· == '/') = true := by
    rcases h with rfl | rfl | rfl <;> decide
  rw [rootOf, Text.takeWhile_run hrun hs]
  rcases h with rfl | rfl | rfl <;> rfl

/-- Joined parts are read back. -/
lemma filter_splitOn_intercalate {parts : List String} (h : ∀ part ∈ parts, IsPart part)
    (hne : parts ≠ []) :
    (((['/'].intercalate (parts.map String.toList)).splitOn '/').map String.ofList).filter
      (fun part => part != "" && part != ".") = parts := by
  have hpieces : (['/'].intercalate (parts.map String.toList)).splitOn '/' =
      parts.map String.toList := by
    refine List.splitOn_intercalate '/' (fun piece hpiece => ?_) (by simpa using hne)
    obtain ⟨part, hpart, rfl⟩ := List.mem_map.mp hpiece
    exact (h part hpart).slash_not_mem
  have hread : (parts.map String.toList).map String.ofList = parts := by
    rw [List.map_map]
    exact List.map_id'' (fun _ => String.ofList_toList) parts
  rw [hpieces, hread, List.filter_eq_self]
  intro part hpart
  rw [Bool.and_eq_true, bne_iff_ne, bne_iff_ne]
  exact ⟨(h part hpart).ne_empty, (h part hpart).ne_dot⟩

/-- **A path is read back from its text.** -/
theorem ofString_render {path : FilePath} (h : path.WellFormed) : ofString path.render = path := by
  obtain ⟨root, parts⟩ := path
  obtain ⟨hroot, hparts⟩ := h
  dsimp only at hroot hparts
  cases parts with
  | nil => rcases hroot with rfl | rfl | rfl <;> decide
  | cons part parts =>
    obtain ⟨c, rest, hc, hjoined⟩ :=
      exists_intercalate_eq_cons (hparts part List.mem_cons_self) parts
    have htext : (root ++ "/".intercalate (part :: parts)).toList =
        root.toList ++ ['/'].intercalate ((part :: parts).map String.toList) := by
      rw [String.toList_append, String.toList_intercalate]
      rfl
    have hrender : render ⟨root, part :: parts⟩ = root ++ "/".intercalate (part :: parts) := by
      rw [render, if_neg]
      rw [String.isEmpty_iff, ← String.toList_eq_nil_iff, htext, hjoined]
      exact List.append_ne_nil_of_right_ne_nil _ (List.cons_ne_nil c rest)
    rw [ofString, hrender, htext]
    congr 1
    · refine rootOf_append hroot ?_
      rw [hjoined]
      rintro _ ⟨⟩
      exact beq_eq_false_iff_ne.mpr hc
    · rw [splitOn_root_append hroot, List.map_append, List.filter_append,
        filter_splitOn_intercalate hparts (List.cons_ne_nil part parts), List.map_replicate,
        List.filter_replicate]
      rfl

/-- **The text of a path belongs to no other path.** -/
lemma render_inj {path path' : FilePath} (h : path.WellFormed) (h' : path'.WellFormed)
    (heq : path.render = path'.render) : path = path' := by
  rw [← ofString_render h, heq, ofString_render h']

end FilePath

/-! ## Names in a file system -/

namespace FileSystem

open FilePath

/-- **The names of a file system are parts of a path.** -/
structure WellNamed (fs : FileSystem) : Prop where
  mentioned : ∀ parts ∈ fs.mentioned, ∀ part ∈ parts, IsPart part
  workingDirectory : ∀ part ∈ fs.workingDirectory, IsPart part

/-- Nothing is named in the empty file system. -/
lemma wellNamed_empty : WellNamed {} where
  mentioned := fun _ h => absurd h List.not_mem_nil
  workingDirectory := fun _ h => absurd h List.not_mem_nil

lemma isPart_of_mem_stepTo {here : List String} {step : String}
    (h : ∀ part ∈ here, IsPart part) (hstep : IsPart step) :
    ∀ part ∈ stepTo here step, IsPart part := by
  rw [stepTo]
  split
  · exact fun part hpart => h part (List.dropLast_subset here hpart)
  · exact List.forall_mem_append.mpr ⟨h, List.forall_mem_singleton.mpr hstep⟩

lemma isPart_of_mem_places {here steps : List String} (h : ∀ part ∈ here, IsPart part)
    (hsteps : ∀ step ∈ steps, IsPart step) :
    ∀ place ∈ places here steps, ∀ part ∈ place, IsPart part := by
  induction steps generalizing here with
  | nil => exact List.forall_mem_singleton.mpr h
  | cons step steps ih =>
    obtain ⟨hstep, hsteps⟩ := List.forall_mem_cons.mp hsteps
    exact List.forall_mem_cons.mpr ⟨h, ih (isPart_of_mem_stepTo h hstep) hsteps⟩

lemma isPart_of_mem_foldl_stepTo {here steps : List String} (h : ∀ part ∈ here, IsPart part)
    (hsteps : ∀ step ∈ steps, IsPart step) : ∀ part ∈ steps.foldl stepTo here, IsPart part := by
  induction steps generalizing here with
  | nil => exact h
  | cons step steps ih =>
    obtain ⟨hstep, hsteps⟩ := List.forall_mem_cons.mp hsteps
    exact ih (isPart_of_mem_stepTo h hstep) hsteps

variable {fs : FileSystem} {path : FilePath}

lemma WellNamed.start (h : fs.WellNamed) (path : FilePath) :
    ∀ part ∈ fs.start path, IsPart part := by
  rw [FileSystem.start]
  split
  · exact fun part hpart => absurd hpart List.not_mem_nil
  · exact h.workingDirectory

/-- A new directory has a name like the others. -/
theorem WellNamed.makeDirectory (h : fs.WellNamed) (hpath : path.WellFormed) :
    (fs.makeDirectory path).WellNamed where
  mentioned := by
    intro parts hparts
    rcases List.mem_append.mp hparts with hfile | hdirectory
    · exact h.mentioned parts (List.mem_append_left _ hfile)
    · rcases List.mem_append.mp hdirectory with hnew | hold
      · exact isPart_of_mem_places (h.start path) hpath.parts parts hnew
      · exact h.mentioned parts (List.mem_append_right _ hold)
  workingDirectory := h.workingDirectory

/-- A new file has a name like the others, and so have the directories on the way to it. -/
theorem WellNamed.writeFile (h : fs.WellNamed) (hpath : path.WellFormed) (bytes : List UInt8) :
    (fs.writeFile path bytes).WellNamed := by
  have hdirectory : (fs.makeDirectory ⟨path.root, path.parts.dropLast⟩).WellNamed :=
    h.makeDirectory ⟨hpath.root, fun part hpart =>
      hpath.parts part (List.dropLast_subset path.parts hpart)⟩
  refine ⟨?_, h.workingDirectory⟩
  show ∀ parts ∈ path.parts.foldl stepTo (fs.start path) :: FileSystem.mentioned _, _
  exact List.forall_mem_cons.mpr
    ⟨isPart_of_mem_foldl_stepTo (h.start path) hpath.parts, hdirectory.mentioned⟩

/-! ## The files of a command -/

lemma WellNamed.entries (h : fs.WellNamed) : ∀ parts ∈ fs.entries, ∀ part ∈ parts, IsPart part := by
  intro parts hparts part hpart
  rw [FileSystem.entries, List.mem_eraseDups, List.mem_flatMap] at hparts
  obtain ⟨whole, hwhole, hleading⟩ := hparts
  obtain ⟨n, -, rfl⟩ := List.mem_map.mp hleading
  exact h.mentioned whole hwhole part (List.mem_of_mem_take hpart)

lemma WellNamed.partsBelow (h : fs.WellNamed) (base : List String) :
    ∀ parts ∈ fs.partsBelow base, ∀ part ∈ parts, IsPart part := by
  intro parts hparts part hpart
  rw [FileSystem.partsBelow, List.mem_mergeSort] at hparts
  obtain ⟨whole, hwhole, rfl⟩ := List.mem_map.mp hparts
  exact h.entries whole (List.mem_filter.mp hwhole).1 part (List.mem_of_mem_drop hpart)

lemma WellNamed.expand (h : fs.WellNamed) (hpath : path.WellFormed) :
    ∀ file ∈ fs.expand path, file.WellFormed := by
  intro file hfile
  rw [FileSystem.expand] at hfile
  split at hfile
  · next hdirectory =>
    have hentry := (List.mem_filter.mp hfile).1
    rw [entriesBelow] at hentry
    cases hresolve : fs.resolve path with
    | error reason =>
      rw [hresolve] at hentry
      exact absurd hentry List.not_mem_nil
    | ok base =>
      rw [hresolve] at hentry
      dsimp only at hentry
      rw [if_pos hdirectory] at hentry
      obtain ⟨parts, hparts, rfl⟩ := List.mem_map.mp hentry
      exact hpath.below (h.partsBelow base parts hparts)
  · rw [List.mem_singleton.mp hfile]
    exact hpath

/-- **The files of a command have well-formed paths.** -/
lemma wellFormed_of_mem_sources (h : fs.WellNamed) {paths : List FilePath}
    (hpaths : ∀ path ∈ paths, path.WellFormed) : ∀ file ∈ fs.sources paths, file.WellFormed := by
  intro file hfile
  obtain ⟨path, hpath, hfile⟩ := List.mem_flatMap.mp hfile
  exact h.expand (hpaths path hpath) file hfile

end FileSystem

end DirectiveLint
