import DirectiveLint.Linter.Engine
import DirectiveLint.Proofs.SourceOrder

/-!
# What a session remembers

An engine changes with every request: rules are added, and parsers are made on the way.  Of all
that, an answer depends on the rules alone.

**Parsers are never in the way.**  A well-kept engine has at most one parser of a language, and it
is the right one (`Engine.WellKept`).  Work on such an engine comes to what the linter alone would
come to, and leaves the rules and the parsers that were there as they are, whether or not it fails
(`Engine.Reads`).  So an engine answers as its linter does, request by request
(`Engine.WellKept.answer`) and session by session (`Engine.WellKept.session`).

**Rules are only ever added**, behind the others.  The first rule of a name is still the first one
then (`IsFirstRule.append`), and a request that adds none can be left out of a session without any
other answer changing (`Linter.session_kept`).

`session_answered_by_rules` says both of the engine that a configuration starts with.
-/

namespace DirectiveLint

/-! ## Requests that register nothing -/

lemma Linter.after_of_registered_none {linter : Linter} {request : Request}
    (h : request.registered? = none) : linter.after request = linter := by
  cases request with
  | register rule => cases h
  | _ => rfl

/-! ## Well-kept engines -/

namespace Engine

variable [Grammars]

/-- **A well-kept engine**: its parsers are those of their languages, one for each at most. -/
structure WellKept (engine : Engine) : Prop where
  fits : ∀ entry ∈ engine.parsers, entry.2 = entry.1.tree
  once : (engine.parsers.map Prod.fst).Nodup

/-- What work that registers nothing makes of an engine: it has the same rules, the parsers that
were there and perhaps some more, and is well kept. -/
structure Keeps (engine engine' : Engine) : Prop where
  linter : engine'.linter = engine.linter
  parsers : engine.parsers <:+ engine'.parsers
  wellKept : engine'.WellKept

lemma WellKept.keeps {engine : Engine} (h : engine.WellKept) : engine.Keeps engine :=
  ⟨rfl, List.suffix_rfl, h⟩

lemma Keeps.trans {engine engine' engine'' : Engine} (h : engine.Keeps engine')
    (h' : engine'.Keeps engine'') : engine.Keeps engine'' :=
  ⟨h'.linter.trans h.linter, h.parsers.trans h'.parsers, h'.wellKept⟩

lemma wellKept_ofConfig (config : RuleConfig) : (ofConfig config).WellKept :=
  ⟨fun _ hentry => absurd hentry List.not_mem_nil, List.nodup_nil⟩

variable {α β ε : Type}

/-- **Work that depends on the rules alone.**  On a well-kept engine it comes to what the linter of
the engine decides, and keeps the engine. -/
def Reads (action : StateM Engine α) (value : Linter → α) : Prop :=
  ∀ ⦃engine : Engine⦄, engine.WellKept →
    (action.run engine).1 = value engine.linter ∧ engine.Keeps (action.run engine).2

lemma reads_pure (value : α) : Reads (pure value) fun _ => value :=
  fun _ h => ⟨rfl, h.keeps⟩

lemma Reads.bind {action : StateM Engine α} {next : α → StateM Engine β} {value : Linter → α}
    (result : α → Linter → β) (h : Reads action value) (hnext : ∀ a, Reads (next a) (result a)) :
    Reads (action >>= next) fun linter => result (value linter) linter := by
  intro engine hengine
  obtain ⟨hvalue, hkeeps⟩ := h hengine
  obtain ⟨hresult, hkeeps'⟩ := hnext (action.run engine).1 hkeeps.wellKept
  refine ⟨?_, hkeeps.trans hkeeps'⟩
  -- `next` starts on an engine that may have more parsers, but has the same linter
  rw [hkeeps.linter] at hresult
  dsimp only
  rw [← hvalue]
  exact hresult

lemma Reads.map {action : StateM Engine α} {value : Linter → α} (h : Reads action value)
    (f : α → β) : Reads (do return f (← action)) fun linter => f (value linter) :=
  h.bind (fun a _ => f a) fun a => reads_pure (f a)

/-- Work goes on behind work that has not failed. -/
lemma Reads.attempt {work : Work ε α} {next : α → Work ε β} {value : Linter → Except ε α}
    (result : α → Linter → Except ε β) (h : Reads work.run value)
    (hnext : ∀ a, Reads (next a).run (result a)) :
    Reads (work >>= next).run fun linter => value linter >>= fun a => result a linter := by
  rw [ExceptT.run_bind]
  refine Reads.bind (fun outcome linter => outcome >>= fun a => result a linter) h ?_
  intro outcome
  cases outcome with
  | ok a => exact hnext a
  | error failure => exact reads_pure _

/-- What is settled without the engine. -/
lemma reads_settled (outcome : Except ε α) :
    Reads (liftM outcome : Work ε α).run fun _ => outcome :=
  reads_pure outcome

lemma Reads.lift {action : StateM Engine α} {value : Linter → α} (h : Reads action value) :
    Reads (liftM action : Work ε α).run fun linter => .ok (value linter) :=
  h.map Except.ok

/-! ## Parsing -/

lemma run_parserFor_of_some {engine : Engine} {language : Language} {kept : Parser}
    (h : engine.parsers.lookup language = some kept) :
    (parserFor language).run engine = (kept, engine) := by
  simp only [parserFor, StateT.run_bind, StateT.run_get, pure_bind, h]
  rfl

lemma run_parserFor_of_none {engine : Engine} {language : Language}
    (h : engine.parsers.lookup language = none) : (parserFor language).run engine =
      (language.tree, { engine with parsers := (language, language.tree) :: engine.parsers }) := by
  simp only [parserFor, StateT.run_bind, StateT.run_get, pure_bind, h]
  rfl

lemma WellKept.cons {engine : Engine} {language : Language} (h : engine.WellKept)
    (hlookup : engine.parsers.lookup language = none) :
    WellKept { engine with parsers := (language, language.tree) :: engine.parsers } := by
  refine ⟨List.forall_mem_cons.mpr ⟨rfl, h.fits⟩, List.nodup_cons.mpr ⟨?_, h.once⟩⟩
  intro hmem
  obtain ⟨entry, hentry, hlanguage⟩ := List.mem_map.mp hmem
  have hne := List.lookup_eq_none_iff.mp hlookup entry hentry
  rw [hlanguage, bne_self_eq_false] at hne
  cases hne

/-- **The parser of a language reads as the language does**, whether it is new or not. -/
lemma reads_parserFor (language : Language) :
    Reads (parserFor language) fun _ => language.tree := by
  intro engine h
  cases hlookup : engine.parsers.lookup language with
  | some kept =>
    rw [run_parserFor_of_some hlookup]
    obtain ⟨before, later, hparsers, -⟩ := List.lookup_eq_some_iff.mp hlookup
    have hmem : (language, kept) ∈ engine.parsers := by
      rw [hparsers]
      exact List.mem_append_right _ List.mem_cons_self
    exact ⟨h.fits _ hmem, h.keeps⟩
  | none =>
    rw [run_parserFor_of_none hlookup]
    exact ⟨rfl, rfl, List.suffix_cons _ _, h.cons hlookup⟩

lemma reads_parse (language : Language) (path : String) (source : List UInt8) :
    Reads (parse language path source) fun _ => SourceFile.ofSource language path source :=
  (reads_parserFor language).map fun parser => SourceFile.ofTree source path (parser source)

lemma reads_analyze (file : SourceFile) : Reads (analyze file) fun linter => linter.analyze file :=
  fun _ h => ⟨rfl, h.keeps⟩

/-! ## Loading and analysing -/

lemma reads_loadSource (language path : String) (source : List UInt8) :
    Reads (loadSource language path source).run fun _ =>
      Linter.loadSource language path source :=
  (reads_settled (Language.ofName language)).attempt
    (fun l _ => Except.ok (SourceFile.ofSource l path source))
    fun l => (reads_parse l path source).lift

lemma reads_load (fs : FileSystem) (path : FilePath) :
    Reads (load fs path).run fun _ => fs.load path := by
  have hload : fs.load path = do
      let language ← (Language.ofPath path).mapError LoadFailure.unsupported
      let source ← (fs.read path).mapError LoadFailure.unreadable
      return SourceFile.ofSource language path.render source := by
    rw [FileSystem.load]
    cases Language.ofPath path with
    | error fault => rfl
    | ok language => cases fs.read path <;> rfl
  rw [hload]
  refine (reads_settled _).attempt (fun language _ => do
    let source ← (fs.read path).mapError LoadFailure.unreadable
    return SourceFile.ofSource language path.render source) fun language => ?_
  exact (reads_settled _).attempt
    (fun source _ => Except.ok (SourceFile.ofSource language path.render source))
    fun source => (reads_parse language path.render source).lift

lemma reads_analyzeSource (language path : String) (source : List UInt8) :
    Reads (analyzeSource language path source).run fun linter =>
      linter.analyzeSource language path source :=
  (reads_loadSource language path source).attempt
    (fun file linter => Except.ok (linter.analyze file)) fun file => (reads_analyze file).lift

lemma reads_analyzePath (fs : FileSystem) (path : FilePath) :
    Reads (analyzePath fs path).run fun linter => linter.analyzePath fs path :=
  (reads_load fs path).attempt
    (fun file linter => Except.ok (linter.analyze file)) fun file => (reads_analyze file).lift

lemma reads_analyzeFiles (fs : FileSystem) (paths : List FilePath) :
    Reads (analyzeFiles fs paths).run fun linter => linter.analyzeFiles fs paths := by
  induction paths with
  | nil => exact reads_pure (Except.ok [])
  | cons path paths ih =>
    simp only [Linter.analyzeFiles_cons]
    refine (reads_analyzePath fs path).attempt
      (fun issues linter => do return issues ++ (← linter.analyzeFiles fs paths)) fun issues => ?_
    exact ih.attempt (fun rest _ => Except.ok (issues ++ rest)) fun rest =>
      reads_pure (Except.ok (issues ++ rest))

/-! ## Requests -/

/-- **A request that registers nothing is answered from the rules.** -/
lemma reads_step {request : Linter.Request} (h : request.registered? = none) :
    Reads (step request) fun linter => linter.answer request := by
  cases request with
  | register rule => cases h
  | loadSource language path source =>
    exact (reads_loadSource language path source).map (Linter.Answer.tell .file .unsupported)
  | analyzeSource language path source =>
    exact (reads_analyzeSource language path source).map (Linter.Answer.tell .issues .unsupported)
  | analyzeFiles fs paths =>
    exact (reads_analyzeFiles fs paths).map (Linter.Answer.tell .issues .failed)
  | _ => exact fun _ h => ⟨rfl, h.keeps⟩

variable {engine : Engine}

/-- **An engine answers as its linter does**, has the linter of before or the one with the new rule
behind the request, keeps its parsers and is well kept again. -/
lemma WellKept.answer (h : engine.WellKept) (request : Linter.Request) :
    engine.answer request = engine.linter.answer request ∧
      (engine.after request).linter = engine.linter.after request ∧
      engine.parsers <:+ (engine.after request).parsers ∧ (engine.after request).WellKept := by
  cases hadded : request.registered? with
  | some rule =>
    cases request with
    | register added => exact ⟨rfl, rfl, List.suffix_rfl, h.fits, h.once⟩
    | _ => cases hadded
  | none =>
    obtain ⟨hanswer, hkeeps⟩ := reads_step hadded h
    rw [Linter.after_of_registered_none hadded]
    exact ⟨hanswer, hkeeps.linter, hkeeps.parsers, hkeeps.wellKept⟩

/-- **So it does in a whole session.** -/
lemma WellKept.session (h : engine.WellKept) (requests : List Linter.Request) :
    engine.session requests = engine.linter.session requests ∧
      (engine.afterAll requests).linter = engine.linter.afterAll requests ∧
      (engine.afterAll requests).WellKept := by
  induction requests generalizing engine with
  | nil => exact ⟨rfl, rfl, h⟩
  | cons request requests ih =>
    obtain ⟨hanswer, hlinter, -, hwellKept⟩ := h.answer request
    obtain ⟨hanswers, hlinters, hwellKept⟩ := ih hwellKept
    rw [session_cons, afterAll_cons, hanswer, hanswers, hlinters, hlinter]
    exact ⟨rfl, rfl, hwellKept⟩

/-- **The rules of an engine** are the one about directives and those that were registered. -/
lemma rules_afterAll (config : RuleConfig) (requests : List Linter.Request) :
    ((ofConfig config).afterAll requests).linter.rules =
      Rule.directive config :: requests.filterMap Linter.Request.registered? := by
  rw [((wellKept_ofConfig config).session requests).2.1]
  exact Linter.rules_afterAll _ requests

end Engine

/-! ## Rules that are added -/

/-- **The first rule of a name**, and how many rules are in front of it. -/
def IsFirstRule (rules : List Rule) (name : String) (i : Nat) (rule : Rule) : Prop :=
  ∃ before behind, rules = before ++ rule :: behind ∧ before.length = i ∧ rule.name = name ∧
    ∀ earlier ∈ before, earlier.name ≠ name

/-- **It stays the first one when rules are added.** -/
lemma IsFirstRule.append {rules : List Rule} {name : String} {i : Nat} {rule : Rule}
    (h : IsFirstRule rules name i rule) (added : List Rule) :
    IsFirstRule (rules ++ added) name i rule := by
  obtain ⟨before, behind, rfl, hi, hname, hbefore⟩ := h
  refine ⟨before, behind ++ added, ?_, hi, hname, hbefore⟩
  rw [List.append_assoc, List.cons_append]

namespace Linter

variable {linter : Linter} {name : String}

lemma rule?_eq_none_iff :
    linter.rule? name = none ↔ ∀ rule ∈ linter.rules, rule.name ≠ name := by
  simp [rule?]

lemma rule?_eq_some_iff {rule : Rule} :
    linter.rule? name = some rule ↔ ∃ i, IsFirstRule linter.rules name i rule := by
  constructor
  · intro h
    obtain ⟨hname, before, behind, hrules, hbefore⟩ := List.find?_eq_some_iff_append.mp h
    exact ⟨before.length, before, behind, hrules, rfl, by simpa using hname, by simpa using hbefore⟩
  · rintro ⟨i, before, behind, hrules, -, hname, hbefore⟩
    refine List.find?_eq_some_iff_append.mpr ⟨by simpa using hname, before, behind, hrules, ?_⟩
    simpa using hbefore

/-- The place of a rule that is the first of its name. -/
lemma index?_of_isFirstRule {i : Nat} {rule : Rule} (h : IsFirstRule linter.rules name i rule) :
    linter.index? name = some i := by
  obtain ⟨before, behind, hrules, rfl, hname, hbefore⟩ := h
  have hnone : before.findIdx? (·.name == name) = none := by
    simpa using hbefore
  rw [index?, hrules, List.findIdx?_append, hnone, List.findIdx?_cons, hname, beq_self_eq_true]
  simp

variable [Grammars]

/-- **What is asked for by name is the first rule of that name**, and nothing if there is none. -/
lemma exists_answer_rule (linter : Linter) (name : String) :
    ∃ found, linter.answer (.rule name) = .rule found ∧
      (found = none ↔ ∀ rule ∈ linter.rules, rule.name ≠ name) ∧
      ∀ i rule, found = some (i, rule) ↔ IsFirstRule linter.rules name i rule := by
  cases hrule : linter.rule? name with
  | none =>
    refine ⟨none, ?_, iff_of_true rfl (rule?_eq_none_iff.mp hrule), fun i rule => ?_⟩
    · rw [answer, hrule]
      cases linter.index? name <;> rfl
    · refine iff_of_false (Option.some_ne_none _).symm fun hfirst => ?_
      rw [rule?_eq_some_iff.mpr ⟨i, hfirst⟩] at hrule
      cases hrule
  | some rule =>
    obtain ⟨i, hfirst⟩ := rule?_eq_some_iff.mp hrule
    have hplace := index?_of_isFirstRule hfirst
    refine ⟨some (i, rule), ?_, iff_of_false (Option.some_ne_none _) ?_, fun j other => ?_⟩
    · rw [answer, hrule, hplace]
      rfl
    · rw [← rule?_eq_none_iff, hrule]
      exact Option.some_ne_none rule
    · constructor
      · rintro ⟨⟩
        exact hfirst
      · intro hother
        rw [rule?_eq_some_iff.mpr ⟨j, hother⟩] at hrule
        rw [index?_of_isFirstRule hother] at hplace
        rw [Option.some.inj hrule, Option.some.inj hplace]

/-- **A rule that has been found by its name is found for good.** -/
lemma answer_rule_of_append {linter' : Linter} {found : Option (Nat × Rule)}
    (h : linter.answer (.rule name) = .rule found) (hfound : found ≠ none) (added : List Rule)
    (hrules : linter'.rules = linter.rules ++ added) :
    linter'.answer (.rule name) = .rule found := by
  obtain ⟨⟨i, rule⟩, rfl⟩ := Option.ne_none_iff_exists'.mp hfound
  obtain ⟨earlier, hearlier, -, hfirst⟩ := exists_answer_rule linter name
  obtain ⟨later, hlater, -, hfirst'⟩ := exists_answer_rule linter' name
  have hrule : IsFirstRule linter.rules name i rule :=
    (hfirst i rule).mp (Answer.rule.inj (hearlier.symm.trans h))
  have hrule' : IsFirstRule linter'.rules name i rule := by
    rw [hrules]
    exact hrule.append added
  rw [hlater, (hfirst' i rule).mpr hrule']

end Linter

/-! ## Requests that are left out -/

section

variable {α : Type}

/-- The entries of a list that are kept. -/
def kept (keep : List Bool) (entries : List α) : List α :=
  ((keep.zip entries).filter (·.1)).map (·.2)

lemma kept_nil (keep : List Bool) : kept keep ([] : List α) = [] := by
  rw [kept, List.zip_nil_right]
  rfl

lemma kept_cons_true (keep : List Bool) (entry : α) (entries : List α) :
    kept (true :: keep) (entry :: entries) = entry :: kept keep entries := rfl

lemma kept_cons_false (keep : List Bool) (entry : α) (entries : List α) :
    kept (false :: keep) (entry :: entries) = kept keep entries := rfl

end

/-- **Leaving out requests that register nothing** leaves out their answers and changes no other. -/
lemma Linter.session_kept [Grammars] (linter : Linter) {keep : List Bool}
    {requests : List Request}
    (h : ∀ step ∈ keep.zip requests, step.1 = false → step.2.registered? = none) :
    linter.session (kept keep requests) = kept keep (linter.session requests) := by
  induction requests generalizing linter keep with
  | nil => rw [session, kept_nil, kept_nil, session]
  | cons request requests ih =>
    cases keep with
    | nil => rfl
    | cons keeps keep =>
      rw [List.zip_cons_cons, List.forall_mem_cons] at h
      rw [session]
      cases keeps with
      | true => rw [kept_cons_true, kept_cons_true, session, ih _ h.2]
      | false =>
        -- the linter behind the request that is left out is the one in front of it
        rw [kept_cons_false, kept_cons_false, ih _ h.2, after_of_registered_none (h.1 rfl)]

/-! ## Sessions -/

/-- **What an engine answers is up to its rules.**  Whatever an engine has been asked, its rules are
the one about directives and then those that were registered, and it is well kept.  The next answer
of the session is that of the engine as it is then.

* An analysis is what the rules find in the file, one rule after the other; a source in no known
  language and a file that cannot be loaded are answered by their failure instead.
* A name is answered by the first rule of that name, and from then on always by this one.
* Leaving out requests that register nothing changes none of the answers to the others. -/
theorem session_answered_by_rules [Grammars] (config : RuleConfig) (before : List Linter.Request) :
    let start := Engine.ofConfig config
    let engine := start.afterAll before
    let rules := Rule.directive config :: before.filterMap Linter.Request.registered?
    engine.linter.rules = rules ∧ engine.WellKept ∧
      (∀ request, engine.parsers <:+ (engine.after request).parsers) ∧
      (∀ request later, (start.session (before ++ request :: later))[before.length]? =
        some (engine.answer request)) ∧
      (∀ file, engine.answer (.analyze file) =
        .issues (rules.flatMap fun rule => rule.check file)) ∧
      (∀ language path source, engine.answer (.analyzeSource language path source) =
        .tell (fun file => .issues (rules.flatMap fun rule => rule.check file)) .unsupported
          (Linter.loadSource language path source)) ∧
      (∀ fs paths, engine.answer (.analyzeFiles fs paths) =
        .tell (fun files => .issues
            (files.flatMap fun file => rules.flatMap fun rule => rule.check file)) .failed
          (paths.mapM fs.load)) ∧
      (∀ name, ∃ found, engine.answer (.rule name) = .rule found ∧
        (found = none ↔ ∀ rule ∈ rules, rule.name ≠ name) ∧
        (∀ i rule, found = some (i, rule) ↔ IsFirstRule rules name i rule) ∧
        (found ≠ none → ∀ later,
          (start.afterAll (before ++ later)).answer (.rule name) = .rule found)) ∧
      (∀ keep : List Bool,
        (∀ step ∈ keep.zip before, step.1 = false → step.2.registered? = none) →
        start.session (kept keep before) = kept keep (start.session before)) := by
  dsimp only
  have hstart := Engine.wellKept_ofConfig config
  obtain ⟨hanswers, hlinter, hwellKept⟩ := hstart.session before
  have hanswer := fun request => (hwellKept.answer request).1
  rw [← Engine.rules_afterAll config before]
  refine ⟨rfl, hwellKept, fun request => (hwellKept.answer request).2.2.1, ?next, ?analyze, ?source,
    ?files, ?name, ?kept⟩
  case next =>
    intro request later
    rw [(hstart.session _).1, Linter.session_append, hanswer, hlinter,
      List.getElem?_append_right (Nat.le_of_eq (Linter.length_session _ before)),
      Linter.length_session, Nat.sub_self]
    rfl
  case analyze =>
    intro file
    exact hanswer (.analyze file)
  case source =>
    intro language path source
    rw [hanswer, Linter.answer, Linter.analyzeSource, Linter.Answer.tell_map]
    rfl
  case files =>
    intro fs paths
    rw [hanswer, Linter.answer, Linter.analyzeFiles_eq, Linter.Answer.tell_map]
    rfl
  case name =>
    intro name
    obtain ⟨found, hfound, hnone, hsome⟩ := Linter.exists_answer_rule
      ((Engine.ofConfig config).afterAll before).linter name
    refine ⟨found, (hanswer _).trans hfound, hnone, hsome, fun hne later => ?_⟩
    rw [((hstart.session _).2.2.answer _).1]
    refine Linter.answer_rule_of_append hfound hne
      (later.filterMap Linter.Request.registered?) ?_
    rw [Engine.rules_afterAll, Engine.rules_afterAll, List.filterMap_append, List.cons_append]
  case kept =>
    intro keep hkeep
    rw [(hstart.session _).1, hanswers]
    exact Linter.session_kept _ hkeep

/-- A session that runs into a language that is not known and a file that is not there, and adds two
rules of one name. -/
def troubledSession : List Linter.Request :=
  [.analyzeSource "rust" "a.rs" nested, .register (Rule.forbidding "b" "//nolint:a"),
    .analyzeFiles {} [.ofString "missing.go"], .register (Rule.forbidding "b" "//nolint:b"),
    .runRule "b" twoDirectives]

/-- Without what has failed in it, the session has the other answers.  The name stands for the rule
that was added first, and an analysis hears both. -/
theorem troubledSession_answered :
    let start := Engine.ofConfig {}
    let keep := [false, true, false, true, true]
    (∀ step ∈ keep.zip troubledSession, step.1 = false → step.2.registered? = none) ∧
      start.session (kept keep troubledSession) = kept keep (start.session troubledSession) ∧
      (start.afterAll troubledSession).answer (.rule "b") =
        .rule (some (1, Rule.forbidding "b" "//nolint:a")) ∧
      ∃ issues, (start.session (troubledSession ++ [.analyze twoDirectives]))[5]? =
          some (.issues issues) ∧
        issues.map (·.position.offset) = [0, 11, 0, 11] := by
  have hkeep : ∀ step ∈ [false, true, false, true, true].zip troubledSession,
      step.1 = false → step.2.registered? = none := by
    decide
  obtain ⟨-, -, -, hnext, hanalyze, -, -, hname, hkept⟩ :=
    session_answered_by_rules {} troubledSession
  refine ⟨hkeep, hkept _ hkeep, ?_, _, (hnext (.analyze twoDirectives) []).trans
    (congrArg some (hanalyze twoDirectives)), by decide +kernel⟩
  obtain ⟨found, hfound, -, hfirst, -⟩ := hname "b"
  rw [hfound, (hfirst 1 _).mpr ⟨[Rule.directive {}], [Rule.forbidding "b" "//nolint:b"], rfl, rfl,
    rfl, by decide⟩]

end DirectiveLint
