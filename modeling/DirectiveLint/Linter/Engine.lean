import DirectiveLint.Linter.Session

/-!
# Engines

An engine is a linter at work.  It keeps two things that change in the course of a session: the
rules of its linter, and the parsers that it has made so far.  The parser of a language is made when
the first source of that language comes up, and kept for the others.

* `Engine.parserFor` — the parser of a language, made if there is none yet.
* `Engine.loadSource`, `Engine.load` — the comment groups of a source, and of a file.
* `Engine.analyzeSource`, `Engine.analyzeFiles` — their issues.
* `Engine.step` — one request of a session.
* `Engine.session`, `Engine.afterAll` — the answers to a series of requests, and the engine behind
  them.

**What a failure leaves behind.**  Work that fails is not undone (`Engine.Work`): of several files
those in front of the one that fails have been parsed, and their parsers stay.  A language that is
not there and a file that cannot be read are noticed before there is any need for a parser.
-/

namespace DirectiveLint

structure Engine where
  linter : Linter
  /-- The parsers made so far, the latest first. -/
  parsers : List (Language × Parser) := []

namespace Engine

def ofConfig (config : RuleConfig) : Engine where
  linter := .ofConfig config

/-- Work that can fail, which leaves the engine as it has become up to the failure. -/
abbrev Work (ε : Type) := ExceptT ε (StateM Engine)

variable [Grammars]

/-- **The parser of a language**, made if there is none yet. -/
def parserFor (language : Language) : StateM Engine Parser := do
  let engine ← get
  match engine.parsers.lookup language with
  | some parser => return parser
  | none =>
    set { engine with parsers := (language, language.tree) :: engine.parsers }
    return language.tree

def parse (language : Language) (path : String) (source : List UInt8) :
    StateM Engine SourceFile := do
  let parser ← parserFor language
  return SourceFile.ofTree source path (parser source)

def loadSource (language path : String) (source : List UInt8) :
    Work Language.Unsupported SourceFile := do
  let language ← Language.ofName language
  parse language path source

/-- The comment groups of one file.  Its language is settled before it is opened, and it is read
before it is parsed. -/
def load (fs : FileSystem) (path : FilePath) : Work LoadFailure SourceFile := do
  let language ← (Language.ofPath path).mapError LoadFailure.unsupported
  let source ← (fs.read path).mapError LoadFailure.unreadable
  parse language path.render source

def analyze (file : SourceFile) : StateM Engine (List Issue) := do
  let engine ← get
  return engine.linter.analyze file

def analyzeSource (language path : String) (source : List UInt8) :
    Work Language.Unsupported (List Issue) := do
  let file ← loadSource language path source
  analyze file

def analyzePath (fs : FileSystem) (path : FilePath) : Work LoadFailure (List Issue) := do
  let file ← load fs path
  analyze file

/-- The issues of several files in order.  The first file that fails ends the work. -/
def analyzeFiles (fs : FileSystem) : List FilePath → Work LoadFailure (List Issue)
  | [] => return []
  | path :: paths => do
    let issues ← analyzePath fs path
    let rest ← analyzeFiles fs paths
    return issues ++ rest

/-! ## Sessions -/

/-- **One request.**  Those that parse nothing are left to the linter. -/
def step : Linter.Request → StateM Engine Linter.Answer
  | .loadSource language path source => do
    return .tell .file .unsupported (← (loadSource language path source).run)
  | .analyzeSource language path source => do
    return .tell .issues .unsupported (← (analyzeSource language path source).run)
  | .analyzeFiles fs paths => do
    return .tell .issues .failed (← (analyzeFiles fs paths).run)
  | request => modifyGet fun engine =>
    (engine.linter.answer request, { engine with linter := engine.linter.after request })

def answer (engine : Engine) (request : Linter.Request) : Linter.Answer :=
  ((step request).run engine).1

/-- The engine behind a request. -/
def after (engine : Engine) (request : Linter.Request) : Engine :=
  ((step request).run engine).2

/-- **The answers to a series of requests.** -/
def session (engine : Engine) (requests : List Linter.Request) : List Linter.Answer :=
  ((requests.mapM step).run engine).1

/-- The engine behind a series of requests. -/
def afterAll (engine : Engine) (requests : List Linter.Request) : Engine :=
  ((requests.mapM step).run engine).2

theorem session_cons (engine : Engine) (request : Linter.Request)
    (requests : List Linter.Request) : engine.session (request :: requests) =
      engine.answer request :: (engine.after request).session requests := by
  rw [session, List.mapM_cons]
  rfl

theorem afterAll_cons (engine : Engine) (request : Linter.Request)
    (requests : List Linter.Request) :
    engine.afterAll (request :: requests) = (engine.after request).afterAll requests := by
  rw [afterAll, List.mapM_cons]
  rfl

end Engine

end DirectiveLint
