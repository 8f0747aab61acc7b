import DirectiveLint.Linter

/-!
# Sessions

A session asks one linter a series of questions and registers rules in between.  Only registering
changes the linter; every other request is answered from the rules registered so far.

* `Linter.Request` and `Linter.Answer` — what can be asked, and what comes back.
* `Linter.answer` — the answer to one request, given after it has taken effect.
* `Linter.after` — the linter behind a request.
* `Linter.session` — the answers to a series of requests.

A request that fails is answered by its failure, and the session goes on.
-/

namespace DirectiveLint.Linter

inductive Request where
  | register (rule : Rule)
  | rule (name : String)
  /-- A run of one rule over several things, of which `none` is no file. -/
  | run (name : String) (nodes : List (Option SourceFile))
  | analyze (file : SourceFile)
  | loadSource (language path : String) (source : List UInt8)
  | analyzeSource (language path : String) (source : List UInt8)
  | analyzeFiles (fs : FileSystem) (paths : List FilePath)

/-- A run of one rule over one file. -/
def Request.runRule (name : String) (file : SourceFile) : Request :=
  .run name [some file]

inductive Answer where
  | names (names : List String)
  /-- A rule with its place among all rules, if there is one. -/
  | rule (found : Option (Nat × Rule))
  | issues (issues : List Issue)
  | file (file : SourceFile)
  | noSuchRule (name : String)
  | unsupported (fault : Language.Unsupported)
  | failed (failure : LoadFailure)

/-- The answer that tells an outcome. -/
def Answer.tell {α ε : Type} (given : α → Answer) (failed : ε → Answer) : Except ε α → Answer
  | .ok a => given a
  | .error failure => failed failure

theorem Answer.tell_map {α β ε : Type} (given : β → Answer) (failed : ε → Answer) (f : α → β)
    (outcome : Except ε α) :
    tell given failed (outcome.map f) = tell (fun a => given (f a)) failed outcome := by
  cases outcome <;> rfl

/-- The linter behind a request. -/
def after (linter : Linter) : Request → Linter
  | .register rule => linter.register rule
  | _ => linter

variable [Grammars]

/-- The answer to a request, given after it has taken effect. -/
def answer (linter : Linter) : Request → Answer
  | .register rule => .names (linter.register rule).names
  | .rule name => .rule do return (← linter.index? name, ← linter.rule? name)
  | .run name nodes =>
    match linter.rule? name with
    | none => .noSuchRule name
    | some rule => .issues (rule.run nodes)
  | .analyze file => .issues (linter.analyze file)
  | .loadSource language path source =>
    .tell .file .unsupported (Linter.loadSource language path source)
  | .analyzeSource language path source =>
    .tell .issues .unsupported (linter.analyzeSource language path source)
  | .analyzeFiles fs paths => .tell .issues .failed (linter.analyzeFiles fs paths)

/-- **The answers to a series of requests.** -/
def session (linter : Linter) : List Request → List Answer
  | [] => []
  | request :: requests => linter.answer request :: (linter.after request).session requests

theorem length_session (linter : Linter) (requests : List Request) :
    (linter.session requests).length = requests.length := by
  induction requests generalizing linter with
  | nil => rfl
  | cons request requests ih => simp [session, ih]

def afterAll (linter : Linter) (requests : List Request) : Linter :=
  requests.foldl after linter

theorem session_append (linter : Linter) (xs ys : List Request) :
    linter.session (xs ++ ys) = linter.session xs ++ (linter.afterAll xs).session ys := by
  induction xs generalizing linter with
  | nil => rfl
  | cons x xs ih => simp [session, afterAll, ih]

end DirectiveLint.Linter
