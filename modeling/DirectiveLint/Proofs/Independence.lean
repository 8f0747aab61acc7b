import DirectiveLint.Review
import Mathlib.Logic.Basic
import Mathlib.Tactic.Lemma

/-!
# Checks are independent

Every finding is made by one check, or by none: `Finding.check?`.  Checks are asked at three stages
of a review, between the tests that end it early, and each of them is asked for its own findings
only.  So switching checks off takes their findings out of the review and leaves the rest of it as
it is.

* `spacing_eq_filter`, `Directive.findings_eq_filter`, `findings_eq_filter` — what the checks that
  are on leave of the findings under all checks, stage by stage.
* `checks_are_independent` — **a review is the review under all checks without the issues of the
  checks that are off**, and a check that is switched changes no issue of any other.
-/

namespace DirectiveLint

/-- The check that makes a finding; none for what is found whichever checks are on. -/
def Finding.check? : Finding → Option Check
  | .notMachineReadable => some .machineReadable
  | .notSpecific => some .specific
  | .unusedCandidate _ => some .unused
  | .noExplanation _ => some .explanation
  | .extraSpace | .malformed => none

namespace Checks

/-- All four checks. -/
def every : Checks :=
  ⟨true, true, true, true⟩

/-- The finding does not belong to a check that is off. -/
def keeps (checks : Checks) (finding : Finding) : Bool :=
  finding.check?.all checks.has

variable (checks : Checks)

@[simp] lemma keeps_extraSpace : checks.keeps .extraSpace = true := rfl

@[simp] lemma keeps_malformed : checks.keeps .malformed = true := rfl

@[simp] lemma keeps_notMachineReadable :
    checks.keeps .notMachineReadable = checks.machineReadable := rfl

@[simp] lemma keeps_notSpecific : checks.keeps .notSpecific = checks.specific := rfl

@[simp] lemma keeps_unusedCandidate (linter : String) :
    checks.keeps (.unusedCandidate linter) = checks.unused := rfl

@[simp] lemma keeps_noExplanation (bare : String) :
    checks.keeps (.noExplanation bare) = checks.explanation := rfl

end Checks

section Stages

variable (checks : Checks) (exempt : List String) (ruleName : String)

/-- A finding under a condition is kept if its check is on as well. -/
lemma ite_eq_filter_keeps {p q : Prop} [Decidable p] [Decidable q] {finding : Finding}
    (h : q ↔ checks.keeps finding = true ∧ p) :
    (if q then [finding] else []) = (if p then [finding] else []).filter checks.keeps := by
  by_cases hp : p
  · rw [if_pos hp, List.filter_cons, List.filter_nil]
    exact if_congr (h.trans (and_iff_left hp)) rfl rfl
  · rw [if_neg hp, if_neg fun hq => hp (h.mp hq).2, List.filter_nil]

/-- The finding about too many blanks is made whichever checks are on. -/
lemma spacing_eq_filter (text : List Char) :
    spacing ⟨checks, exempt, ruleName⟩ text =
      (spacing ⟨.every, exempt, ruleName⟩ text).filter checks.keeps := by
  rw [spacing, spacing, List.filter_append]
  exact congrArg₂ (· ++ ·)
    (ite_eq_filter_keeps checks (by rw [Checks.keeps_extraSpace, eq_self_iff_true, true_and]))
    (ite_eq_filter_keeps checks (by
      rw [Bool.and_eq_true, Checks.keeps_notMachineReadable, Checks.every, Bool.true_and]))

/-- All candidates for a later pass belong to one check. -/
lemma candidates_eq_filter (linters : List String) :
    (if checks.unused then linters.map Finding.unusedCandidate else []) =
      (linters.map Finding.unusedCandidate).filter checks.keeps := by
  have hkeeps : checks.keeps ∘ Finding.unusedCandidate = fun _ => checks.unused := rfl
  rw [List.filter_map, hkeeps]
  cases checks.unused with
  | false => rw [List.filter_eq_nil_iff.mpr (by simp)]; rfl
  | true => rw [List.filter_eq_self.mpr (by simp)]; rfl

/-- Whether an explanation is needed does not hang on the checks. -/
lemma Directive.findings_eq_filter (d : Directive) :
    d.findings ⟨checks, exempt, ruleName⟩ =
      (d.findings ⟨.every, exempt, ruleName⟩).filter checks.keeps := by
  have hneeds : d.needsExplanation ⟨checks, exempt, ruleName⟩ =
      d.needsExplanation ⟨.every, exempt, ruleName⟩ := rfl
  rw [findings, findings, List.filter_append, List.filter_append, hneeds]
  refine congrArg₂ (· ++ ·) (congrArg₂ (· ++ ·) ?specific ?unused) ?explanation
  case specific =>
    exact ite_eq_filter_keeps checks (by
      rw [Bool.and_eq_true, Checks.keeps_notSpecific, Checks.every, Bool.true_and])
  case unused => exact candidates_eq_filter checks d.candidates
  case explanation =>
    exact ite_eq_filter_keeps checks (by
      rw [Bool.and_assoc, Bool.and_eq_true, Checks.keeps_noExplanation, Checks.every,
        Bool.and_assoc, Bool.true_and])

/-- **The checks that are on keep their findings**, and those that no check makes stay as well.
Whether a comment is reviewed at all, and whether it follows the grammar, is no matter of checks. -/
lemma findings_eq_filter (comment : Comment) :
    findings ⟨checks, exempt, ruleName⟩ comment =
      (findings ⟨.every, exempt, ruleName⟩ comment).filter checks.keeps := by
  have hexempt : isSelfExempt ⟨checks, exempt, ruleName⟩ comment =
      isSelfExempt ⟨.every, exempt, ruleName⟩ comment := rfl
  rw [findings, findings, hexempt]
  split
  · rfl
  · rw [List.filter_append, ← spacing_eq_filter]
    congr 1
    cases Directive.read comment with
    | error fault => rfl
    | ok d => exact d.findings_eq_filter checks exempt ruleName

lemma review_eq_filter (comment : Comment) :
    review ⟨checks, exempt, ruleName⟩ comment =
      (review ⟨.every, exempt, ruleName⟩ comment).filter fun issue =>
        checks.keeps issue.finding := by
  rw [review, findings_eq_filter, review, List.filter_map]
  rfl

end Stages

/-- What a check does not make is kept alike by checks that differ in this one only. -/
lemma Checks.keeps_congr {checks checks' : Checks} {check : Check}
    (h : ∀ other, other ≠ check → checks.has other = checks'.has other) {finding : Finding}
    (hfinding : finding.check? ≠ some check) : checks.keeps finding = checks'.keeps finding := by
  rw [keeps, keeps]
  cases hcheck : finding.check? with
  | none => rfl
  | some other => exact h other fun heq => hfinding (hcheck.trans (congrArg some heq))

/-- **Checks are independent.**  What is reported under some of the checks is what is reported under
all of them, issue by issue and in order, without the issues of the checks that are off.  So a check
that is switched leaves all issues but its own as they are. -/
theorem checks_are_independent (checks : Checks) (exempt : List String) (ruleName : String)
    (comment : Comment) :
    review ⟨checks, exempt, ruleName⟩ comment =
        (review ⟨.every, exempt, ruleName⟩ comment).filter (fun issue =>
          match issue.finding with
          | .extraSpace | .malformed => true
          | .notMachineReadable => checks.has .machineReadable
          | .notSpecific => checks.has .specific
          | .unusedCandidate _ => checks.has .unused
          | .noExplanation _ => checks.has .explanation) ∧
      ∀ (check : Check) (checks' : Checks),
        (∀ other, other ≠ check → checks.has other = checks'.has other) →
        (review ⟨checks, exempt, ruleName⟩ comment).filter
            (fun issue => issue.finding.check? ≠ some check) =
          (review ⟨checks', exempt, ruleName⟩ comment).filter
            (fun issue => issue.finding.check? ≠ some check) := by
  constructor
  · rw [review_eq_filter]
    refine List.filter_congr fun issue _ => ?_
    cases issue.finding <;> rfl
  · intro check checks' h
    rw [review_eq_filter checks, review_eq_filter checks', List.filter_filter, List.filter_filter]
    refine List.filter_congr fun issue _ => ?_
    by_cases hcheck : issue.finding.check? = some check
    · simp [hcheck]
    · rw [Checks.keeps_congr h hcheck]

/-- Under the standard checks four things are wrong with a comment.  The check that is off by
default adds a fifth one in front of the last, and the other four stay what they are. -/
theorem unused_check_adds_one_issue :
    let comment : Comment := { text := "//  nolint" }
    (findings {} comment =
        [.extraSpace, .notMachineReadable, .notSpecific, .noExplanation "//  nolint"] ∧
      findings ⟨.every, [], "nolintlint"⟩ comment = [.extraSpace, .notMachineReadable, .notSpecific,
        .unusedCandidate "", .noExplanation "//  nolint"]) ∧
      (∀ other, other ≠ Check.unused → Checks.standard.has other = Checks.every.has other) ∧
      (review ⟨.standard, [], "nolintlint"⟩ comment).filter
          (fun issue => issue.finding.check? ≠ some .unused) =
        (review ⟨.every, [], "nolintlint"⟩ comment).filter
          (fun issue => issue.finding.check? ≠ some .unused) := by
  have hchecks : ∀ other, other ≠ Check.unused →
      Checks.standard.has other = Checks.every.has other := by
    intro other hother
    cases other <;> first | rfl | exact absurd rfl hother
  exact ⟨⟨by decide, by decide⟩, hchecks,
    (checks_are_independent .standard [] "nolintlint" _).2 .unused .every hchecks⟩

end DirectiveLint
