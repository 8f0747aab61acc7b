/-!
# Control sequences

Comments and paths may hold the sequences by which a terminal is told to change its colours or to
move its cursor.  Reports go to files and pipes, so these sequences are left out of what is printed.
A sequence is the escape character, an opening bracket, parameters and a letter:

    ESC [ (digit | ; | ?)* letter

* `ControlSequence.span` — how many characters the sequence that starts here takes.
* `plain` — a text without its sequences.
* `printed` — lines as they are printed.

**One reading.**  A text is read once, from its front on.  What stands on both sides of a sequence
moves together when the sequence is left out, and may then look like another one; it stays.

A text without the escape character stays as it is (`plain_append_of_not_mem`).
-/

namespace DirectiveLint.Text

namespace ControlSequence

/-- The character that announces a sequence. -/
def escape : Char := '\x1b'

def isParameter (c : Char) : Bool :=
  c.isDigit || c == ';' || c == '?'

/-- **The length of the sequence that starts here**, zero if none does. -/
def span : List Char → Nat
  | '\x1b' :: '[' :: rest =>
    match rest.dropWhile isParameter with
    | [] => 0
    | c :: _ => if c.isAlpha then (rest.takeWhile isParameter).length + 3 else 0
  | _ => 0

theorem span_cons_of_ne {c : Char} (h : c ≠ escape) (rest : List Char) : span (c :: rest) = 0 := by
  unfold span
  split
  · next hc => exact absurd (List.cons.inj hc).1 h
  · rfl

theorem isParameter_eq_false_of_isAlpha {c : Char} (h : c.isAlpha = true) :
    isParameter c = false := by
  have hs : c ≠ ';' := by
    rintro rfl
    exact absurd h (by decide)
  have hq : c ≠ '?' := by
    rintro rfl
    exact absurd h (by decide)
  delta Char.isAlpha Char.isUpper Char.isLower at h
  simp only [Bool.or_eq_true, Bool.and_eq_true,
    decide_eq_true_eq, ge_iff_le, UInt32.le_iff_toNat_le] at h
  simp only [isParameter, Char.isDigit, Bool.or_eq_false_iff, beq_eq_false_iff_ne, ne_eq, hs, hq,
    not_false_eq_true, and_true, Bool.and_eq_false_iff, decide_eq_false_iff_not, ge_iff_le,
    UInt32.le_iff_toNat_le]
  simp at h ⊢
  omega

/-- The length of a sequence: its parameters and three characters around them. -/
theorem span_sequence {parameters : List Char} (hp : ∀ p ∈ parameters, isParameter p = true)
    {c : Char} (hc : c.isAlpha = true) (rest : List Char) :
    span (escape :: '[' :: (parameters ++ c :: rest)) = parameters.length + 3 := by
  have hend := isParameter_eq_false_of_isAlpha hc
  simp [span, escape, List.takeWhile_append_of_pos hp, List.dropWhile_append_of_pos hp, hend, hc]

end ControlSequence

/-! ## Plain text -/

/-- The text without its sequences, behind so many characters that are left out anyway. -/
def plainBehind : Nat → List Char → List Char
  | _, [] => []
  | skip + 1, _ :: rest => plainBehind skip rest
  | 0, c :: rest =>
    match ControlSequence.span (c :: rest) with
    | 0 => c :: plainBehind 0 rest
    | skip + 1 => plainBehind skip rest

/-- **The text without its sequences.** -/
def plain (s : List Char) : List Char :=
  plainBehind 0 s

@[simp] theorem plain_nil : plain [] = [] := rfl

/-- **In front of the first escape character nothing is left out.** -/
theorem plain_append_of_not_mem {s : List Char} (h : ControlSequence.escape ∉ s) (t : List Char) :
    plain (s ++ t) = s ++ plain t := by
  induction s with
  | nil => rfl
  | cons c s ih =>
    simp only [List.mem_cons, not_or] at h
    obtain ⟨hc, hs⟩ := h
    rw [List.cons_append, List.cons_append, ← ih hs, plain, plainBehind,
      ControlSequence.span_cons_of_ne (Ne.symm hc)]
    rfl

theorem plainBehind_eq_plain_drop (skip : Nat) (s : List Char) :
    plainBehind skip s = plain (s.drop skip) := by
  induction s generalizing skip with
  | nil => cases skip <;> rfl
  | cons c s ih =>
    cases skip with
    | zero => rfl
    | succ skip => exact ih skip

/-- **A sequence is left out**, whatever follows it. -/
theorem plain_sequence {parameters : List Char}
    (hp : ∀ p ∈ parameters, ControlSequence.isParameter p = true) {c : Char}
    (hc : c.isAlpha = true) (rest : List Char) :
    plain (ControlSequence.escape :: '[' :: (parameters ++ c :: rest)) = plain rest := by
  rw [plain, plainBehind, ControlSequence.span_sequence hp hc]
  show plainBehind (parameters.length + 2) ('[' :: (parameters ++ c :: rest)) = plain rest
  rw [plainBehind_eq_plain_drop, List.drop_succ_cons, ← List.drop_drop, List.drop_left]
  rfl

theorem plainBehind_sublist (skip : Nat) (s : List Char) : (plainBehind skip s).Sublist s := by
  induction s generalizing skip with
  | nil => cases skip <;> exact .slnil
  | cons c s ih =>
    cases skip with
    | succ skip => exact (ih skip).cons c
    | zero =>
      rw [plainBehind]
      split
      · exact (ih 0).cons_cons c
      · exact (ih _).cons c

/-- A colour goes, and the text in it stays. -/
example : plain "\x1b[1;31mred\x1b[0m".toList = "red".toList := by decide

/-- A sequence around a sequence is not seen, since the text is read once. -/
example : plain "\x1b[\x1b[0mm".toList = "\x1b[m".toList := by decide

/-! ## Printing -/

/-- **Lines as they are printed.** -/
def printed (lines : List String) : String :=
  String.join (lines.map fun line => String.ofList (plain line.toList) ++ "\n")

theorem printed_append (xs ys : List String) : printed (xs ++ ys) = printed xs ++ printed ys := by
  rw [printed, List.map_append, String.join_append]
  rfl

end DirectiveLint.Text
