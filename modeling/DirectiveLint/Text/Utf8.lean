/-!
# Reading UTF-8

Source files and settings files are sequences of bytes.  Comments are read leniently, since a
linter must not refuse a file over one bad byte; settings are read strictly.  Both readings are
views of one reader, so they agree on everything that is well formed.

* `State` — where the reader stands: at a character boundary, or inside a character whose next byte
  must lie in a known range.
* `step` — what one byte does.  It moves the state and yields characters; `none` stands for one
  ill-formed piece of input.
* `read` — the characters and ill-formed pieces of a whole input.
* `decodeLossy` — every ill-formed piece becomes one replacement character U+FFFD.
* `decode?` — the text, if no piece is ill formed.

An ill-formed piece is a *maximal* one: all the bytes that could still have become a character
when the first wrong byte arrived.  The wrong byte itself then starts afresh.  The ranges leave out
overlong forms, surrogates and numbers past U+10FFFF at the earliest byte that gives them away.
-/

namespace DirectiveLint.Text.Utf8

inductive State where
  | boundary
  /-- Inside a character: `missing` bytes are still to come, the next one between `low` and `high`;
  `value` holds the bits read so far. -/
  | inside (missing : Nat) (low high : UInt8) (value : Nat)
  deriving DecidableEq

/-- **A byte at a character boundary** is a character of its own, opens a longer one, or is
ill formed. -/
def enter (b : UInt8) : State × List (Option Char) :=
  if b < 0x80 then (.boundary, [some (Char.ofNat b.toNat)])
  else if b < 0xC2 then (.boundary, [none])
  else if b < 0xE0 then (.inside 1 0x80 0xBF (b.toNat - 0xC0), [])
  else if b == 0xE0 then (.inside 2 0xA0 0xBF 0, [])
  else if b == 0xED then (.inside 2 0x80 0x9F 0xD, [])
  else if b < 0xF0 then (.inside 2 0x80 0xBF (b.toNat - 0xE0), [])
  else if b == 0xF0 then (.inside 3 0x90 0xBF 0, [])
  else if b < 0xF4 then (.inside 3 0x80 0xBF (b.toNat - 0xF0), [])
  else if b == 0xF4 then (.inside 3 0x80 0x8F 4, [])
  else (.boundary, [none])

/-- **One byte.**  Inside a character a byte out of range closes the piece before it as ill formed
and is then read as at a boundary. -/
def step : State → UInt8 → State × List (Option Char)
  | .boundary, b => enter b
  | .inside missing low high value, b =>
    if low ≤ b && b ≤ high then
      let value := value * 64 + (b.toNat - 0x80)
      if missing ≤ 1 then (.boundary, [some (Char.ofNat value)])
      else (.inside (missing - 1) 0x80 0xBF value, [])
    else
      let (state, out) := enter b
      (state, none :: out)

/-- The end of the input inside a character leaves an ill-formed piece. -/
def finish : State → List (Option Char)
  | .boundary => []
  | .inside .. => [none]

/-- The characters and ill-formed pieces of an input, from a given state on. -/
def read (state : State) : List UInt8 → List (Option Char)
  | [] => finish state
  | b :: bytes =>
    let (next, out) := step state b
    out ++ read next bytes

/-- The text of an input, with U+FFFD for every ill-formed piece. -/
def decodeLossy (bytes : List UInt8) : List Char :=
  (read .boundary bytes).map (·.getD '\ufffd')

/-- The text of an input, if all of it is well formed. -/
def decode? (bytes : List UInt8) : Option (List Char) :=
  let pieces := read .boundary bytes
  if pieces.all Option.isSome then some (pieces.filterMap id) else none

/-- **The two readings agree** wherever the strict one answers. -/
theorem decodeLossy_eq_of_decode? {bytes : List UInt8} {s : List Char}
    (h : decode? bytes = some s) : decodeLossy bytes = s := by
  simp only [decode?] at h
  split at h
  · next hall =>
    obtain rfl := Option.some.inj h
    simp only [decodeLossy]
    generalize read .boundary bytes = pieces at hall
    induction pieces with
    | nil => rfl
    | cons piece pieces ih =>
      simp only [List.all_cons, Bool.and_eq_true] at hall
      cases piece with
      | none => simp at hall
      | some c => simpa using ih hall.2
  · simp at h

/-- One replacement character stands for a truncated character, three for a surrogate in three
bytes, since no surrogate starts with ED A0. -/
example :
    decodeLossy [0xE2, 0x82] = ['\ufffd'] ∧
      decodeLossy [0xED, 0xA0, 0x80] = ['\ufffd', '\ufffd', '\ufffd'] := by
  decide

end DirectiveLint.Text.Utf8
