import DirectiveLint.Language.Scanners
import Mathlib.Data.List.Basic
import Mathlib.Tactic.Lemma

/-!
# What a scanner remembers

A scanner walks over a source with a little memory.  This module says what that memory is about: is
a comment open, where did it start, and what do its bytes look like so far?

* `Language.IsComment` — **what the bytes of a comment look like**: they open with a slash and a
  star, or they are a line.  In Go no line feed is in a line; in C a line may go on in the next one,
  if a backslash is at its end (`C.Spliced`).
* `Scanner.Follows` — **what one step can do**.  Outside of comments it closes none and may open one
  with its byte; inside a comment it goes on, or closes it in front of its byte or behind.
* `Scanner.Follows.spans_nodes` — hence the comments of a source lie in it, follow each other, and
  their bytes look like those of comments.
* `Go.follows_scanner` and `C.follows_scanner` — the scanners of the two languages, mode by mode.
* `Grammars.CommentsFit` — what may be asked of other grammars, too: that they take nothing else for
  a comment.  The scanners meet it (`commentsFit_scanners`).
-/

namespace DirectiveLint

/-! ## The bytes of a comment -/

/-- The two bytes that open a comment between delimiters. -/
def blockMarker : List UInt8 := ['/'.toUInt8, '*'.toUInt8]

namespace C

/-- A line that goes on in the next one: its last byte is a backslash, carriage return aside. -/
def EndsSpliced (read : List UInt8) : Prop :=
  ['\\'.toUInt8] <:+ read ∨ ['\\'.toUInt8, '\r'.toUInt8] <:+ read

/-- Every line in it goes on in the next one. -/
def Spliced (read : List UInt8) : Prop :=
  ∀ front rest, read = front ++ lineFeed :: rest → EndsSpliced front

end C

namespace Language

/-- What a comment looks like that ends with a line. -/
def IsLine : Language → List UInt8 → Prop
  | go, read => lineFeed ∉ read
  | c, read => C.Spliced read

/-- **What a comment looks like**: a line, or something between delimiters. -/
def IsComment (language : Language) (read : List UInt8) : Prop :=
  language.IsLine read ∨ blockMarker <+: read

end Language

/-- **The grammars take for a comment what looks like one.** -/
def Grammars.CommentsFit [Grammars] : Prop :=
  ∀ (language : Language) (source : List UInt8), ∀ node ∈ (language.tree source).comments,
    language.IsComment (slice source node.start node.stop)

/-! ## What one step can do -/

namespace Scanner

variable {Mode : Type}

section

variable (opened? : Mode → Option Mark) (Reads : Mode → List UInt8 → List UInt8 → Prop)
  (Whole : List UInt8 → Prop)

/-- Behind a byte that was in no comment, only a comment that it opens is open. -/
def Enters (next : Mode) (here : Mark) (b : UInt8) (ahead : List UInt8) : Prop :=
  ∀ mark, opened? next = some mark → mark = here ∧ Reads next [b] ahead

/-- What a byte may do to the comment around it. -/
inductive Inside (start : Mark) (read : List UInt8) (here : Mark) (b : UInt8)
    (ahead : List UInt8) : Mode × Option SyntaxNode → Prop where
  | goesOn {next : Mode} (hopened : opened? next = some start)
      (hreads : Reads next (read ++ [b]) ahead) : Inside start read here b ahead (next, none)
  /-- The byte is not part of the comment, and may open the next one. -/
  | endsInFront {next : Mode} (hwhole : Whole read)
      (henters : Enters opened? Reads next here b ahead) :
      Inside start read here b ahead (next, some (start.comment here.offset))
  | endsBehind {next : Mode} (hwhole : Whole (read ++ [b])) (hclosed : opened? next = none) :
      Inside start read here b ahead (next, some (start.comment (here.offset + 1)))

/-- **A scanner follows the comments of its source**: `opened?` is where the open comment started,
`Reads` is what is known of its bytes so far and of the bytes ahead, and a comment that is closed is
`Whole`. -/
structure Follows (scanner : Scanner Mode) : Prop where
  initial : opened? scanner.initial = none
  outside : ∀ {mode : Mode} (here : Mark) (b : UInt8) (ahead : List UInt8), opened? mode = none →
    ∃ next, scanner.step mode here b ahead = (next, none) ∧
      Enters opened? Reads next here b ahead
  inside : ∀ {mode : Mode} {start : Mark} {read : List UInt8} (here : Mark) (b : UInt8)
    (ahead : List UInt8), opened? mode = some start → Reads mode read (b :: ahead) →
      Inside opened? Reads Whole start read here b ahead (scanner.step mode here b ahead)
  finish : ∀ {mode : Mode} {here : Mark} {node : SyntaxNode}, scanner.finish mode here = some node →
    ∃ start, opened? mode = some start ∧ node = start.comment here.offset ∧
      ∀ read, Reads mode read [] → Whole read

end

variable {scanner : Scanner Mode} {opened? : Mode → Option Mark}
  {Reads : Mode → List UInt8 → List UInt8 → Prop} {Whole : List UInt8 → Prop}

/-- Behind most bytes no comment is open. -/
lemma enters_of_none {next : Mode} {here : Mark} {b : UInt8} {ahead : List UInt8}
    (h : opened? next = none) : Enters opened? Reads next here b ahead := by
  intro mark hmark
  rw [h] at hmark
  cases hmark

/-! ## What a walk closes -/

/-- Comments from `low` on: they lie in the source, follow each other, and are whole. -/
structure Spans (Whole : List UInt8 → Prop) (source : List UInt8) (low : Nat)
    (nodes : List SyntaxNode) : Prop where
  inside : ∀ node ∈ nodes, low ≤ node.start ∧ node.start ≤ node.stop ∧ node.stop ≤ source.length
  apart : nodes.Pairwise fun a b => a.stop ≤ b.start
  whole : ∀ node ∈ nodes, Whole (slice source node.start node.stop)

lemma Spans.nil {source : List UInt8} {low : Nat} : Spans Whole source low [] where
  inside := fun _ hnode => absurd hnode List.not_mem_nil
  apart := List.Pairwise.nil
  whole := fun _ hnode => absurd hnode List.not_mem_nil

lemma Spans.cons {source : List UInt8} {low : Nat} {node : SyntaxNode} {nodes : List SyntaxNode}
    (hlow : low ≤ node.start) (hspan : node.start ≤ node.stop) (hstop : node.stop ≤ source.length)
    (hwhole : Whole (slice source node.start node.stop)) (h : Spans Whole source node.stop nodes) :
    Spans Whole source low (node :: nodes) where
  inside := by
    refine List.forall_mem_cons.mpr ⟨⟨hlow, hspan, hstop⟩, fun later hlater => ?_⟩
    obtain ⟨hge, hlater⟩ := h.inside later hlater
    exact ⟨by omega, hlater⟩
  apart := List.pairwise_cons.mpr ⟨fun later hlater => (h.inside later hlater).1, h.apart⟩
  whole := List.forall_mem_cons.mpr ⟨hwhole, h.whole⟩

/-- What a mode remembers of the bytes before it: if it is in a comment, this started at `low` or
later, and its bytes so far are as the mode says. -/
def Remembers (opened? : Mode → Option Mark) (Reads : Mode → List UInt8 → List UInt8 → Prop)
    (mode : Mode) (low : Nat) (before ahead : List UInt8) : Prop :=
  ∀ start, opened? mode = some start → low ≤ start.offset ∧ start.offset ≤ before.length ∧
    Reads mode (before.drop start.offset) ahead

lemma remembers_of_none {mode : Mode} {low : Nat} {before ahead : List UInt8}
    (h : opened? mode = none) : Remembers opened? Reads mode low before ahead := by
  intro start hstart
  rw [h] at hstart
  cases hstart

/-- A comment that opens with a byte is as long as the byte. -/
lemma Enters.remembers {next : Mode} {here : Mark} {b : UInt8} {low : Nat}
    {before ahead : List UInt8} (h : Enters opened? Reads next here b ahead)
    (hoffset : here.offset = before.length) (hlow : low ≤ here.offset) :
    Remembers opened? Reads next low (before ++ [b]) ahead := by
  intro start hstart
  obtain ⟨rfl, hreads⟩ := h start hstart
  rw [hoffset, List.drop_left, List.length_append]
  exact ⟨hoffset ▸ hlow, Nat.le_add_right _ _, hreads⟩

/-- The part of a source that has been read already. -/
lemma slice_append (before rest : List UInt8) (start : Nat) :
    slice (before ++ rest) start before.length = before.drop start := by
  rw [slice_eq_drop_take, List.take_left]

/-- **A walk closes whole comments.** -/
lemma Follows.spans_nodesFrom (h : Follows opened? Reads Whole scanner) {source : List UInt8}
    (bytes : List UInt8) : ∀ {mode : Mode} {here : Mark} {low : Nat} (before : List UInt8),
      source = before ++ bytes → here.offset = before.length → low ≤ here.offset →
      Remembers opened? Reads mode low before bytes →
      Spans Whole source low (scanner.nodesFrom mode here bytes) := by
  induction bytes with
  | nil =>
    intro mode here low before hsource hoffset hlow hmode
    rw [Scanner.nodesFrom]
    cases hfinish : scanner.finish mode here with
    | none => exact .nil
    | some node =>
      obtain ⟨start, hstart, rfl, hwhole⟩ := h.finish hfinish
      obtain ⟨hle, hge, hreads⟩ := hmode start hstart
      have hslice : slice source start.offset here.offset = before.drop start.offset := by
        rw [hsource, hoffset, slice_append]
      have hlength : here.offset = source.length := by rw [hsource, hoffset, List.append_nil]
      refine .cons hle (hoffset ▸ hge) (Nat.le_of_eq hlength) ?_ .nil
      show Whole (slice source start.offset here.offset)
      rw [hslice]
      exact hwhole _ hreads
  | cons b bytes ih =>
    intro mode here low before hsource hoffset hlow hmode
    have hsource' : source = (before ++ [b]) ++ bytes := by rw [hsource]; simp
    have hoffset' : (here.next b).offset = (before ++ [b]).length := by
      rw [here.offset_next, hoffset, List.length_append, List.length_singleton]
    have hnext : (here.next b).offset = here.offset + 1 := here.offset_next b
    have hlength : (here.next b).offset ≤ source.length := by
      rw [hoffset', hsource']
      exact (List.prefix_append _ _).length_le
    rw [Scanner.nodesFrom]
    cases hopened : opened? mode with
    | none =>
      obtain ⟨next, hstep, henters⟩ := h.outside here b bytes hopened
      rw [hstep]
      exact ih _ hsource' hoffset' (by omega) (henters.remembers hoffset hlow)
    | some start =>
      obtain ⟨hle, hge, hreads⟩ := hmode start hopened
      have hread : (before ++ [b]).drop start.offset = before.drop start.offset ++ [b] :=
        List.drop_append_of_le_length hge
      have hinside := h.inside here b bytes hopened hreads
      generalize scanner.step mode here b bytes = outcome at hinside ⊢
      cases hinside with
      | @goesOn next hnextOpened hnextReads =>
        refine ih _ hsource' hoffset' (by omega) fun mark hmark => ?_
        obtain rfl := Option.some.inj (hnextOpened.symm.trans hmark)
        rw [hread, ← hoffset']
        exact ⟨hle, by omega, hnextReads⟩
      | @endsInFront next hwhole henters =>
        refine .cons hle (hoffset ▸ hge) (by show here.offset ≤ _; omega) ?_
          (ih _ hsource' hoffset' (by show here.offset ≤ _; omega)
            (henters.remembers hoffset (Nat.le_refl _)))
        show Whole (slice source start.offset here.offset)
        rw [hsource, hoffset, slice_append]
        exact hwhole
      | @endsBehind next hwhole hclosed =>
        refine .cons hle (by show start.offset ≤ here.offset + 1; omega) (hnext ▸ hlength) ?_
          (ih _ hsource' hoffset' (Nat.le_of_eq hnext.symm) (remembers_of_none hclosed))
        show Whole (slice source start.offset (here.offset + 1))
        rw [hsource', ← hnext, hoffset', slice_append, hread]
        exact hwhole

/-- **The comments of a source** lie in it, follow each other, and are whole. -/
lemma Follows.spans_nodes (h : Follows opened? Reads Whole scanner) (source : List UInt8) :
    Spans Whole source 0 (scanner.nodes source) :=
  h.spans_nodesFrom source [] (List.nil_append source).symm rfl (Nat.le_refl 0)
    (remembers_of_none h.initial)

end Scanner

/-! ## Comments that open -/

lemma opens?_eq_block {b : UInt8} {ahead : List UInt8} (h : opens? b ahead = some .block) :
    b = '/'.toUInt8 ∧ ∃ rest, ahead = '*'.toUInt8 :: rest := by
  unfold opens? at h
  split_ifs at h with hslash
  cases ahead with
  | nil => cases h
  | cons c rest =>
    dsimp only at h
    split at h
    · cases h
    · split at h
      · next hstar =>
        rw [Bool.and_eq_true, beq_iff_eq] at hstar
        exact ⟨beq_iff_eq.mp hslash, rest, by rw [hstar.1]⟩
      · cases h

lemma opens?_eq_line {b : UInt8} {ahead : List UInt8} (h : opens? b ahead = some .line) :
    b = '/'.toUInt8 := by
  unfold opens? at h
  split_ifs at h with hslash
  exact beq_iff_eq.mp hslash

/-- Two bytes that open a comment, and any more. -/
lemma blockMarker_prefix_append {read : List UInt8} (h : blockMarker <+: read) (b : UInt8) :
    blockMarker <+: read ++ [b] :=
  h.trans (List.prefix_append read [b])

/-! ## Go -/

namespace Go

/-- Where the comment around a byte started. -/
def opened? : Mode → Option Mark
  | .line start | .opening start | .block start | .blockStar start => some start
  | _ => none

/-- What is known in a mode of the comment around it and of the bytes ahead. -/
def Reads : Mode → List UInt8 → List UInt8 → Prop
  | .line _, read, _ => lineFeed ∉ read
  | .opening _, read, ahead => read = ['/'.toUInt8] ∧ ∃ rest, ahead = '*'.toUInt8 :: rest
  | .block _, read, _ | .blockStar _, read, _ => blockMarker <+: read
  | _, _, _ => True

section

variable (here : Mark) {b : UInt8} {ahead : List UInt8}

lemma enters_line (h : opens? b ahead = some .line) :
    Scanner.Enters opened? Reads (.line here) here b ahead := by
  intro mark hmark
  obtain rfl := opens?_eq_line h
  refine ⟨(Option.some.inj hmark).symm, ?_⟩
  show lineFeed ∉ ['/'.toUInt8]
  decide

lemma enters_opening (h : opens? b ahead = some .block) :
    Scanner.Enters opened? Reads (.opening here) here b ahead := by
  intro mark hmark
  obtain ⟨rfl, hahead⟩ := opens?_eq_block h
  exact ⟨(Option.some.inj hmark).symm, rfl, hahead⟩

lemma enters_code : Scanner.Enters opened? Reads (code here b ahead) here b ahead := by
  unfold code
  split
  · next hline => exact enters_line here hline
  · next hblock => exact enters_opening here hblock
  · refine Scanner.enters_of_none ?_
    repeat' split
    all_goals rfl

lemma enters_broken : Scanner.Enters opened? Reads (broken here b ahead) here b ahead := by
  unfold broken
  split
  · exact Scanner.enters_of_none rfl
  · split
    · next hline => exact enters_line here hline
    · next hblock => exact enters_opening here hblock
    · exact Scanner.enters_of_none rfl

end

/-- **The scanner of Go.**  A comment opens in code, and where a string is broken. -/
lemma follows_scanner : Scanner.Follows opened? Reads Language.go.IsComment scanner where
  initial := rfl
  outside := by
    intro mode here b ahead hmode
    cases mode with
    | code => exact ⟨_, rfl, enters_code here⟩
    | broken => exact ⟨_, rfl, enters_broken here⟩
    | text =>
      refine ⟨_, rfl, Scanner.enters_of_none ?_⟩
      repeat' split
      all_goals rfl
    | escaped => exact ⟨_, rfl, Scanner.enters_of_none rfl⟩
    | rune more => cases more <;> exact ⟨_, rfl, Scanner.enters_of_none rfl⟩
    | raw =>
      refine ⟨_, rfl, Scanner.enters_of_none ?_⟩
      split <;> rfl
    | line start => cases hmode
    | opening start => cases hmode
    | block start => cases hmode
    | blockStar start => cases hmode
  inside := by
    intro mode start read here b ahead hmode hread
    cases mode with
    | line start =>
      obtain rfl := Option.some.inj hmode
      dsimp only [scanner, step]
      split
      · exact .endsInFront (Or.inl hread) (Scanner.enters_of_none rfl)
      · next hb =>
        rw [Bool.or_eq_true, beq_iff_eq, not_or] at hb
        refine .goesOn rfl ?_
        show lineFeed ∉ read ++ [b]
        rw [List.mem_append, List.mem_singleton, not_or]
        exact ⟨hread, Ne.symm hb.1⟩
    | opening start =>
      obtain rfl := Option.some.inj hmode
      obtain ⟨rfl, rest, hahead⟩ := hread
      obtain rfl := (List.cons.inj hahead).1
      exact .goesOn rfl (List.prefix_refl blockMarker)
    | block start =>
      obtain rfl := Option.some.inj hmode
      dsimp only [scanner, step]
      split <;> exact .goesOn rfl (blockMarker_prefix_append hread b)
    | blockStar start =>
      obtain rfl := Option.some.inj hmode
      dsimp only [scanner, step]
      split
      · exact .endsBehind (Or.inr (blockMarker_prefix_append hread b)) rfl
      · split <;> exact .goesOn rfl (blockMarker_prefix_append hread b)
    | _ => cases hmode
  finish := by
    intro mode here node hfinish
    cases mode with
    | line start =>
      cases hfinish
      exact ⟨start, rfl, rfl, fun read hread => Or.inl hread⟩
    | _ => cases hfinish

end Go

/-! ## C -/

namespace C

/-! ### Lines that go on -/

lemma spliced_of_not_mem {read : List UInt8} (h : lineFeed ∉ read) : Spliced read := by
  rintro front rest rfl
  exact absurd (List.mem_append_right front List.mem_cons_self) h

lemma Spliced.concat {read : List UInt8} (h : Spliced read) {b : UInt8}
    (hb : b = lineFeed → EndsSpliced read) : Spliced (read ++ [b]) := by
  intro front rest heq
  rcases List.eq_nil_or_concat' rest with rfl | ⟨rest, last, rfl⟩
  · obtain ⟨rfl, hlast⟩ := List.append_inj' heq rfl
    exact hb (List.cons.inj hlast).1
  · rw [← List.cons_append, ← List.append_assoc] at heq
    exact h front rest (List.append_inj' heq rfl).1

/-- What the memory of the last bytes of a line says about the line. -/
def Splice.Ends : Splice → List UInt8 → Prop
  | .none, _ => True
  | .backslash, read => ['\\'.toUInt8] <:+ read
  | .carriageReturn, read => ['\\'.toUInt8, '\r'.toUInt8] <:+ read

lemma Splice.Ends.endsSpliced {splice : Splice} {read : List UInt8} (h : splice.Ends read)
    (hsplice : splice ≠ .none) : EndsSpliced read := by
  cases splice with
  | none => exact absurd rfl hsplice
  | backslash => exact Or.inl h
  | carriageReturn => exact Or.inr h

lemma Splice.Ends.next {splice : Splice} {read : List UInt8} (h : splice.Ends read) (b : UInt8) :
    (splice.next b).Ends (read ++ [b]) := by
  unfold Splice.next
  split
  · next hb =>
    rw [beq_iff_eq.mp hb]
    exact List.suffix_append read _
  · split
    · next hb =>
      rw [Bool.and_eq_true, beq_iff_eq, beq_iff_eq] at hb
      obtain ⟨rfl, rfl⟩ := hb
      obtain ⟨front, rfl⟩ := h
      exact ⟨front, by simp⟩
    · trivial

/-- **A line feed that does not end a comment is spliced.** -/
lemma Spliced.goesOn {splice : Splice} {read ahead : List UInt8} {b : UInt8} (h : Spliced read)
    (hsplice : splice.Ends read) (hb : endsComment splice b ahead = false) :
    Spliced (read ++ [b]) := by
  refine h.concat ?_
  rintro rfl
  refine hsplice.endsSpliced ?_
  rintro rfl
  cases hb

/-! ### Modes -/

/-- Where the comment around a byte started. -/
def opened? : Mode → Option Mark
  | .line start _ _ | .opening start _ | .block start _ | .blockStar start _ => some start
  | _ => none

/-- What is known in a mode of the comment around it and of the bytes ahead. -/
def Reads : Mode → List UInt8 → List UInt8 → Prop
  | .line _ _ splice, read, _ => Spliced read ∧ splice.Ends read
  | .opening _ _, read, ahead => read = ['/'.toUInt8] ∧ ∃ rest, ahead = '*'.toUInt8 :: rest
  | .block _ _, read, _ | .blockStar _ _, read, _ => blockMarker <+: read
  | _, _, _ => True

section

variable {b : UInt8} {ahead : List UInt8}

lemma opened?_code : opened? (code b ahead) = none := by
  rw [code]
  repeat' split
  all_goals rfl

lemma opened?_literal {quote : UInt8} {goesOn : Place} :
    opened? (literal quote goesOn b ahead) = none := by
  rw [literal]
  repeat' split
  all_goals rfl

lemma opened?_token {place : Place} : opened? (token b ahead place) = none := by
  cases place with
  | code => exact opened?_code
  | includePath =>
    rw [token]
    split
    · rfl
    · exact opened?_code
  | macroName =>
    rw [token]
    split
    · rfl
    · exact opened?_code
  | parameterList => rfl
  | argument parameters adjacent =>
    rw [token]
    repeat' split
    all_goals rfl
  | text => exact opened?_literal
  | characters quote => exact opened?_literal
  | unfinished quote =>
    rw [token, unfinished]
    split
    · rfl
    · split
      · exact opened?_literal
      · exact opened?_code

lemma opened?_blankOrToken {place : Place} : opened? (blankOrToken b ahead place) = none := by
  unfold blankOrToken
  split
  · exact opened?_token
  · exact opened?_token
  · exact opened?_token
  · split
    · rfl
    · split
      · rfl
      · exact opened?_token
  · split
    · rfl
    · exact opened?_token

variable (here : Mark)

/-- A comment opens between tokens, and nowhere else. -/
lemma enters_between (place : Place) :
    Scanner.Enters opened? Reads (between place here b ahead) here b ahead := by
  unfold between
  split
  · exact Scanner.enters_of_none opened?_token
  · split
    · next hline =>
      intro mark hmark
      obtain rfl := opens?_eq_line hline
      refine ⟨(Option.some.inj hmark).symm, spliced_of_not_mem ?_, trivial⟩
      decide
    · next hblock =>
      intro mark hmark
      obtain ⟨rfl, hahead⟩ := opens?_eq_block hblock
      exact ⟨(Option.some.inj hmark).symm, rfl, hahead⟩
    · exact Scanner.enters_of_none opened?_blankOrToken

lemma enters_number (hexadecimal behindDigit : Bool) :
    Scanner.Enters opened? Reads (number hexadecimal behindDigit here b ahead) here b ahead := by
  unfold number
  split
  · exact Scanner.enters_of_none rfl
  · split
    · exact Scanner.enters_of_none rfl
    · exact enters_between here .code

lemma enters_lineName (read : List UInt8) :
    Scanner.Enters opened? Reads (lineName read here b ahead) here b ahead := by
  unfold lineName
  generalize (if read.isEmpty then isAlphanum b else isWordByte b) = goesOn
  split
  · exact Scanner.enters_of_none rfl
  · split
    · exact Scanner.enters_of_none rfl
    · exact enters_between here _

lemma enters_argument (splice : Splice) :
    Scanner.Enters opened? Reads (argument splice here b ahead) here b ahead := by
  unfold argument
  split
  · exact Scanner.enters_of_none rfl
  · split
    · split
      · exact enters_between here .code
      · exact Scanner.enters_of_none rfl
    · exact Scanner.enters_of_none rfl

end

/-- **The scanner of C.** -/
lemma follows_scanner : Scanner.Follows opened? Reads Language.c.IsComment scanner where
  initial := rfl
  outside := by
    intro mode here b ahead hmode
    cases mode with
    | between place => exact ⟨_, rfl, enters_between here place⟩
    | escaped quote => exact ⟨_, rfl, Scanner.enters_of_none rfl⟩
    | word =>
      refine ⟨_, rfl, ?_⟩
      split
      · exact Scanner.enters_of_none rfl
      · exact enters_between here .code
    | number hexadecimal behindDigit => exact ⟨_, rfl, enters_number here hexadecimal behindDigit⟩
    | lineName read => exact ⟨_, rfl, enters_lineName here read⟩
    | anglePath =>
      refine ⟨_, rfl, Scanner.enters_of_none ?_⟩
      split <;> rfl
    | macroName =>
      refine ⟨_, rfl, ?_⟩
      split
      · exact Scanner.enters_of_none rfl
      · exact enters_between here _
    | argument splice => exact ⟨_, rfl, enters_argument here splice⟩
    | argumentSlash =>
      refine ⟨_, rfl, Scanner.enters_of_none ?_⟩
      split <;> rfl
    | line start place splice => cases hmode
    | opening start place => cases hmode
    | block start place => cases hmode
    | blockStar start place => cases hmode
  inside := by
    intro mode start read here b ahead hmode hread
    cases mode with
    | line start place splice =>
      obtain rfl := Option.some.inj hmode
      obtain ⟨hspliced, hends⟩ := hread
      dsimp only [scanner, step]
      split
      · exact .endsInFront (Or.inl hspliced) (enters_between here place)
      · next hb =>
        rw [Bool.not_eq_true] at hb
        exact .goesOn rfl ⟨hspliced.goesOn hends hb, hends.next b⟩
    | opening start place =>
      obtain rfl := Option.some.inj hmode
      obtain ⟨rfl, rest, hahead⟩ := hread
      obtain rfl := (List.cons.inj hahead).1
      exact .goesOn rfl (List.prefix_refl blockMarker)
    | block start place =>
      obtain rfl := Option.some.inj hmode
      dsimp only [scanner, step]
      split <;> exact .goesOn rfl (blockMarker_prefix_append hread b)
    | blockStar start place =>
      obtain rfl := Option.some.inj hmode
      dsimp only [scanner, step]
      split
      · exact .endsBehind (Or.inr (blockMarker_prefix_append hread b)) rfl
      · split <;> exact .goesOn rfl (blockMarker_prefix_append hread b)
    | _ => cases hmode
  finish := by
    intro mode here node hfinish
    cases mode with
    | line start place splice =>
      cases hfinish
      exact ⟨start, rfl, rfl, fun read hread => Or.inl hread.1⟩
    | _ => cases hfinish

end C

/-! ## Both languages -/

/-- The comments of the tree of a source are those that the scanner has closed. -/
lemma Scanner.comments_tree {Mode : Type} (scanner : Scanner Mode) {root : String}
    (hroot : SyntaxNode.commentKinds.contains root = false) (source : List UInt8) :
    (scanner.tree root source).comments = (scanner.nodes source).filter SyntaxNode.isComment := by
  have hpreorder : (scanner.tree root source).preorder =
      ⟨root, 0, source.length, ⟨0, 0⟩⟩ :: scanner.nodes source := by
    rw [tree, SyntaxTree.preorder, SyntaxTree.preorderAll_eq_flatMap, List.flatMap_map]
    exact congrArg _ (List.flatMap_singleton' _)
  rw [SyntaxTree.comments, hpreorder, List.filter_cons_of_neg]
  rw [SyntaxNode.isComment, hroot]
  exact Bool.false_ne_true

/-- **The comments of a scanned source look like comments of its language.** -/
theorem commentsFit_scanners : Grammars.CommentsFit := by
  intro language source node h
  cases language with
  | go =>
    rw [Language.tree_go, Scanner.comments_tree _ (by decide +kernel)] at h
    exact (Go.follows_scanner.spans_nodes source).whole node (List.mem_filter.mp h).1
  | c =>
    rw [Language.tree_c, Scanner.comments_tree _ (by decide +kernel)] at h
    exact (C.follows_scanner.spans_nodes source).whole node (List.mem_filter.mp h).1

end DirectiveLint
