import DirectiveLint.Text.Utf8
import Mathlib.Algebra.Group.Nat.Defs
import Mathlib.Tactic.Lemma

/-!
# Decoding above ASCII and below

Bytes below 0x80 are ASCII characters, and only they are.  This module says so of the reader of
UTF-8, of well-formed input and of any other.

**ASCII bytes are read by themselves.**  Inside a character the next byte is never an ASCII byte
(`State.AboveAscii`).  So such a byte ends what stands unfinished in front of it, as the end of the
input would, and the reader goes on behind it as at the start: `read_append_ascii`,
`decodeLossy_append_ascii`.

**No other byte becomes an ASCII character.**  The range of code points that an unfinished character
can still turn out to be is known from its first byte on, and every further byte narrows it
(`State.Sound`).  It leaves out ASCII, since overlong forms are refused, and everything that is no
character.  So bytes above ASCII are read as characters above ASCII
(`aboveAscii_of_mem_decodeLossy`), and never as nothing at all (`decodeLossy_eq_nil_iff`).  So an
ASCII character of a text stands where its byte does (`exists_cut_of_decodeLossy`).
-/

namespace DirectiveLint.Text.Utf8

/-- There are 256 bytes, and what holds of each of them holds of all. -/
lemma forall_byte {P : UInt8 → Prop} (h : ∀ n < 256, P (UInt8.ofNat n)) (b : UInt8) : P b := by
  have hb := h b.toNat (UInt8.toNat_lt b)
  rwa [UInt8.ofNat_toNat] at hb

/-! ## ASCII bytes -/

/-- Inside a character the next byte is no ASCII character. -/
def State.AboveAscii : State → Prop
  | .boundary => True
  | .inside _ low _ _ => 0x80 ≤ low

instance (state : State) : Decidable state.AboveAscii :=
  match state with
  | .boundary => inferInstanceAs (Decidable True)
  | .inside _ low _ _ => inferInstanceAs (Decidable (0x80 ≤ low))

lemma aboveAscii_boundary : State.boundary.AboveAscii := trivial

lemma aboveAscii_enter : ∀ b : UInt8, (enter b).1.AboveAscii :=
  forall_byte (by decide +kernel)

lemma aboveAscii_step (state : State) (b : UInt8) : (step state b).1.AboveAscii := by
  cases state with
  | boundary => exact aboveAscii_enter b
  | inside missing low high value =>
    rw [step]
    split
    · split
      · trivial
      · show (0x80 : UInt8) ≤ 0x80
        decide
    · exact aboveAscii_enter b

lemma step_of_ascii {state : State} (hstate : state.AboveAscii) {b : UInt8} (hb : b < 0x80) :
    step state b = (.boundary, finish state ++ [some (Char.ofNat b.toNat)]) := by
  have henter : enter b = (.boundary, [some (Char.ofNat b.toNat)]) := by rw [enter, if_pos hb]
  cases state with
  | boundary => exact henter
  | inside missing low high value =>
    have hlow : (0x80 : UInt8) ≤ low := hstate
    have hrange : ¬ (low ≤ b && b ≤ high) = true := by
      rw [Bool.and_eq_true, decide_eq_true_eq]
      intro h
      exact absurd (UInt8.lt_of_lt_of_le hb (UInt8.le_trans hlow h.1)) (UInt8.lt_irrefl b)
    rw [step, if_neg hrange, henter]
    rfl

lemma read_cons (state : State) (b : UInt8) (bytes : List UInt8) :
    read state (b :: bytes) = (step state b).2 ++ read (step state b).1 bytes := rfl

/-- **An ASCII byte cuts the input in two**, which are read one apart from the other. -/
lemma read_append_ascii {state : State} (hstate : state.AboveAscii) {b : UInt8} (hb : b < 0x80)
    (bytes rest : List UInt8) :
    read state (bytes ++ b :: rest) =
      read state bytes ++ some (Char.ofNat b.toNat) :: read .boundary rest := by
  induction bytes generalizing state with
  | nil =>
    rw [List.nil_append, read_cons, step_of_ascii hstate hb, List.append_assoc]
    rfl
  | cons x bytes ih =>
    rw [List.cons_append, read_cons, ih (aboveAscii_step state x), read_cons, List.append_assoc]

lemma decodeLossy_append_ascii {b : UInt8} (hb : b < 0x80) (bytes rest : List UInt8) :
    decodeLossy (bytes ++ b :: rest) =
      decodeLossy bytes ++ Char.ofNat b.toNat :: decodeLossy rest := by
  rw [decodeLossy, read_append_ascii aboveAscii_boundary hb, List.map_append]
  rfl

/-! ## Bytes above ASCII -/

/-- The code points from `first` up to, and without, `stop` are characters above ASCII.  No
surrogate is among them. -/
def CharsAboveAscii (first stop : Nat) : Prop :=
  0x80 ≤ first ∧ (stop ≤ 0xD800 ∨ 0xE000 ≤ first ∧ stop ≤ 0x110000)

instance (first stop : Nat) : Decidable (CharsAboveAscii first stop) :=
  inferInstanceAs (Decidable (_ ∧ _))

lemma CharsAboveAscii.narrow {first stop first' stop' : Nat} (h : CharsAboveAscii first stop)
    (hfirst : first ≤ first') (hstop : stop' ≤ stop) : CharsAboveAscii first' stop' := by
  obtain ⟨hascii, hplane⟩ := h
  refine ⟨Nat.le_trans hascii hfirst, hplane.imp (Nat.le_trans hstop) ?_⟩
  exact fun h => ⟨Nat.le_trans h.1 hfirst, Nat.le_trans hstop h.2⟩

lemma toNat_ofNat_of_isValidChar {n : Nat} (h : n.isValidChar) : (Char.ofNat n).toNat = n := by
  rw [Char.ofNat, dif_pos h]
  rfl

/-- A range with one code point left is this character. -/
lemma CharsAboveAscii.le_toNat_ofNat {n : Nat} (h : CharsAboveAscii n (n + 1)) :
    0x80 ≤ (Char.ofNat n).toNat := by
  obtain ⟨hascii, hplane⟩ := h
  have hvalid : n.isValidChar := by
    rcases hplane with hlow | ⟨hfirst, hstop⟩
    · exact Or.inl hlow
    · exact Or.inr ⟨hfirst, hstop⟩
  rw [toNat_ofNat_of_isValidChar hvalid]
  exact hascii

/-- **What an unfinished character can still become** is a character above ASCII: each missing byte
gives six bits, and the first of them lies between the two bounds. -/
def State.Sound : State → Prop
  | .boundary => True
  | .inside missing low high value =>
    1 ≤ missing ∧ 0x80 ≤ low.toNat ∧
      CharsAboveAscii ((value * 64 + (low.toNat - 0x80)) * 64 ^ (missing - 1))
        ((value * 64 + (high.toNat - 0x80) + 1) * 64 ^ (missing - 1))

lemma sound_boundary : State.boundary.Sound := trivial

instance (state : State) : Decidable state.Sound :=
  match state with
  | .boundary => inferInstanceAs (Decidable True)
  | .inside .. => inferInstanceAs (Decidable (_ ∧ _ ∧ _))

/-- The bounds for the byte behind a first one leave nothing else in the range. -/
lemma sound_enter : ∀ b : UInt8, (enter b).1.Sound :=
  forall_byte (by decide +kernel)

/-- A byte above ASCII is ill formed, or opens a character. -/
lemma enter_of_aboveAscii : ∀ b : UInt8, 0x80 ≤ b →
    enter b = (.boundary, [none]) ∨ (enter b).1 ≠ .boundary ∧ (enter b).2 = [] :=
  forall_byte (by decide +kernel)

lemma some_not_mem_enter {b : UInt8} (hb : 0x80 ≤ b) (c : Char) : some c ∉ (enter b).2 := by
  rcases enter_of_aboveAscii b hb with henter | ⟨-, henter⟩
  · rw [henter, List.mem_singleton]
    exact Option.some_ne_none c
  · rw [henter]
    exact List.not_mem_nil

lemma step_inside_of_mem {missing value : Nat} {low high b : UInt8}
    (h : (low ≤ b && b ≤ high) = true) :
    step (.inside missing low high value) b =
      if missing ≤ 1 then (.boundary, [some (Char.ofNat (value * 64 + (b.toNat - 0x80)))])
      else (.inside (missing - 1) 0x80 0xBF (value * 64 + (b.toNat - 0x80)), []) :=
  if_pos h

/-- **A step keeps the range or narrows it**, and what it yields is above ASCII. -/
lemma sound_step {state : State} (hstate : state.Sound) {b : UInt8} (hb : 0x80 ≤ b) :
    (step state b).1.Sound ∧ ∀ c, some c ∈ (step state b).2 → 0x80 ≤ c.toNat := by
  cases state with
  | boundary =>
    exact ⟨sound_enter b, fun c hc => absurd hc (some_not_mem_enter hb c)⟩
  | inside missing low high value =>
    obtain ⟨hmissing, hlow, hrange⟩ := hstate
    by_cases hin : (low ≤ b && b ≤ high) = true
    · rw [step_inside_of_mem hin]
      rw [Bool.and_eq_true, decide_eq_true_eq, decide_eq_true_eq, UInt8.le_iff_toNat_le,
        UInt8.le_iff_toNat_le] at hin
      obtain ⟨hge, hle⟩ := hin
      generalize hvalue : value * 64 + (b.toNat - 0x80) = value'
      -- the six bits of the byte settle the first of the missing digits to the base of 64
      have hnarrow : CharsAboveAscii (value' * 64 ^ (missing - 1))
          ((value' + 1) * 64 ^ (missing - 1)) :=
        hrange.narrow (Nat.mul_le_mul_right _ (by omega)) (Nat.mul_le_mul_right _ (by omega))
      obtain rfl | ⟨n, rfl⟩ : missing = 1 ∨ ∃ n, missing = n + 2 := by
        rcases missing with _ | _ | n
        · omega
        · exact Or.inl rfl
        · exact Or.inr ⟨n, rfl⟩
      · rw [Nat.sub_self, Nat.pow_zero, Nat.mul_one, Nat.mul_one] at hnarrow
        refine ⟨trivial, fun c hc => ?_⟩
        obtain rfl := Option.some.inj (List.mem_singleton.mp hc)
        exact hnarrow.le_toNat_ofNat
      · refine ⟨⟨Nat.succ_pos n, by decide, ?_⟩, fun c hc => absurd hc List.not_mem_nil⟩
        have hpow : 64 ^ (n + 1) = 64 * 64 ^ n := Nat.pow_succ'
        rw [Nat.add_sub_assoc (by decide), hpow, ← Nat.mul_assoc, ← Nat.mul_assoc,
          Nat.add_mul, Nat.one_mul] at hnarrow
        exact hnarrow
    · rw [step, if_neg hin]
      refine ⟨sound_enter b, fun c hc => ?_⟩
      rcases List.mem_cons.mp hc with hc | hc
      · cases hc
      · exact absurd hc (some_not_mem_enter hb c)

/-- **Bytes above ASCII are read as characters above ASCII**, from any state on. -/
lemma aboveAscii_of_mem_read {state : State} (hstate : state.Sound) {bytes : List UInt8}
    (hbytes : ∀ b ∈ bytes, 0x80 ≤ b) {c : Char} (hc : some c ∈ read state bytes) :
    0x80 ≤ c.toNat := by
  induction bytes generalizing state with
  | nil => cases state <;> simp [read, finish] at hc
  | cons b bytes ih =>
    obtain ⟨hb, hbytes⟩ := List.forall_mem_cons.mp hbytes
    obtain ⟨hnext, hout⟩ := sound_step hstate hb
    rw [read_cons, List.mem_append] at hc
    exact hc.elim (hout c) (ih hnext hbytes)

lemma aboveAscii_of_mem_decodeLossy {bytes : List UInt8} (hbytes : ∀ b ∈ bytes, 0x80 ≤ b) {c : Char}
    (hc : c ∈ decodeLossy bytes) : 0x80 ≤ c.toNat := by
  obtain ⟨piece, hpiece, rfl⟩ := List.mem_map.mp hc
  cases piece with
  | none => decide
  | some c => exact aboveAscii_of_mem_read sound_boundary hbytes hpiece

/-! ## Nothing is lost -/

/-- A byte that yields nothing has opened a character or goes on with one. -/
lemma step_ne_boundary {state : State} {b : UInt8} (h : (step state b).2 = []) :
    (step state b).1 ≠ .boundary := by
  cases state with
  | boundary =>
    rcases UInt8.lt_or_le b 0x80 with hascii | hb
    · rw [step_of_ascii aboveAscii_boundary hascii] at h
      cases h
    · rcases enter_of_aboveAscii b hb with henter | ⟨hne, -⟩
      · rw [step, henter] at h
        cases h
      · exact hne
  | inside missing low high value =>
    by_cases hin : (low ≤ b && b ≤ high) = true
    · rw [step_inside_of_mem hin] at h ⊢
      split at h
      · cases h
      · next hmore =>
        rw [if_neg hmore]
        exact State.noConfusion
    · rw [step, if_neg hin] at h
      cases h

lemma read_eq_nil_iff {state : State} {bytes : List UInt8} :
    read state bytes = [] ↔ state = .boundary ∧ bytes = [] := by
  induction bytes generalizing state with
  | nil => cases state <;> simp [read, finish]
  | cons b bytes ih =>
    rw [read_cons, List.append_eq_nil_iff, ih]
    constructor
    · rintro ⟨hout, hnext, -⟩
      exact absurd hnext (step_ne_boundary hout)
    · rintro ⟨-, hnil⟩
      cases hnil

/-- **No input but the empty one is read as nothing.** -/
lemma decodeLossy_eq_nil_iff {bytes : List UInt8} : decodeLossy bytes = [] ↔ bytes = [] := by
  rw [decodeLossy, List.map_eq_nil_iff, read_eq_nil_iff, eq_self_iff_true, true_and]

/-! ## Where ASCII characters come from -/

/-- What stands in front of an element is at least as long as a list without it. -/
lemma exists_front_of_append_eq {α : Type} {x : α} {s t front rest : List α} (hs : x ∉ s)
    (h : s ++ t = front ++ x :: rest) : ∃ mid, front = s ++ mid ∧ t = mid ++ x :: rest := by
  rcases List.append_eq_append_iff.mp h with ⟨mid, hfront, htail⟩ | ⟨mid, hfront, htail⟩
  · exact ⟨mid, hfront, htail⟩
  · cases mid with
    | nil => exact ⟨[], by simpa using hfront.symm, by simpa using htail.symm⟩
    | cons y mid =>
      obtain rfl := (List.cons.inj htail).1
      exact absurd (hfront ▸ List.mem_append_right front List.mem_cons_self) hs

/-- An input is a run of bytes above ASCII, up to its end or to the first ASCII byte. -/
lemma exists_run (bytes : List UInt8) : (∀ b ∈ bytes, 0x80 ≤ b) ∨
    ∃ run b rest, bytes = run ++ b :: rest ∧ (∀ x ∈ run, 0x80 ≤ x) ∧ b < 0x80 := by
  induction bytes with
  | nil => exact Or.inl fun b hb => absurd hb List.not_mem_nil
  | cons b bytes ih =>
    rcases UInt8.lt_or_le b 0x80 with hascii | hb
    · exact Or.inr ⟨[], b, bytes, rfl, fun x hx => absurd hx List.not_mem_nil, hascii⟩
    · rcases ih with hall | ⟨run, a, rest, rfl, hrun, ha⟩
      · exact Or.inl (List.forall_mem_cons.mpr ⟨hb, hall⟩)
      · exact Or.inr ⟨b :: run, a, rest, rfl, List.forall_mem_cons.mpr ⟨hb, hrun⟩, ha⟩

/-- **An ASCII character stands where its byte does**: the text in front of it is that of the bytes
in front of the byte. -/
lemma exists_cut_of_decodeLossy {c : Char} (hc : c.toNat < 0x80) {bytes : List UInt8}
    {front rest : List Char} (h : decodeLossy bytes = front ++ c :: rest) :
    ∃ before b behind, bytes = before ++ b :: behind ∧ decodeLossy before = front ∧
      Char.ofNat b.toNat = c := by
  have habove : ∀ {run : List UInt8}, (∀ x ∈ run, 0x80 ≤ x) → c ∉ decodeLossy run := by
    intro run hrun hmem
    have hge := aboveAscii_of_mem_decodeLossy hrun hmem
    omega
  induction hlength : bytes.length using Nat.strongRecOn generalizing bytes front with
  | ind n ih =>
    rcases exists_run bytes with hall | ⟨run, b, more, rfl, hrun, hb⟩
    · exact absurd (h ▸ List.mem_append_right front List.mem_cons_self) (habove hall)
    · rw [decodeLossy_append_ascii hb] at h
      obtain ⟨mid, rfl, hmid⟩ := exists_front_of_append_eq (habove hrun) h
      cases mid with
      | nil =>
        rw [List.append_nil]
        exact ⟨run, b, more, rfl, rfl, (List.cons.inj hmid).1⟩
      | cons x mid =>
        obtain ⟨rfl, hmore⟩ := List.cons.inj hmid
        obtain ⟨before, b', behind, rfl, rfl, hb'⟩ :=
          ih more.length (by simp at hlength; omega) hmore rfl
        refine ⟨run ++ b :: before, b', behind, by simp, ?_, hb'⟩
        rw [decodeLossy_append_ascii hb]

end DirectiveLint.Text.Utf8
