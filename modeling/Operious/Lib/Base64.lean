-- The base64 of binary data, with the alphabet of URLs: the writer pads to four characters, and
-- the lenient reader takes both alphabets and skips what is in neither. Texts are code points.
import Mathlib.Data.List.Basic

namespace base64

/-- The character of six bits. -/
def digit (v : Nat) : Nat :=
  if v < 26 then v + 65 else if v < 52 then v + 71 else if v < 62 then v - 4
  else if v = 62 then 45 else 95

/-- The six bits of a character of either alphabet. -/
def value? (c : Nat) : Option Nat :=
  if 65 ≤ c ∧ c ≤ 90 then some (c - 65)
  else if 97 ≤ c ∧ c ≤ 122 then some (c - 71)
  else if 48 ≤ c ∧ c ≤ 57 then some (c + 4)
  else if c = 43 ∨ c = 45 then some 62
  else if c = 47 ∨ c = 95 then some 63
  else none

/-- `=`. -/
def pad : Nat := 61

/-- Four characters for three bytes, and padding after the last ones. -/
def b2a : List UInt8 → List Nat
  | [] => []
  | [a] => [digit (a.toNat / 4), digit (a.toNat % 4 * 16), pad, pad]
  | [a, b] =>
    [digit (a.toNat / 4), digit (a.toNat % 4 * 16 + b.toNat / 16), digit (b.toNat % 16 * 4), pad]
  | a :: b :: c :: rest =>
    digit (a.toNat / 4) :: digit (a.toNat % 4 * 16 + b.toNat / 16) ::
      digit (b.toNat % 16 * 4 + c.toNat / 64) :: digit (c.toNat % 64) :: b2a rest

/-- The reader. `quad` counts the characters of the current four, `pads` the padding since the
last one, and `left` holds the bits not yet in a byte. Padding that completes the four ends the
text; it fails when the text ends within four characters. -/
def a2b (quad pads left : Nat) : List Nat → Option (List UInt8)
  | [] => if quad = 0 then some [] else none
  | c :: rest =>
    if c = pad then
      if 2 ≤ quad then
        if 4 ≤ quad + (pads + 1) then some [] else a2b quad (pads + 1) left rest
      else a2b quad pads left rest
    else
      match value? c, quad with
      | none, _ => a2b quad pads left rest
      | some v, 0 => a2b 1 0 v rest
      | some v, 1 => (a2b 2 0 (v % 16) rest).map (UInt8.ofNat (left * 4 + v / 16) :: ·)
      | some v, 2 => (a2b 3 0 (v % 4) rest).map (UInt8.ofNat (left * 16 + v / 4) :: ·)
      | some v, _ => (a2b 0 0 0 rest).map (UInt8.ofNat (left * 64 + v) :: ·)

/-! ## A digit on its own -/

variable {v : Nat}

theorem value?_digit (h : v < 64) : value? (digit v) = some v := by
  unfold digit value?
  split_ifs <;> first | omega | exact congrArg some (by omega)

/-- What a character of the text may be: not the padding, and ASCII. -/
def IsDigit (c : Nat) : Prop := c ≠ pad ∧ c < 128

theorem isDigit_digit (h : v < 64) : IsDigit (digit v) := by
  unfold IsDigit digit pad
  split_ifs <;> omega

/-- A digit is read as the part of the current four that it is. -/
theorem a2b_digit {v : Nat} (h : v < 64) (quad left : Nat) (rest : List Nat) :
    a2b quad 0 left (digit v :: rest) =
      match quad with
      | 0 => a2b 1 0 v rest
      | 1 => (a2b 2 0 (v % 16) rest).map (UInt8.ofNat (left * 4 + v / 16) :: ·)
      | 2 => (a2b 3 0 (v % 4) rest).map (UInt8.ofNat (left * 16 + v / 4) :: ·)
      | _ => (a2b 0 0 0 rest).map (UInt8.ofNat (left * 64 + v) :: ·) := by
  have hpad : digit v ≠ pad := (isDigit_digit h).1
  rcases quad with _ | _ | _ | quad <;> simp [a2b, hpad, value?_digit h]

theorem a2b_digit_0 (h : v < 64) (rest : List Nat) : a2b 0 0 0 (digit v :: rest) = a2b 1 0 v rest :=
  a2b_digit h 0 0 rest

variable {left : Nat}

theorem a2b_digit_1 (h : v < 64) (rest : List Nat) :
    a2b 1 0 left (digit v :: rest) =
      (a2b 2 0 (v % 16) rest).map (UInt8.ofNat (left * 4 + v / 16) :: ·) :=
  a2b_digit h 1 left rest

theorem a2b_digit_2 (h : v < 64) (rest : List Nat) :
    a2b 2 0 left (digit v :: rest) =
      (a2b 3 0 (v % 4) rest).map (UInt8.ofNat (left * 16 + v / 4) :: ·) :=
  a2b_digit h 2 left rest

theorem a2b_digit_3 (h : v < 64) (rest : List Nat) :
    a2b 3 0 left (digit v :: rest) =
      (a2b 0 0 0 rest).map (UInt8.ofNat (left * 64 + v) :: ·) :=
  a2b_digit h 3 left rest

theorem a2b_pad_2 (left : Nat) : a2b 2 0 left [pad, pad] = some [] := rfl

theorem a2b_pad_3 (left : Nat) : a2b 3 0 left [pad] = some [] := rfl

theorem ofNat_eq {n : Nat} {b : UInt8} (h : n = b.toNat) : UInt8.ofNat n = b := by
  rw [h, UInt8.ofNat_toNat]

/-! ## The round trip -/

variable (b : List UInt8)

/-- What was written is read back. -/
theorem a2b_b2a : a2b 0 0 0 (b2a b) = some b := by
  induction b using b2a.induct with
  | case1 => rfl
  | case2 a =>
    have ha : a.toNat < 256 := a.toNat_lt
    rw [b2a, a2b_digit_0 (by omega), a2b_digit_1 (by omega), a2b_pad_2]
    simp only [Option.map_some, Option.some.injEq, List.cons.injEq, and_true]
    exact ofNat_eq (by omega)
  | case3 a b =>
    have ha : a.toNat < 256 := a.toNat_lt
    have hb : b.toNat < 256 := b.toNat_lt
    rw [b2a, a2b_digit_0 (by omega), a2b_digit_1 (by omega), a2b_digit_2 (by omega), a2b_pad_3]
    simp only [Option.map_some, Option.some.injEq, List.cons.injEq, and_true]
    exact ⟨ofNat_eq (by omega), ofNat_eq (by omega)⟩
  | case4 a b c rest ih =>
    have ha : a.toNat < 256 := a.toNat_lt
    have hb : b.toNat < 256 := b.toNat_lt
    have hc : c.toNat < 256 := c.toNat_lt
    rw [b2a, a2b_digit_0 (by omega), a2b_digit_1 (by omega), a2b_digit_2 (by omega),
      a2b_digit_3 (by omega), ih]
    simp only [Option.map_some, Option.some.injEq, List.cons.injEq, and_true]
    exact ⟨ofNat_eq (by omega), ofNat_eq (by omega), ofNat_eq (by omega)⟩

/-! ## Without the padding -/

/-- The text without the padding at its end. -/
def unpadded (t : List Nat) : List Nat := (t.reverse.dropWhile (· = pad)).reverse

/-- A text padded to a multiple of four characters. -/
def padded (t : List Nat) : List Nat := t ++ List.replicate ((4 - t.length % 4) % 4) pad

/-- The characters of a text that are no padding. -/
def digits : List UInt8 → List Nat
  | [] => []
  | [a] => [digit (a.toNat / 4), digit (a.toNat % 4 * 16)]
  | [a, b] => [digit (a.toNat / 4), digit (a.toNat % 4 * 16 + b.toNat / 16), digit (b.toNat % 16 * 4)]
  | a :: b :: c :: rest =>
    digit (a.toNat / 4) :: digit (a.toNat % 4 * 16 + b.toNat / 16) ::
      digit (b.toNat % 16 * 4 + c.toNat / 64) :: digit (c.toNat % 64) :: digits rest

theorem b2a_eq_padded : b2a b = padded (digits b) := by
  induction b using b2a.induct with
  | case1 => rfl
  | case2 a => rfl
  | case3 a b => rfl
  | case4 a b c rest ih =>
    rw [b2a, digits, ih]
    simp only [padded, List.length_cons, List.cons_append, Nat.add_assoc, Nat.reduceAdd,
      Nat.add_mod_right]

/-- What holds of every digit holds of those that are written. -/
theorem forall_digits {P : Nat → Prop} (hdigit : ∀ v < 64, P (digit v)) (b : List UInt8) :
    ∀ d ∈ digits b, P d := by
  induction b using b2a.induct with
  | case1 => simp [digits]
  | case2 a =>
    have ha : a.toNat < 256 := a.toNat_lt
    simp only [digits, List.forall_mem_cons]
    exact ⟨hdigit _ (by omega), hdigit _ (by omega), by simp⟩
  | case3 a b =>
    have ha : a.toNat < 256 := a.toNat_lt
    have hb : b.toNat < 256 := b.toNat_lt
    simp only [digits, List.forall_mem_cons]
    exact ⟨hdigit _ (by omega), hdigit _ (by omega), hdigit _ (by omega), by simp⟩
  | case4 a b c rest ih =>
    have ha : a.toNat < 256 := a.toNat_lt
    have hb : b.toNat < 256 := b.toNat_lt
    have hc : c.toNat < 256 := c.toNat_lt
    simp only [digits, List.forall_mem_cons]
    exact ⟨hdigit _ (by omega), hdigit _ (by omega), hdigit _ (by omega), hdigit _ (by omega), ih⟩

theorem isDigit_digits : ∀ d ∈ digits b, IsDigit d :=
  forall_digits (fun _ => isDigit_digit) b

/-- The text holds digits of the alphabet only. -/
theorem isSome_digits : ∀ d ∈ digits b, (value? d).isSome := by
  refine forall_digits (fun v hv => ?_) b
  rw [value?_digit hv]
  rfl

theorem unpadded_padded {t : List Nat} (h : ∀ d ∈ t, d ≠ pad) : unpadded (padded t) = t := by
  have hdrop (n : Nat) : (List.replicate n pad ++ t.reverse).dropWhile (· = pad) =
      t.reverse.dropWhile (· = pad) := by
    simp
  have hkeep : t.reverse.dropWhile (· = pad) = t.reverse := by
    cases hr : t.reverse with
    | nil => rfl
    | cons d ds =>
      have hd : d ≠ pad := h d (by rw [← List.mem_reverse, hr]; exact List.mem_cons_self)
      simp [hd]
  unfold unpadded padded
  rw [List.reverse_append, List.reverse_replicate, hdrop, hkeep, List.reverse_reverse]

/-- Taking the padding off a written text leaves its digits. -/
theorem unpadded_b2a : unpadded (b2a b) = digits b := by
  rw [b2a_eq_padded, unpadded_padded fun d hd => (isDigit_digits b d hd).1]

/-- A written text is read back after its padding was taken off and put on again. -/
theorem a2b_padded_digits : a2b 0 0 0 (padded (digits b)) = some b := by
  rw [← b2a_eq_padded]
  exact a2b_b2a b

end base64
