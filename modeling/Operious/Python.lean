-- What the code takes from Python and its standard library: aware datetimes, the values of a
-- metadata dict, ids made by uuid5, and the strip of a string.
import Mathlib.Data.Rat.Defs
import Mathlib.Tactic.Ring
import Mathlib.Data.List.DropRight
import Operious.Lib.Dict
import Operious.Lib.Utf8

namespace operious

/-- An aware datetime: the microseconds of its instant. Two of them compare as instants. -/
abbrev Instant := Int

/-- A value of a metadata dict. The code only ever reads scalars back from one. -/
inductive Value
  | none
  | bool (b : Bool)
  | int (i : Int)
  | str (s : String)
  deriving DecidableEq, Repr

abbrev Metadata := Dict String Value

def Value.ofOptStr : Option String → Value
  | some s => .str s
  | .none => .none

/-- `a or b` for optional strings: `None` and the empty string both give way to `b`. -/
def orStr (a b : Option String) : Option String :=
  match a with
  | some s => if s.isEmpty then b else some s
  | none => b

/-- The white space of `str.strip()`. -/
def isSpace (c : Char) : Bool :=
  let n := c.toNat
  (9 ≤ n && n ≤ 13) || (28 ≤ n && n ≤ 32) || n == 0x85 || n == 0xa0 || n == 0x1680 ||
    (0x2000 ≤ n && n ≤ 0x200a) || n == 0x2028 || n == 0x2029 || n == 0x202f || n == 0x205f ||
    n == 0x3000

/-- `s.strip()`. -/
def strip (s : String) : String :=
  String.ofList ((((ascii.chars s).dropWhile isSpace).reverse.dropWhile isSpace).reverse)

theorem strip_toList (s : String) :
    (strip s).toList = (s.toList.dropWhile isSpace).rdropWhile isSpace := by
  simp [strip, List.rdropWhile, ascii.chars_eq_toList]

theorem strip_ofList (l : List Char) : strip (String.ofList l) =
    String.ofList (((l.dropWhile isSpace).reverse.dropWhile isSpace).reverse) := by
  rw [strip, ascii.chars_eq_toList, String.toList_ofList]

@[simp] theorem strip_strip (s : String) : strip (strip s) = strip s := by
  apply String.toList_injective
  rw [strip_toList, strip_toList]
  set t := s.toList.dropWhile isSpace with ht
  have hhead : (t.rdropWhile isSpace).dropWhile isSpace = t.rdropWhile isSpace := by
    rw [List.dropWhile_eq_self_iff]
    intro hpos
    have hprefix := List.rdropWhile_prefix isSpace t
    have hlen : 0 < t.length := Nat.lt_of_lt_of_le hpos hprefix.length_le
    have hget : (t.rdropWhile isSpace)[0] = t[0] := hprefix.getElem hpos
    rw [hget]
    exact List.dropWhile_eq_self_iff.mp (by rw [ht]; exact List.dropWhile_idempotent _ _) hlen
  rw [hhead, List.rdropWhile_idempotent]

theorem strip_eq_self {s : String} (h : ∀ c ∈ s.toList, isSpace c = false) : strip s = s := by
  apply String.toList_injective
  rw [strip_toList]
  have hdrop : s.toList.dropWhile isSpace = s.toList := by
    rw [List.dropWhile_eq_self_iff]
    intro hpos
    simp [h _ (List.getElem_mem hpos)]
  rw [hdrop, List.rdropWhile_eq_self_iff]
  intro hne
  simp [h _ (List.getLast_mem hne)]

theorem bind_eq_ok {ε α β : Type} {x : Except ε α} {f : α → Except ε β} {b : β} :
    (x >>= f) = .ok b ↔ ∃ a, x = .ok a ∧ f a = .ok b := by
  cases x with
  | error e => simp [bind, Except.bind]
  | ok a => simp [bind, Except.bind]

/-- The functions of the standard library that the code calls and that stay parameters: the
hash behind `uuid5`, the text of an id and of a datetime, and the case map of Unicode. -/
class Stdlib (Uuid : Type) where
  /-- `uuid.UUID(hex)` for the namespace constants. -/
  uuid : String → Uuid
  uuid5 : Uuid → String → Uuid
  /-- `str(id)`. -/
  str : Uuid → String
  isoformat : Instant → String
  /-- `datetime.fromisoformat`, for the texts that name an aware datetime. -/
  fromisoformat : String → Option Instant
  /-- `int(text)`. -/
  parseInt : String → Option Int
  lower : String → String

/-- What the code relies on: `uuid5` has no collisions in one namespace, and the text of an id
is its own and has no bar. -/
class LawfulStdlib (Uuid : Type) [Stdlib Uuid] : Prop where
  uuid5_inj : ∀ (ns : Uuid) {a b : String},
    Stdlib.uuid5 ns a = Stdlib.uuid5 ns b → a = b
  str_inj : ∀ {u v : Uuid}, Stdlib.str u = Stdlib.str v → u = v
  str_no_bar : ∀ u : Uuid, '|' ∉ (Stdlib.str u).toList

/-- A text of ASCII characters without capitals is its own lower case. -/
class AsciiLower (Uuid : Type) [Stdlib Uuid] : Prop where
  lower_ascii : ∀ s : String, (∀ c ∈ s.toList, c.toNat < 128 ∧ c.isUpper = false) →
    Stdlib.lower Uuid s = s

/-! ## Seeds: fields joined with a bar -/

theorem cut_at_bar {a a' b b' : List Char} (ha : '|' ∉ a) (ha' : '|' ∉ a')
    (h : a ++ '|' :: b = a' ++ '|' :: b') : a = a' ∧ b = b' := by
  induction a generalizing a' with
  | nil =>
    cases a' with
    | nil => simpa using h
    | cons c cs =>
      simp only [List.nil_append, List.cons_append, List.cons.injEq] at h
      exact absurd (h.1 ▸ List.mem_cons_self) ha'
  | cons c cs ih =>
    cases a' with
    | nil =>
      simp only [List.nil_append, List.cons_append, List.cons.injEq] at h
      exact absurd (h.1 ▸ List.mem_cons_self) ha
    | cons c' cs' =>
      simp only [List.cons_append, List.cons.injEq] at h
      obtain ⟨rfl, h⟩ := h
      obtain ⟨rfl, rfl⟩ := ih (fun hm => ha (List.mem_cons_of_mem _ hm))
        (fun hm => ha' (List.mem_cons_of_mem _ hm)) h
      exact ⟨rfl, rfl⟩

theorem cut_at_last_bar {a a' b b' : List Char} (hb : '|' ∉ b) (hb' : '|' ∉ b')
    (h : a ++ '|' :: b = a' ++ '|' :: b') : a = a' ∧ b = b' := by
  have hr := congrArg List.reverse h
  simp only [List.reverse_append, List.reverse_cons, List.append_assoc, List.singleton_append] at hr
  obtain ⟨h1, h2⟩ := cut_at_bar (by simpa using hb) (by simpa using hb') hr
  exact ⟨List.reverse_injective h2, List.reverse_injective h1⟩

theorem repr_no_bar (n : Nat) : '|' ∉ n.repr.toList := by
  intro h
  have hd := Nat.isDigit_of_mem_toDigits (b := 10) (by omega) (by omega) (c := '|') (n := n)
    (by simpa [Nat.repr] using h)
  simp [Char.isDigit] at hd

theorem repr_inj {m n : Nat} (h : m.repr = n.repr) : m = n := by
  have hd := congrArg (fun s => Nat.ofDigitChars 10 s.toList 0) h
  simpa [Nat.repr] using hd

/-! ## A standard library over plain texts, to run the model on -/

/-- A bar as two characters that hold none. -/
def escapeBar (c : Char) : List Char :=
  if c = '|' then ['~', 'b'] else if c = '~' then ['~', 't'] else [c]

theorem escapeBar_append_inj {c d : Char} {x y : List Char}
    (h : escapeBar c ++ x = escapeBar d ++ y) : c = d ∧ x = y := by
  unfold escapeBar at h
  split_ifs at h <;> grind

theorem bar_not_mem_escapeBar (c : Char) : '|' ∉ escapeBar c := by
  unfold escapeBar
  split_ifs <;> grind

theorem flatMap_escapeBar_inj {a b : List Char}
    (h : a.flatMap escapeBar = b.flatMap escapeBar) : a = b := by
  induction a generalizing b with
  | nil =>
    cases b with
    | nil => rfl
    | cons d ds =>
      simp only [List.flatMap_nil, List.flatMap_cons, escapeBar] at h
      split_ifs at h <;> simp at h
  | cons c cs ih =>
    cases b with
    | nil =>
      simp only [List.flatMap_nil, List.flatMap_cons, escapeBar] at h
      split_ifs at h <;> simp at h
    | cons d ds =>
      simp only [List.flatMap_cons] at h
      obtain ⟨rfl, hrest⟩ := escapeBar_append_inj h
      rw [ih hrest]

def readInt (s : String) : Option Int :=
  let nat (ds : List Char) : Option Nat :=
    if ds.isEmpty || !ds.all Char.isDigit then none else some (Nat.ofDigitChars 10 ds 0)
  match ascii.chars s with
  | '-' :: ds => (nat ds).map fun n => -(n : Int)
  | ds => (nat ds).map Int.ofNat

instance : Stdlib String where
  uuid := id
  uuid5 _ name := name
  str u := String.ofList ((ascii.chars u).flatMap escapeBar)
  isoformat := Int.repr
  fromisoformat := readInt
  parseInt := readInt
  lower s := String.ofList ((ascii.chars s).map Char.toLower)

instance : AsciiLower String where
  lower_ascii s h := by
    have hmap : s.toList.map Char.toLower = s.toList.map id := by
      refine List.map_congr_left fun c hc => ?_
      exact dif_neg (of_decide_eq_false (h c hc).2)
    simp [Stdlib.lower, hmap, ascii.chars_eq_toList]

instance : LawfulStdlib String where
  uuid5_inj _ _ _ h := h
  str_inj h := by
    simp only [Stdlib.str, ascii.chars_eq_toList] at h
    exact String.toList_injective (flatMap_escapeBar_inj (String.ofList_injective h))
  str_no_bar u h := by
    simp only [Stdlib.str, String.toList_ofList, List.mem_flatMap] at h
    obtain ⟨c, -, hc⟩ := h
    exact bar_not_mem_escapeBar c hc

end operious
