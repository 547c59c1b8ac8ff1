-- JSON as the standard library reads and writes it: a writer of flat objects with sorted keys and
-- everything outside ASCII escaped, and a reader of all values. Texts are code points.
import Mathlib.Data.List.Sort
import Operious.Lib.Dict
import Operious.Lib.Utf8

namespace json

open utf8

/-- A value. A number is kept as its literal, and an object as its items in their order: the
reader builds no object that has a key twice. -/
inductive Json
  | null
  | bool (b : Bool)
  | num (literal : Text)
  | str (t : Text)
  | list (xs : List Json)
  | dict (items : List (Text × Json))

/-! ## The writer -/

/-- A hexadecimal digit, in lower case. -/
def hexDigit (v : Nat) : Nat := if v < 10 then v + 48 else v + 87

/-- `\uXXXX`. -/
def escapeUnit (u : Nat) : Text :=
  [92, 117, hexDigit (u / 4096), hexDigit (u / 256 % 16), hexDigit (u / 16 % 16), hexDigit (u % 16)]

def escape (c : Nat) : Text :=
  if c = 34 then [92, 34]
  else if c = 92 then [92, 92]
  else if c = 10 then [92, 110]
  else if c = 13 then [92, 114]
  else if c = 9 then [92, 116]
  else if c = 12 then [92, 102]
  else if c = 8 then [92, 98]
  else if 32 ≤ c ∧ c ≤ 126 then [c]
  else if c < 0x10000 then escapeUnit c
  else escapeUnit (0xd800 + (c - 0x10000) / 1024) ++ escapeUnit (0xdc00 + (c - 0x10000) % 1024)

def quote (t : Text) : Text := 34 :: (t.flatMap escape ++ [34])

/-- The items of an object, with a comma between two of them. -/
def joinItems : List (Text × Text) → Text
  | [] => []
  | [(k, v)] => quote k ++ 58 :: quote v
  | (k, v) :: rest => quote k ++ 58 :: (quote v ++ 44 :: joinItems rest)

/-- The order of two texts by their code points. -/
def textLe : Text → Text → Bool
  | [], _ => true
  | _ :: _, [] => false
  | a :: s, b :: t => a < b || (a == b && textLe s t)

/-- The items in the order of their keys. -/
def sorted (items : List (Text × Text)) : List (Text × Text) :=
  items.insertionSort fun a b => textLe a.1 b.1 = true

/-- `dumps(value, sort_keys=True, separators=(",", ":"))` of an object of texts. -/
def dumps (items : List (Text × Text)) : Text := 123 :: (joinItems (sorted items) ++ [125])

/-! ## The reader -/

def hexValue? (c : Nat) : Option Nat :=
  if 48 ≤ c ∧ c ≤ 57 then some (c - 48)
  else if 97 ≤ c ∧ c ≤ 102 then some (c - 87)
  else if 65 ≤ c ∧ c ≤ 70 then some (c - 55)
  else none

/-- The unit of four hexadecimal digits, and what follows it. -/
def readUnit : Text → Option (Nat × Text)
  | a :: b :: c :: d :: rest => do
    let a ← hexValue? a
    let b ← hexValue? b
    let c ← hexValue? c
    let d ← hexValue? d
    some (a * 4096 + b * 256 + c * 16 + d, rest)
  | _ => none

/-- A high surrogate joins the low one that is escaped right after it. -/
def joined (u : Nat) (rest : Text) : Nat × Text :=
  if 0xd800 ≤ u ∧ u ≤ 0xdbff then
    match rest with
    | 92 :: 117 :: rest' =>
      match readUnit rest' with
      | some (v, rest') =>
        if 0xdc00 ≤ v ∧ v ≤ 0xdfff then (0x10000 + (u - 0xd800) * 1024 + (v - 0xdc00), rest')
        else (u, rest)
      | none => (u, rest)
    | _ => (u, rest)
  else (u, rest)

/-- The character of an escape other than `\u`. -/
def unescape (e : Nat) : Option Nat :=
  if e = 34 ∨ e = 92 ∨ e = 47 then some e
  else if e = 98 then some 8
  else if e = 102 then some 12
  else if e = 110 then some 10
  else if e = 114 then some 13
  else if e = 116 then some 9
  else none

/-- The text up to the closing quote, and what follows it. Control characters are refused. Each
step takes a character, so the length of the input is fuel enough. -/
def scanString : Nat → Text → Option (Text × Text)
  | 0, _ => none
  | _, [] => none
  | n + 1, c :: rest =>
    if c = 34 then some ([], rest)
    else if c = 92 then
      match rest with
      | [] => none
      | e :: rest =>
        if e = 117 then do
          let (u, rest) ← readUnit rest
          let (c, rest) := joined u rest
          let (t, rest) ← scanString n rest
          some (c :: t, rest)
        else do
          let c ← unescape e
          let (t, rest) ← scanString n rest
          some (c :: t, rest)
    else if c < 32 then none
    else do
      let (t, rest) ← scanString n rest
      some (c :: t, rest)

def isDigit (c : Nat) : Bool := 48 ≤ c && c ≤ 57

def skipSpace (t : Text) : Text := t.dropWhile fun c => c = 32 || c = 9 || c = 10 || c = 13

/-- The digits of an exponent after its sign, if a digit is there. -/
def exponent (t : Text) : Text :=
  match t with
  | e :: rest =>
    if e = 101 ∨ e = 69 then
      match rest with
      | s :: ds =>
        if (s = 43 ∨ s = 45) ∧ (ds.takeWhile isDigit).length ≠ 0 then e :: s :: ds.takeWhile isDigit
        else if isDigit s then e :: rest.takeWhile isDigit
        else []
      | [] => []
    else []
  | [] => []

def fraction (t : Text) : Text :=
  match t with
  | 46 :: ds => if (ds.takeWhile isDigit).length = 0 then [] else 46 :: ds.takeWhile isDigit
  | _ => []

/-- A number at the front of the text. An integer of more digits than `int` takes is refused. -/
def scanNumber (t : Text) : Option (Json × Text) :=
  let sign : Text := if t.head? = some 45 then [45] else []
  let t' := t.drop sign.length
  let whole := if t'.head? = some 48 then [48] else t'.takeWhile isDigit
  let frac := fraction (t'.drop whole.length)
  let exp := exponent (t'.drop (whole.length + frac.length))
  if whole.length = 0 ∨ (frac.length = 0 ∧ exp.length = 0 ∧ 4300 < whole.length) then none
  else
    some (.num (sign ++ whole ++ frac ++ exp),
      t'.drop (whole.length + frac.length + exp.length))

/-- The words that stand for a value. -/
def words : List (Text × Json) :=
  [(ofString "null", .null), (ofString "true", .bool true), (ofString "false", .bool false),
    (ofString "NaN", .num (ofString "NaN")), (ofString "Infinity", .num (ofString "Infinity")),
    (ofString "-Infinity", .num (ofString "-Infinity"))]

def scanLiteral (t : Text) : Option (Json × Text) :=
  match words.find? fun w => w.1.isPrefixOf t with
  | some (w, v) => some (v, t.drop w.length)
  | none => scanNumber t

mutual

/-- The value at the front of the text, and what follows it. The fuel bounds the characters. -/
def scanValue : Nat → Text → Option (Json × Text)
  | 0, _ => none
  | n + 1, t =>
    match t with
    | [] => none
    | c :: rest =>
      if c = 34 then (scanString rest.length rest).map fun (t, rest) => (.str t, rest)
      else if c = 123 then
        match skipSpace rest with
        | 125 :: rest => some (.dict [], rest)
        | rest => scanItems n [] rest
      else if c = 91 then
        match skipSpace rest with
        | 93 :: rest => some (.list [], rest)
        | rest => scanElements n [] rest
      else scanLiteral t

/-- The items of an object after those read, up to its brace. Of two values of a key the later
one counts. -/
def scanItems : Nat → List (Text × Json) → Text → Option (Json × Text)
  | 0, _, _ => none
  | n + 1, items, t =>
    match t with
    | [] => none
    | c :: rest =>
      if c = 34 then do
        let (key, rest) ← scanString rest.length rest
        match skipSpace rest with
        | 58 :: rest => do
          let (value, rest) ← scanValue n (skipSpace rest)
          match skipSpace rest with
          | 125 :: rest => some (.dict (Dict.put key value items), rest)
          | 44 :: rest => scanItems n (Dict.put key value items) (skipSpace rest)
          | _ => none
        | _ => none
      else none

def scanElements : Nat → List Json → Text → Option (Json × Text)
  | 0, _, _ => none
  | n + 1, xs, t => do
    let (value, rest) ← scanValue n t
    match skipSpace rest with
    | 93 :: rest => some (.list (xs ++ [value]), rest)
    | 44 :: rest => scanElements n (xs ++ [value]) (skipSpace rest)
    | _ => none

end

/-- `loads` of a decoded text: one value and nothing else. -/
def loads (t : Text) : Option Json :=
  match scanValue (t.length + 1) (skipSpace t) with
  | some (v, rest) => if skipSpace rest = [] then some v else none
  | none => none

/-! ## The round trip of a text -/

variable {v : Nat}

theorem hexValue?_hexDigit (h : v < 16) : hexValue? (hexDigit v) = some v := by
  unfold hexDigit hexValue?
  split_ifs <;> first | omega | exact congrArg some (by omega)

variable {u : Nat}

theorem readUnit_hexDigits (h : u < 0x10000) (rest : Text) :
    readUnit (hexDigit (u / 4096) :: hexDigit (u / 256 % 16) :: hexDigit (u / 16 % 16) ::
      hexDigit (u % 16) :: rest) = some (u, rest) := by
  simp only [readUnit]
  rw [hexValue?_hexDigit (by omega), hexValue?_hexDigit (by omega), hexValue?_hexDigit (by omega),
    hexValue?_hexDigit (by omega)]
  simp only [Option.bind_eq_bind, Option.bind_some, Option.some.injEq, Prod.mk.injEq, and_true]
  omega

/-- A unit that is no high surrogate stands for itself. -/
theorem joined_self (h : ¬ (0xd800 ≤ u ∧ u ≤ 0xdbff)) (rest : Text) :
    joined u rest = (u, rest) := by
  unfold joined
  rw [if_neg h]

/-- A high surrogate and a low one are one character. -/
theorem joined_pair (hu : 0xd800 ≤ u ∧ u ≤ 0xdbff) (hv : 0xdc00 ≤ v ∧ v ≤ 0xdfff) (rest : Text) :
    joined u (escapeUnit v ++ rest) =
      (0x10000 + (u - 0xd800) * 1024 + (v - 0xdc00), rest) := by
  have hread := readUnit_hexDigits (u := v) (by omega) rest
  simp only [joined, escapeUnit, List.cons_append, List.nil_append, hu, hread, hv, and_self, if_true]

variable {c : Nat}

theorem pair_eq (h : 0x10000 ≤ c) :
    0x10000 + (0xd800 + (c - 0x10000) / 1024 - 0xd800) * 1024 +
      (0xdc00 + (c - 0x10000) % 1024 - 0xdc00) = c := by
  omega

variable {n : Nat}

theorem scanString_unit (h : u < 0x10000) (rest : Text) :
    scanString (n + 1) (escapeUnit u ++ rest) =
      (scanString n (joined u rest).2).map fun p => ((joined u rest).1 :: p.1, p.2) := by
  simp only [escapeUnit, List.cons_append, List.nil_append, scanString]
  rw [readUnit_hexDigits h]
  cases hs : scanString n (joined u rest).2 <;> simp [hs]

/-- The reader takes an escaped character in one step. -/
theorem scanString_escape (h : c.isValidChar) (n : Nat) (rest : Text) :
    scanString (n + 1) (escape c ++ rest) =
      (scanString n rest).map fun p => (c :: p.1, p.2) := by
  have hvalid : c < 0xd800 ∨ (0xdfff < c ∧ c < 0x110000) := h
  unfold escape
  split_ifs with h1 h2 h3 h4 h5 h6 h7 h8 h9
  · subst h1
    cases hs : scanString n rest <;> simp [scanString, unescape, hs]
  · subst h2
    cases hs : scanString n rest <;> simp [scanString, unescape, hs]
  · subst h3
    cases hs : scanString n rest <;> simp [scanString, unescape, hs]
  · subst h4
    cases hs : scanString n rest <;> simp [scanString, unescape, hs]
  · subst h5
    cases hs : scanString n rest <;> simp [scanString, unescape, hs]
  · subst h6
    cases hs : scanString n rest <;> simp [scanString, unescape, hs]
  · subst h7
    cases hs : scanString n rest <;> simp [scanString, unescape, hs]
  · -- a printable character is written as itself
    have hlow : ¬ c < 32 := by omega
    cases hs : scanString n rest <;> simp [scanString, h1, h2, hlow, hs]
  · rw [scanString_unit h9, joined_self (by omega)]
  · have h9' : 0x10000 ≤ c := by omega
    rw [List.append_assoc, scanString_unit (by omega), joined_pair (by omega) (by omega),
      pair_eq h9']

variable {t : Text}

theorem scanString_escaped (h : Encodable t) (hn : t.length < n) (rest : Text) :
    scanString n (t.flatMap escape ++ 34 :: rest) = some (t, rest) := by
  induction t generalizing n with
  | nil =>
    obtain ⟨n, rfl⟩ := Nat.exists_eq_succ_of_ne_zero (Nat.ne_of_gt hn)
    simp [scanString]
  | cons c t ih =>
    obtain ⟨n, rfl⟩ := Nat.exists_eq_succ_of_ne_zero (Nat.ne_of_gt (Nat.zero_lt_of_lt hn))
    have hc : c.isValidChar := h c List.mem_cons_self
    have ht : Encodable t := fun m hm => h m (List.mem_cons_of_mem _ hm)
    rw [List.flatMap_cons, List.append_assoc, scanString_escape hc,
      ih ht (by simpa using hn)]
    rfl

theorem escape_ne_nil (c : Nat) : escape c ≠ [] := by
  unfold escape escapeUnit
  split_ifs <;> simp

theorem length_le_escaped (t : Text) : t.length ≤ (t.flatMap escape).length := by
  induction t with
  | nil => simp
  | cons c t ih =>
    have hc : 0 < (escape c).length := List.length_pos_iff.mpr (escape_ne_nil c)
    simp only [List.flatMap_cons, List.length_append, List.length_cons]
    omega

/-- A quoted text is read back by the step that its quote starts. -/
theorem scanString_quoted (h : Encodable t) (rest : Text) :
    scanString (t.flatMap escape ++ 34 :: rest).length (t.flatMap escape ++ 34 :: rest) =
      some (t, rest) := by
  have hle := length_le_escaped t
  refine scanString_escaped h ?_ rest
  simp only [List.length_append, List.length_cons]
  omega

/-! ## The round trip of an object -/

theorem skipSpace_quote (t rest : Text) : skipSpace (quote t ++ rest) = quote t ++ rest := by
  simp [skipSpace, quote]

theorem scanValue_quote (h : Encodable t) (n : Nat) (rest : Text) :
    scanValue (n + 1) (quote t ++ rest) = some (.str t, rest) := by
  simp only [quote, List.cons_append, List.append_assoc, List.nil_append, scanValue, if_true]
  rw [scanString_quoted h]
  rfl

/-- What the reader does after the key and the value of an item. -/
def afterItem (n : Nat) (items : List (Text × Json)) (rest : Text) : Option (Json × Text) :=
  match skipSpace rest with
  | 125 :: rest => some (.dict items, rest)
  | 44 :: rest => scanItems n items (skipSpace rest)
  | _ => none

theorem scanItems_item {k v : Text} (hk : Encodable k) (hv : Encodable v) (n : Nat)
    (items : List (Text × Json)) (rest : Text) :
    scanItems (n + 2) items (quote k ++ 58 :: (quote v ++ rest)) =
      afterItem (n + 1) (Dict.put k (.str v) items) rest := by
  have hkey : quote k ++ 58 :: (quote v ++ rest) =
      34 :: (k.flatMap escape ++ 34 :: (58 :: (quote v ++ rest))) := by
    simp [quote]
  have hcolon : skipSpace (58 :: (quote v ++ rest)) = 58 :: (quote v ++ rest) := rfl
  rw [hkey, scanItems]
  simp only [if_true, scanString_quoted hk, Option.bind_eq_bind, Option.bind_some, hcolon,
    skipSpace_quote, scanValue_quote hv]
  rfl

variable {items : List (Text × Text)}

/-- Written items start with a quote, so no space is skipped before them. -/
theorem joinItems_head (hne : items ≠ []) : ∃ t, joinItems items = 34 :: t := by
  match items with
  | [] => exact absurd rfl hne
  | [(k, v)] => exact ⟨_, by simp [joinItems, quote]; rfl⟩
  | (k, v) :: q :: items => exact ⟨_, by simp [joinItems, quote]; rfl⟩

theorem skipSpace_join (hne : items ≠ []) (rest : Text) :
    skipSpace (joinItems items ++ rest) = joinItems items ++ rest := by
  obtain ⟨t, ht⟩ := joinItems_head hne
  rw [ht]
  rfl

theorem scanItems_join (hne : items ≠ []) (henc : ∀ p ∈ items, Encodable p.1 ∧ Encodable p.2)
    (hn : items.length < n) (acc : List (Text × Json))
    (hd : (acc.map Prod.fst ++ items.map Prod.fst).Nodup) (rest : Text) :
    scanItems n acc (joinItems items ++ 125 :: rest) =
      some (.dict (acc ++ items.map fun p => (p.1, .str p.2)), rest) := by
  induction items generalizing n acc with
  | nil => exact absurd rfl hne
  | cons p items ih =>
    obtain ⟨k, v⟩ := p
    obtain ⟨n, rfl⟩ : ∃ m, n = m + 2 := ⟨n - 2, by simp at hn; omega⟩
    obtain ⟨hk, hv⟩ := henc (k, v) List.mem_cons_self
    have hfresh : k ∉ acc.map Prod.fst := by
      intro hm
      exact (List.nodup_append.mp hd).2.2 k hm k List.mem_cons_self rfl
    cases items with
    | nil =>
      simp only [joinItems, List.append_assoc, List.cons_append]
      rw [scanItems_item hk hv, Dict.put_fresh hfresh]
      rfl
    | cons q items =>
      have hd' : ((acc ++ [(k, Json.str v)]).map Prod.fst ++ (q :: items).map Prod.fst).Nodup := by
        simpa using hd
      simp only [joinItems, List.append_assoc, List.cons_append]
      rw [scanItems_item hk hv, Dict.put_fresh hfresh]
      have hcomma : ∀ t, afterItem (n + 1) (acc ++ [(k, .str v)]) (44 :: t) =
          scanItems (n + 1) (acc ++ [(k, .str v)]) (skipSpace t) := fun t => rfl
      rw [hcomma, skipSpace_join (List.cons_ne_nil q items),
        ih (List.cons_ne_nil q items) (fun p hp => henc p (List.mem_cons_of_mem _ hp))
          (by simpa using hn) _ hd']
      simp

theorem length_joinItems (items : List (Text × Text)) : items.length ≤ (joinItems items).length := by
  match items with
  | [] => exact Nat.le_refl 0
  | [(k, v)] => simp [joinItems, quote]
  | (k, v) :: q :: items =>
    have ih := length_joinItems (q :: items)
    simp only [joinItems, List.length_append, List.length_cons] at ih ⊢
    omega

/-- An object of texts that was written is read back, its items sorted. -/
theorem loads_dumps (hne : items ≠ []) (henc : ∀ p ∈ items, Encodable p.1 ∧ Encodable p.2)
    (hd : (items.map Prod.fst).Nodup) :
    loads (dumps items) = some (.dict ((sorted items).map fun p => (p.1, .str p.2))) := by
  have hperm : (sorted items).Perm items := List.perm_insertionSort _ _
  have hne' : sorted items ≠ [] := fun h => hne (List.Perm.nil_eq (h ▸ hperm)).symm
  have hlen := length_joinItems (sorted items)
  have hscan := scanItems_join hne' (fun p hp => henc p (hperm.mem_iff.mp hp))
    (n := (joinItems (sorted items)).length + 2) (by omega) []
    (by simpa using (hperm.map Prod.fst).nodup_iff.mpr hd) []
  have hvalue : scanValue ((dumps items).length + 1) (dumps items) =
      scanItems ((joinItems (sorted items)).length + 2) []
        (joinItems (sorted items) ++ [125]) := by
    obtain ⟨t, ht⟩ := joinItems_head hne'
    simp only [dumps, ht, List.length_cons, List.length_append, List.length_nil]
    rfl
  have hbrace : skipSpace (dumps items) = dumps items := rfl
  unfold loads
  rw [hbrace, hvalue, hscan]
  rfl

/-- What a lookup finds in a written object once it is read back. -/
theorem find_sorted (hd : (items.map Prod.fst).Nodup) (k : Text) :
    Dict.find k ((sorted items).map fun p => (p.1, Json.str p.2)) =
      (Dict.find k items).map .str := by
  have hperm : (sorted items).Perm items := List.perm_insertionSort _ _
  rw [Dict.find_map_values, Dict.find_perm hperm ((hperm.map Prod.fst).nodup_iff.mpr hd)]

/-! ## What is written is ASCII -/

/-- A character that JSON may hold as it is, on one byte. -/
def Ascii (t : Text) : Prop := ∀ c ∈ t, 0 < c ∧ c < 128

theorem ascii_append {t u : Text} : Ascii (t ++ u) ↔ Ascii t ∧ Ascii u := List.forall_mem_append

theorem ascii_cons : Ascii (c :: t) ↔ (0 < c ∧ c < 128) ∧ Ascii t :=
  List.forall_mem_cons

theorem ascii_nil : Ascii [] := fun _ h => nomatch h

theorem hexDigit_ascii (h : v < 16) : 0 < hexDigit v ∧ hexDigit v < 128 := by
  unfold hexDigit
  split_ifs <;> omega

theorem escapeUnit_ascii (h : u < 0x10000) : Ascii (escapeUnit u) := by
  simp only [escapeUnit, ascii_cons, ascii_nil, and_true]
  exact ⟨by omega, by omega, hexDigit_ascii (by omega), hexDigit_ascii (by omega),
    hexDigit_ascii (by omega), hexDigit_ascii (by omega)⟩

theorem escape_ascii (h : c.isValidChar) : Ascii (escape c) := by
  have hvalid : c < 0xd800 ∨ (0xdfff < c ∧ c < 0x110000) := h
  unfold escape
  split_ifs with h1 h2 h3 h4 h5 h6 h7 h8 h9
  iterate 7 exact ascii_cons.mpr ⟨by omega, ascii_cons.mpr ⟨by omega, ascii_nil⟩⟩
  · exact ascii_cons.mpr ⟨by omega, ascii_nil⟩
  · exact escapeUnit_ascii h9
  · exact ascii_append.mpr ⟨escapeUnit_ascii (by omega), escapeUnit_ascii (by omega)⟩

theorem quote_ascii (h : Encodable t) : Ascii (quote t) := by
  have hescaped : Ascii (t.flatMap escape) := by
    intro c hc
    obtain ⟨d, hd, hcd⟩ := List.mem_flatMap.mp hc
    exact escape_ascii (h d hd) c hcd
  simp only [quote, ascii_cons, ascii_append, ascii_nil, and_true]
  exact ⟨by omega, hescaped, by omega⟩

theorem dumps_ascii (henc : ∀ p ∈ items, Encodable p.1 ∧ Encodable p.2) : Ascii (dumps items) := by
  have hjoin : ∀ l : List (Text × Text), (∀ p ∈ l, Encodable p.1 ∧ Encodable p.2) →
      Ascii (joinItems l) := by
    intro l hl
    induction l using joinItems.induct with
    | case1 => exact ascii_nil
    | case2 k v =>
      obtain ⟨hk, hv⟩ := hl (k, v) List.mem_cons_self
      simp only [joinItems, ascii_append, ascii_cons]
      exact ⟨quote_ascii hk, by omega, quote_ascii hv⟩
    | case3 k v rest hne ih =>
      obtain ⟨hk, hv⟩ := hl (k, v) List.mem_cons_self
      obtain ⟨q, rest, rfl⟩ := List.exists_cons_of_ne_nil fun h => hne h
      simp only [joinItems, ascii_append, ascii_cons]
      exact ⟨quote_ascii hk, by omega, quote_ascii hv, by omega,
        ih fun p hp => hl p (List.mem_cons_of_mem _ hp)⟩
  have hperm : (sorted items).Perm items := List.perm_insertionSort _ _
  simp only [dumps, ascii_cons, ascii_append, ascii_nil, and_true]
  exact ⟨by omega, hjoin _ fun p hp => henc p (hperm.mem_iff.mp hp), by omega⟩

end json
