-- The JSON values that an action and its metadata carry, and how the code reads texts, whole
-- numbers and floats out of them.
import Mathlib.Data.List.Sort
import Operious.Python

namespace operious.agents.tools

/-- A JSON value. Floats are of the type `F`. -/
inductive JsonValue (F : Type)
  | null
  | bool (b : Bool)
  | int (i : Int)
  | float (x : F)
  | str (s : String)
  | list (items : List (JsonValue F))
  | dict (items : List (String × JsonValue F))

abbrev JsonObject (F : Type) := Dict String (JsonValue F)

/-- What an arithmetic function of Python raises. -/
inductive ArithmeticException
  | value_error
  | overflow_error
  deriving DecidableEq, Repr

/-- What the code takes from the interpreter and stays a parameter: the arithmetic of floats, the
case map and the `repr` of a string, and the order in which a frozenset of strings is walked. -/
class Interpreter (F : Type) where
  zero : F
  /-- `a <= b`, which is false of a nan. -/
  le : F → F → Bool
  /-- `a < b`. -/
  lt : F → F → Bool
  /-- `bool(x)`. -/
  truthy : F → Bool
  /-- `float(i)`. It overflows when `i` is too large. -/
  ofInt : Int → Except ArithmeticException F
  /-- `float(text)`, or none where it raises `ValueError`. -/
  ofText : String → Option F
  /-- `round(x * 100)`. -/
  roundTimes100 : F → Except ArithmeticException Int
  lower : String → String
  repr : String → String
  setOrder : List String → List String

/-! ## `int(text)` -/

/-- The digits zero of Unicode. The other nine of each script follow it. -/
def decimalZeros : List Nat :=
  [0x30, 0x660, 0x6f0, 0x7c0, 0x966, 0x9e6, 0xa66, 0xae6, 0xb66, 0xbe6, 0xc66, 0xce6, 0xd66, 0xde6,
   0xe50, 0xed0, 0xf20, 0x1040, 0x1090, 0x17e0, 0x1810, 0x1946, 0x19d0, 0x1a80, 0x1a90, 0x1b50,
   0x1bb0, 0x1c40, 0x1c50, 0xa620, 0xa8d0, 0xa900, 0xa9d0, 0xa9f0, 0xaa50, 0xabf0, 0xff10, 0x104a0,
   0x10d30, 0x11066, 0x110f0, 0x11136, 0x111d0, 0x112f0, 0x11450, 0x114d0, 0x11650, 0x116c0,
   0x11730, 0x118e0, 0x11950, 0x11c50, 0x11d50, 0x11da0, 0x16a60, 0x16ac0, 0x16b50,
   0x1d7ce, 0x1d7d8, 0x1d7e2, 0x1d7ec, 0x1d7f6, 0x1e140, 0x1e2f0, 0x1e950, 0x1fbf0]

def digitValue (c : Char) : Option Nat :=
  (decimalZeros.find? fun z => z ≤ c.toNat && c.toNat ≤ z + 9).map (c.toNat - ·)

/-- The digits of a literal. One underscore may stand between two of them. -/
def literalDigits : List Char → Option (List Nat)
  | [] => none
  | [c] => (digitValue c).map ([·])
  | c :: '_' :: rest => (digitValue c).bind fun d => (literalDigits rest).map (d :: ·)
  | c :: rest => (digitValue c).bind fun d => (literalDigits rest).map (d :: ·)

/-- A literal of more digits than this raises `ValueError`. -/
def maxStrDigits : Nat := 4300

def natLiteral (cs : List Char) : Option Nat :=
  (literalDigits cs).bind fun digits =>
    if maxStrDigits < digits.length then none
    else some (digits.foldl (fun n d => 10 * n + d) 0)

/-- `int(text)`, or none where it raises `ValueError`. -/
def parseInt (text : String) : Option Int :=
  match (strip text).toList with
  | '-' :: cs => (natLiteral cs).map fun n => -(n : Int)
  | '+' :: cs => (natLiteral cs).map Int.ofNat
  | cs => (natLiteral cs).map Int.ofNat

example : parseInt " 1_000 " = some 1000 := by decide +kernel

/-! ## `sorted(texts)` -/

/-- The order of two texts by their code points. -/
def charsLe : List Char → List Char → Bool
  | [], _ => true
  | _ :: _, [] => false
  | a :: s, b :: t => a.toNat < b.toNat || (a.toNat == b.toNat && charsLe s t)

def sorted (texts : List String) : List String :=
  texts.insertionSort fun a b => charsLe a.toList b.toList = true

/-! ## Readers of a value -/

namespace JsonValue

variable {F : Type}

/-- `_text`: a string with more than white space, stripped. -/
def text : JsonValue F → Option String
  | str s => if (strip s).isEmpty then none else some (strip s)
  | _ => none

/-- `_int`: no booleans and no floats. -/
def int? : JsonValue F → Option Int
  | int i => some i
  | str s => parseInt s
  | _ => none

/-- `float(value)` of a value that may have one. An int that is too large raises. -/
def float? [Interpreter F] : JsonValue F → Except ArithmeticException (Option F)
  | int i => (Interpreter.ofInt i).map some
  | float x => .ok (some x)
  | str s => .ok (Interpreter.ofText s)
  | _ => .ok none

def scalar? : JsonValue F → Option (JsonValue F)
  | null => none
  | list _ => none
  | dict _ => none
  | value => some value

/-- `isinstance(value, Mapping)`. -/
def mapping? : JsonValue F → Option (JsonObject F)
  | dict items => some (Dict.ofList items)
  | _ => none

def ofOption : Option String → JsonValue F
  | some s => str s
  | none => null

end JsonValue

section

variable {F : Type}

/-- `_text(mapping.get(key))`. -/
def textAt (mapping : JsonObject F) (key : String) : Option String :=
  (mapping.get? key).bind JsonValue.text

/-- `_int(mapping.get(key))`. -/
def intAt (mapping : JsonObject F) (key : String) : Option Int :=
  (mapping.get? key).bind JsonValue.int?

/-- `_metadata_value`: a scalar other than `None`. -/
def metadataValue (mapping : JsonObject F) (key : String) : Option (JsonValue F) :=
  (mapping.get? key).bind JsonValue.scalar?

/-- `_metadata_float`. -/
def floatAt [Interpreter F] (mapping : JsonObject F) (key : String) :
    Except ArithmeticException (Option F) :=
  match mapping.get? key with
  | some value => value.float?
  | none => .ok none

end

/-! ## An interpreter whose floats are whole numbers, to run the model on -/

instance : Interpreter Int where
  zero := 0
  le a b := a ≤ b
  lt a b := a < b
  truthy a := a ≠ 0
  ofInt := .ok
  ofText := parseInt
  roundTimes100 a := .ok (100 * a)
  lower s := String.ofList ((ascii.chars s).map Char.toLower)
  repr s := "'" ++ s ++ "'"
  setOrder := id

end operious.agents.tools
