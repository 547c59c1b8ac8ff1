-- Regular expressions that repeat single characters only, and whether a text holds a match.
import Operious.Lib.Utf8

/-- A regular expression over characters of type `α`. -/
inductive Regex (α : Type*)
  | empty
  | one (p : α → Bool)
  /-- At most `most` characters, or any number of them. -/
  | run (p : α → Bool) (most : Option Nat)
  /-- The border of a word. -/
  | border
  | seq (r s : Regex α)
  | alt (r s : Regex α)

namespace Regex

variable {α : Type*}

/-- The expressions one after the other. -/
def cat (rs : List (Regex α)) : Regex α := rs.foldr seq empty

def opt (r : Regex α) : Regex α := alt r empty

/-- One of the expressions. -/
def oneOf : List (Regex α) → Regex α
  | [] => one fun _ => false
  | [r] => r
  | r :: rs => alt r (oneOf rs)

def text (s : String) : Regex Char := cat ((ascii.chars s).map fun c => one (· = c))

/-- A text whose characters are matched as `same` says. -/
def textBy (same : Char → Char → Bool) (s : String) : Regex Char :=
  cat ((ascii.chars s).map fun c => one (same c))

def texts (ss : List String) : Regex Char := oneOf (ss.map text)

/-- A place in a text: the character before it and the rest of the text. -/
structure Place (α : Type*) where
  before : Option α
  rest : List α

/-- Where a run of characters can end. -/
def runEnds (p : α → Bool) : Option Nat → Option α → List α → List (Place α)
  | _, before, [] => [⟨before, []⟩]
  | most, before, c :: rest =>
    ⟨before, c :: rest⟩ ::
      if p c && most ≠ some 0 then runEnds p (most.map (· - 1)) (some c) rest else []

/-- Where a match that starts at the place can end. -/
def ends (isWord : α → Bool) : Regex α → Place α → List (Place α)
  | .empty, place => [place]
  | .one p, place =>
    match place.rest with
    | [] => []
    | c :: rest => if p c then [⟨some c, rest⟩] else []
  | .run p most, place => runEnds p most place.before place.rest
  | .border, place =>
    if place.before.any isWord ≠ place.rest.head?.any isWord then [place] else []
  | .seq r s, place => (r.ends isWord place).flatMap (s.ends isWord)
  | .alt r s, place => r.ends isWord place ++ s.ends isWord place

def places : Option α → List α → List (Place α)
  | before, [] => [⟨before, []⟩]
  | before, c :: rest => ⟨before, c :: rest⟩ :: places (some c) rest

/-- Whether the text holds a match. -/
def search (isWord : α → Bool) (r : Regex α) (cs : List α) : Bool :=
  (places none cs).any fun place => !(r.ends isWord place).isEmpty

/-- Where a match that starts at the place can end, in the order in which the ends are tried: a run
takes as much as it can. -/
def tries (isWord : α → Bool) : Regex α → Place α → List (Place α)
  | .empty, place => [place]
  | .one p, place => (one p).ends isWord place
  | .run p most, place => (runEnds p most place.before place.rest).reverse
  | .border, place => border.ends isWord place
  | .seq r s, place => (r.tries isWord place).flatMap (s.tries isWord)
  | .alt r s, place => r.tries isWord place ++ s.tries isWord place

/-- What follows each match of `finditer`, where no match is empty. The first `skip` characters are
those of a match that began before. -/
def followingFrom (isWord : α → Bool) (r : Regex α) : (skip : Nat) → Option α → List α → List (List α)
  | _, _, [] => []
  | skip + 1, _, c :: rest => followingFrom isWord r skip (some c) rest
  | 0, before, c :: rest =>
    match (r.tries isWord ⟨before, c :: rest⟩).head? with
    | some place => place.rest ::
        followingFrom isWord r (rest.length - place.rest.length) (some c) rest
    | none => followingFrom isWord r 0 (some c) rest

def following (isWord : α → Bool) (r : Regex α) (cs : List α) : List (List α) :=
  followingFrom isWord r 0 none cs

/-- Whether the text starts with a match. -/
def matchesStart (isWord : α → Bool) (r : Regex α) (cs : List α) : Bool :=
  !(r.ends isWord ⟨none, cs⟩).isEmpty

end Regex
