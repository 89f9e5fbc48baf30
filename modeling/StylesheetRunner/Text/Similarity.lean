/-!
How alike two words are, by the letters that they share at nearly the same places (the measure of
Jaro), as a fraction between zero and one.
-/

namespace StylesheetRunner.Text.Similarity

structure Fraction where
  numerator : Nat
  denominator : Nat
deriving DecidableEq, Repr

def Fraction.exceeds (left right : Fraction) : Bool :=
  right.numerator * left.denominator < left.numerator * right.denominator

def findPlace? (letter : Char) (window place : Nat) :
    (position : Nat) → List (Char × Bool) → Option Nat
  | _, [] => none
  | position, (other, taken) :: rest =>
    if !taken ∧ other = letter ∧ position ≤ place + window ∧ place ≤ position + window then
      some position
    else findPlace? letter window place (position + 1) rest

def take (letters : List (Char × Bool)) (position : Nat) : List (Char × Bool) :=
  letters.mapIdx fun index letter => if index = position then (letter.1, true) else letter

/-- The letters of a word that find a partner, and the other word with the partners marked. -/
def matched (window : Nat) :
    (place : Nat) → List Char → List (Char × Bool) → List Char × List (Char × Bool)
  | _, [], other => ([], other)
  | place, letter :: rest, other =>
    match findPlace? letter window place 0 other with
    | some position =>
      let (found, other) := matched window (place + 1) rest (take other position)
      (letter :: found, other)
    | none => matched window (place + 1) rest other

def jaro (left right : List Char) : Fraction :=
  if left = [] ∧ right = [] then ⟨1, 1⟩
  else
    let window := max left.length right.length / 2 - 1
    let (found, marked) := matched window 0 left (right.map fun letter => (letter, false))
    let partners := (marked.filter fun letter => letter.2).map Prod.fst
    let count := found.length
    if count = 0 then ⟨0, 1⟩
    else
      let swapped := ((found.zip partners).filter fun pair => pair.1 ≠ pair.2).length / 2
      let a := left.length
      let b := right.length
      ⟨count * b * count + count * a * count + (count - swapped) * a * b, 3 * a * b * count⟩

def candidates (word : String) (known : List String) : List String :=
  let scored := known.map fun candidate => (jaro word.toList candidate.toList, candidate)
  let alike := scored.filter fun entry => entry.1.exceeds ⟨7, 10⟩
  (alike.mergeSort fun left right => !left.1.exceeds right.1).map Prod.snd

end StylesheetRunner.Text.Similarity
