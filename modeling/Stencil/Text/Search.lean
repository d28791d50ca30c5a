import Stencil.Text.Blank

/-!
# Splitting and replacing

Searches for a fixed piece of text, from left to right and without overlap.
-/

namespace Stencil.Text

/-- What follows `piece` at the start of `cs`, if `cs` starts so. -/
def strip? : (piece cs : List Char) → Option (List Char)
  | [], cs => some cs
  | _ :: _, [] => none
  | p :: ps, c :: cs => if p == c then strip? ps cs else none

/-- Whether `cs` starts with `piece`. -/
def startsWith (cs piece : List Char) : Bool :=
  (strip? piece cs).isSome

/-- The text before the first occurrence of `piece` and the text after it. -/
def cut? (piece : List Char) : List Char → Option (List Char × List Char)
  | [] => if piece.isEmpty then some ([], []) else none
  | c :: cs =>
    match strip? piece (c :: cs) with
    | some rest => some ([], rest)
    | none => (cut? piece cs).map fun (before, rest) => (c :: before, rest)

/-- The parts of `cs` between occurrences of `piece`, at most `limit` of which are searched for;
`fuel` bounds the number of parts. -/
def splitFrom (piece : List Char) : (fuel : Nat) → (limit : Option Nat) → List Char →
    List (List Char)
  | 0, _, cs => [cs]
  | _ + 1, some 0, cs => [cs]
  | fuel + 1, limit, cs =>
    match cut? piece cs with
    | none => [cs]
    | some (before, rest) => before :: splitFrom piece fuel (limit.map (· - 1)) rest

/-- The parts of `cs` between the occurrences of a non-empty `piece`. -/
def splitOn (piece cs : List Char) : List (List Char) :=
  splitFrom piece (cs.length + 1) none cs

/-- The parts of `cs` between single characters `sep`. -/
def splitAtChar (sep : Char) : List Char → List (List Char)
  | [] => [[]]
  | c :: cs =>
    if c == sep then [] :: splitAtChar sep cs
    else match splitAtChar sep cs with
      | part :: parts => (c :: part) :: parts
      | [] => [[c]]

/-- `parts` with `sep` between each two of them. -/
def joinWith (sep : List Char) : List (List Char) → List Char
  | [] => []
  | [part] => part
  | part :: parts => part ++ sep ++ joinWith sep parts

/-- The text with the first `limit` occurrences of `old` (all, without a limit) replaced. The empty
piece occurs before every character and at the end. -/
def replace (old new : List Char) (limit : Option Nat) (cs : List Char) : List Char :=
  if old.isEmpty then
    let count := min (limit.getD (cs.length + 1)) (cs.length + 1)
    let marked := (cs.take count).flatMap (new ++ [·])
    if count ≤ cs.length then marked ++ cs.drop count else marked ++ new
  else joinWith new (splitFrom old (cs.length + 1) limit cs)

/-- Line ends of any style as a single line feed. -/
def unifyNewlines : List Char → List Char
  | [] => []
  | '\r' :: '\n' :: cs => '\n' :: unifyNewlines cs
  | '\r' :: cs => '\n' :: unifyNewlines cs
  | c :: cs => c :: unifyNewlines cs

end Stencil.Text
