import Stencil.Text.CodePoints

/-!
# Blank characters

The white space that separates, is trimmed and is skipped: the characters of bidirectional class
white space, paragraph or segment separator, or of category space separator. The zero width space
is not among them.
-/

namespace Stencil

/-- White space characters. -/
def Char.isBlank (c : Char) : Bool :=
  CodePoints.contains
    [9, 14, 28, 33, 0x85, 0x86, 0xa0, 0xa1, 0x1680, 0x1681, 0x2000, 0x200b,
      0x2028, 0x202a, 0x202f, 0x2030, 0x205f, 0x2060, 0x3000, 0x3001] c.toNat

namespace Text

/-- The text without the blanks at its start. -/
def trimStart (cs : List Char) : List Char :=
  cs.dropWhile Char.isBlank

/-- The text without the blanks at its end. -/
def trimEnd (cs : List Char) : List Char :=
  (cs.reverse.dropWhile Char.isBlank).reverse

/-- The text without the blanks at its two ends. -/
def trim (cs : List Char) : List Char :=
  trimEnd (trimStart cs)

/-- Collects `cs` into words, `word` being the reversed start of the current one. -/
def wordsFrom (word : List Char) : List Char → List (List Char)
  | [] => if word.isEmpty then [] else [word.reverse]
  | c :: cs =>
    if Char.isBlank c then
      if word.isEmpty then wordsFrom [] cs else word.reverse :: wordsFrom [] cs
    else wordsFrom (c :: word) cs

/-- The maximal runs of characters that are not blank. -/
def words (cs : List Char) : List (List Char) :=
  wordsFrom [] cs

/-- The first words of a text, up to `limit` of them, and then what is left of it as one part. -/
def wordsUpTo : (limit : Nat) → List Char → List (List Char)
  | limit, cs =>
    match limit, trimStart cs with
    | _, [] => []
    | 0, rest => [rest]
    | limit + 1, rest =>
      rest.takeWhile (fun c => !Char.isBlank c) ::
        wordsUpTo limit (rest.dropWhile fun c => !Char.isBlank c)

end Text

end Stencil
