import Stencil.Text.Digit
import Stencil.Text.Search
import Stencil.Decimal.Binary64

/-!
# Number literals

Integers in decimal, binary, octal and hexadecimal notation, and decimal numbers with a fraction or
an exponent. Single underscores may stand between digits.
-/

namespace Stencil.Number

/-- Digits for which `value` is defined, each behind at most one underscore: their values, and what
follows them. -/
def spaced (value : Char → Option Nat) : List Char → List Nat × List Char
  | [] => ([], [])
  | c :: cs =>
    match value c with
    | some d => let (ds, rest) := spaced value cs; (d :: ds, rest)
    | none =>
      if c == '_' then
        match cs with
        | c' :: cs' =>
          match value c' with
          | some d => let (ds, rest) := spaced value cs'; (d :: ds, rest)
          | none => ([], c :: cs)
        | [] => ([], c :: cs)
      else ([], c :: cs)

/-- Digits with single underscores between them, the first of which is a digit. -/
def group? (cs : List Char) : Option (List Nat × List Char) :=
  match cs with
  | c :: _ =>
    if Char.isDecimal c then some (spaced Char.digit? cs) else none
  | [] => none

/-- The number with the given digits. -/
def ofDigits (base : Nat) (digits : List Nat) : Nat :=
  digits.foldl (fun n d => n * base + d) 0

/-- A digit below `base`. -/
def below (base : Nat) (c : Char) : Option Nat :=
  (if '0' ≤ c && c ≤ '9' then some (c.toNat - 48) else none).filter (· < base)

/-- A hexadecimal digit; decimal digits may be of any script. -/
def hexadecimal (c : Char) : Option Nat :=
  (Char.hexDigit? c).or (Char.digit? c)

/-- An integer with a letter that gives its base. -/
def based? (cs : List Char) : Option (Nat × List Char) :=
  match cs with
  | '0' :: mark :: rest =>
    let attempt (base : Nat) (value : Char → Option Nat) : Option (Nat × List Char) :=
      match spaced value rest with
      | ([], _) => none
      | (ds, rest) => some (ofDigits base ds, rest)
    if mark == 'b' || mark == 'B' then attempt 2 (below 2)
    else if mark == 'o' || mark == 'O' then attempt 8 (below 8)
    else if mark == 'x' || mark == 'X' then attempt 16 hexadecimal
    else none
  | _ => none

/-- An integer. A decimal integer starts with a digit from 1 to 9, or consists of zeros. -/
def integer? (cs : List Char) : Option (Nat × List Char) :=
  match based? cs with
  | some r => some r
  | none =>
    match cs with
    | c :: _ =>
      if c == '0' then some (0, (spaced (below 1) cs).2)
      else if c.isDigit then
        let (ds, rest) := spaced Char.digit? cs
        some (ofDigits 10 ds, rest)
      else none
    | [] => none

/-- The exponent at the start of `cs`. -/
def exponent? (cs : List Char) : Option (Int × List Char) :=
  match cs with
  | e :: rest =>
    if e == 'e' || e == 'E' then
      let (minus, rest) := match rest with
        | '-' :: rest => (true, rest)
        | '+' :: rest => (false, rest)
        | _ => (false, rest)
      (group? rest).map fun (ds, rest) =>
        let n : Int := ofDigits 10 ds
        (if minus then -n else n, rest)
    else none
  | [] => none

/-- A decimal number with a fraction, an exponent or both. -/
def float? (cs : List Char) : Option (Binary64 × List Char) := do
  let (whole, rest) ← group? cs
  let fraction := match rest with
    | '.' :: more => group? more
    | _ => none
  match fraction with
  | some (ds, rest) =>
    let mantissa := ofDigits 10 (whole ++ ds)
    match exponent? rest with
    | some (e, rest) => some (Binary64.ofDecimal mantissa (e - ds.length), rest)
    | none => some (Binary64.ofDecimal mantissa (-ds.length), rest)
  | none =>
    let (e, rest) ← exponent? rest
    some (Binary64.ofDecimal (ofDigits 10 whole) e, rest)

end Stencil.Number
