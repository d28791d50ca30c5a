import Stencil.Text.Digit
import Stencil.Text.Search
import Stencil.Text.Case
import Stencil.Decimal.Binary64

/-!
# Numbers from text

The number that a text denotes: blanks around it are ignored, a sign may precede it, and single
underscores may stand between digits.
-/

namespace Stencil.Convert

/-- The sign of a number, and what follows it. -/
def sign (cs : List Char) : Bool × List Char :=
  match cs with
  | '-' :: rest => (true, rest)
  | '+' :: rest => (false, rest)
  | _ => (false, cs)

/-- The value of a digit in a base up to 36. -/
def digitIn? (base : Nat) (c : Char) : Option Nat :=
  let n := match Char.digit? c with
    | some d => some d
    | none =>
      if 'a' ≤ c && c ≤ 'z' then some (c.toNat - 87)
      else if 'A' ≤ c && c ≤ 'Z' then some (c.toNat - 55)
      else none
  n.filter (· < base)

/-- The number that digits form, with single underscores between them. -/
def digits? (base : Nat) : (value : Nat) → (afterDigit : Bool) → List Char → Option Nat
  | value, afterDigit, [] => if afterDigit then some value else none
  | value, afterDigit, c :: cs =>
    if c == '_' then
      if afterDigit && !cs.isEmpty then digits? base value false cs else none
    else match digitIn? base c with
      | some d => digits? base (value * base + d) true cs
      | none => none

/-- The base that a text announces, and what follows the announcement. -/
def announced (base : Nat) (cs : List Char) : Nat × List Char :=
  let mark? (c : Char) : Option Nat :=
    if c == 'x' || c == 'X' then some 16
    else if c == 'o' || c == 'O' then some 8
    else if c == 'b' || c == 'B' then some 2
    else none
  match cs with
  | '0' :: c :: rest =>
    match mark? c with
    | some b =>
      if base == 0 || base == b then
        (b, match rest with
          | '_' :: rest => rest
          | _ => rest)
      else (base, cs)
    | none => (if base == 0 then 10 else base, cs)
  | _ => (if base == 0 then 10 else base, cs)

/-- The integer that a text denotes in a base; base zero takes it from the text. -/
def integer? (base : Nat) (s : String) : Option Int :=
  let (minus, cs) := sign (Text.trim s.toList)
  let (b, cs) := announced base cs
  (digits? b 0 false cs).map fun (n : Nat) => if minus then -(n : Int) else n

/-- Digits with single underscores between them at the start of `cs`. -/
def digitRun : (before : Bool) → List Char → List Nat × List Char
  | _, [] => ([], [])
  | before, c :: cs =>
    match Char.digit? c with
    | some d => let (ds, rest) := digitRun true cs; (d :: ds, rest)
    | none =>
      if c == '_' && before && (cs.head?.any Char.isDecimal) then digitRun false cs
      else ([], c :: cs)

/-- The magnitude that a text without sign denotes. -/
def magnitude? (cs : List Char) : Option Binary64 :=
  let word := String.ofList (Text.lower cs)
  if word == "inf" || word == "infinity" then some Binary64.infinity
  else if word == "nan" then some Binary64.nan
  else
    let (whole, rest) := digitRun false cs
    let (fraction, rest) := match rest with
      | '.' :: more => digitRun false more
      | _ => ([], rest)
    if whole.isEmpty && fraction.isEmpty then none
    else
      let exponent : Option (Int × List Char) := match rest with
        | e :: more =>
          if e == 'e' || e == 'E' then
            let (minus, more) := sign more
            let (ds, after) := digitRun false more
            if ds.isEmpty then none
            else
              let n : Nat := ds.foldl (fun n d => n * 10 + d) 0
              some (if minus then -(n : Int) else n, after)
          else some (0, rest)
        | [] => some (0, [])
      match exponent with
      | some (e, []) =>
        let mantissa := (whole ++ fraction).foldl (fun n d => n * 10 + d) 0
        some (Binary64.ofDecimal mantissa (e - fraction.length))
      | _ => none

/-- The floating point number that a text denotes. -/
def float? (s : String) : Option Binary64 :=
  let (minus, cs) := sign (Text.trim s.toList)
  (magnitude? cs).map fun x => if minus then x.neg else x

end Stencil.Convert
