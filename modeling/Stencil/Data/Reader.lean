import Stencil.Data.Basic
import Stencil.Text.Digit

/-!
# Reading the data notation

Reads the text of one value in the usual notation of braces, brackets and double quoted texts, with
`NaN`, `Infinity` and `-Infinity` as further numbers. Only the four ASCII blanks may stand between
the parts. When an object has a field twice the later value wins at the earlier place.
-/

namespace Stencil

namespace Datum

/-- A field set to a value: at its present place, or at the end. -/
def setField (key : String) (value : Datum) : List (String × Datum) → List (String × Datum)
  | [] => [(key, value)]
  | (k, v) :: rest => if k == key then (k, value) :: rest else (k, v) :: setField key value rest

namespace Reader

/-- Skips blanks. -/
def skip (cs : List Char) : List Char :=
  cs.dropWhile fun c => c == ' ' || c == '\t' || c == '\n' || c == '\r'

/-- The value of exactly four hexadecimal digits. -/
def fourHex? : List Char → Option (Nat × List Char)
  | a :: b :: c :: d :: rest => do
    let a ← Char.hexDigit? a
    let b ← Char.hexDigit? b
    let c ← Char.hexDigit? c
    let d ← Char.hexDigit? d
    some (((a * 16 + b) * 16 + c) * 16 + d, rest)
  | _ => none

/-- The character of a numbered escape; two escapes may form one surrogate pair. -/
def numbered? (cs : List Char) : Option (Char × List Char) := do
  let (high, rest) ← fourHex? cs
  if 0xD800 ≤ high && high < 0xDC00 then
    match rest with
    | '\\' :: 'u' :: more =>
      match fourHex? more with
      | some (low, more) =>
        if 0xDC00 ≤ low && low < 0xE000 then
          some (Char.ofNat (0x10000 + (high - 0xD800) * 1024 + (low - 0xDC00)), more)
        else some (Char.ofNat 0xFFFD, rest)
      | none => some (Char.ofNat 0xFFFD, rest)
    | _ => some (Char.ofNat 0xFFFD, rest)
  else if 0xDC00 ≤ high && high < 0xE000 then some (Char.ofNat 0xFFFD, rest)
  else some (Char.ofNat high, rest)

/-- The rest of a text after its opening mark, `acc` being its reversed start. -/
def text? : (fuel : Nat) → (acc : List Char) → List Char → Option (String × List Char)
  | 0, _, _ => none
  | _, _, [] => none
  | _ + 1, acc, '\x22' :: rest => some (String.ofList acc.reverse, rest)
  | fuel + 1, acc, '\\' :: c :: rest =>
    match c with
    | '\x22' => text? fuel ('\x22' :: acc) rest
    | '\\' => text? fuel ('\\' :: acc) rest
    | '/' => text? fuel ('/' :: acc) rest
    | 'b' => text? fuel ('\x08' :: acc) rest
    | 'f' => text? fuel ('\x0c' :: acc) rest
    | 'n' => text? fuel ('\n' :: acc) rest
    | 'r' => text? fuel ('\r' :: acc) rest
    | 't' => text? fuel ('\t' :: acc) rest
    | 'u' =>
      match numbered? rest with
      | some (c, rest) => text? fuel (c :: acc) rest
      | none => none
    | _ => none
  | fuel + 1, acc, c :: rest =>
    if c.toNat < 32 || c == '\\' then none else text? fuel (c :: acc) rest

/-- The number that ASCII digits form. -/
def digitsValue (ds : List Char) : Nat :=
  ds.foldl (fun n d => n * 10 + (d.toNat - 48)) 0

/-- The digits of an integer without leading zeros at the start of `cs`. -/
def whole (cs : List Char) : List Char :=
  match cs with
  | '0' :: _ => ['0']
  | _ => cs.takeWhile Char.isDigit

/-- The digits of a fraction at the start of `cs`, none if there is no fraction, and what follows. -/
def fraction (cs : List Char) : List Char × List Char :=
  match cs with
  | '.' :: more =>
    let ds := more.takeWhile Char.isDigit
    if ds.isEmpty then ([], cs) else (ds, more.drop ds.length)
  | _ => ([], cs)

/-- Whether there is a minus at the start of `cs`, and what follows the sign, if there is one. -/
def sign (cs : List Char) : Bool × List Char :=
  match cs with
  | '-' :: more => (true, more)
  | '+' :: more => (false, more)
  | _ => (false, cs)

/-- The exponent at the start of `cs`, if there is one, and what follows. -/
def exponent (cs : List Char) : Option Int × List Char :=
  match cs with
  | e :: more =>
    if e == 'e' || e == 'E' then
      let (minus, more) := sign more
      let ds := more.takeWhile Char.isDigit
      if ds.isEmpty then (none, cs)
      else
        let n : Int := digitsValue ds
        (some (if minus then -n else n), more.drop ds.length)
    else (none, cs)
  | [] => (none, cs)

/-- An unsigned number: an integer without leading zeros, then a fraction and an exponent, each of
which makes it a floating point number. -/
def number? (negative : Bool) (cs : List Char) : Option (Datum × List Char) :=
  let digits := whole cs
  if digits.isEmpty then none
  else
    let (decimals, rest) := fraction (cs.drop digits.length)
    let (power, rest) := exponent rest
    if decimals.isEmpty && power.isNone then
      let n : Int := digitsValue digits
      some (int (if negative then -n else n), rest)
    else
      let x := Binary64.ofDecimal (digitsValue (digits ++ decimals))
        (power.getD 0 - decimals.length)
      some (float (Binary64.withSign negative x), rest)

/-- A fixed word. -/
def word? (word : String) (value : Datum) (cs : List Char) : Option (Datum × List Char) :=
  if word.toList.isPrefixOf cs then some (value, cs.drop word.length) else none

mutual

/-- A value at the start of `cs`, with what follows it. -/
def value? : (fuel : Nat) → List Char → Option (Datum × List Char)
  | 0, _ => none
  | fuel + 1, cs =>
    match cs with
    | '\x22' :: rest => (text? (rest.length + 1) [] rest).map fun (s, rest) => (text s, rest)
    | '[' :: rest =>
      match skip rest with
      | ']' :: rest => some (list [], rest)
      | rest => items? fuel [] rest
    | '\x7b' :: rest =>
      match skip rest with
      | '\x7d' :: rest => some (object [], rest)
      | rest => fields? fuel [] rest
    | 'n' :: _ => word? "null" null cs
    | 't' :: _ => word? "true" (bool true) cs
    | 'f' :: _ => word? "false" (bool false) cs
    | 'N' :: _ => word? "NaN" (float Binary64.nan) cs
    | 'I' :: _ => word? "Infinity" (float Binary64.infinity) cs
    | '-' :: 'I' :: _ => word? "-Infinity" (float Binary64.infinity.neg) cs
    | '-' :: rest => number? true rest
    | _ => number? false cs

/-- The items of a list up to its closing bracket, `acc` being those before, reversed. -/
def items? : (fuel : Nat) → (acc : List Datum) → List Char → Option (Datum × List Char)
  | 0, _, _ => none
  | fuel + 1, acc, cs =>
    match value? fuel cs with
    | none => none
    | some (v, rest) =>
      match skip rest with
      | ',' :: rest => items? fuel (v :: acc) (skip rest)
      | ']' :: rest => some (list (v :: acc).reverse, rest)
      | _ => none

/-- The fields of an object up to its closing brace. -/
def fields? : (fuel : Nat) → (acc : List (String × Datum)) → List Char →
    Option (Datum × List Char)
  | 0, _, _ => none
  | fuel + 1, acc, cs =>
    match cs with
    | '\x22' :: rest =>
      match text? (rest.length + 1) [] rest with
      | none => none
      | some (key, rest) =>
        match skip rest with
        | ':' :: rest =>
          match value? fuel (skip rest) with
          | none => none
          | some (v, rest) =>
            match skip rest with
            | ',' :: rest => fields? fuel (setField key v acc) (skip rest)
            | '\x7d' :: rest => some (object (setField key v acc), rest)
            | _ => none
        | _ => none
    | _ => none

end

end Reader

/-- The value that a text denotes. -/
def parse? (s : String) : Option Datum :=
  let cs := s.toList
  match Reader.value? (cs.length + 1) (Reader.skip cs) with
  | some (v, rest) => if (Reader.skip rest).isEmpty then some v else none
  | none => none

end Datum

end Stencil
