import Stencil.Value.Sort
import Stencil.Filter.Arguments

/-!
# Values in data notation

The text of a value in the notation of braces, brackets and double quotes, in ASCII, with the fields
of objects sorted, and with the characters that mean something in markup as numbered escapes.
-/

namespace Stencil

namespace Json

/-- A numbered escape. -/
def unit (n : Nat) : List Char :=
  '\\' :: 'u' :: Text.hex 4 n

/-- A character of a quoted text. -/
def quotedChar (c : Char) : List Char :=
  match c with
  | '\x22' => ['\\', '\x22']
  | '\\' => ['\\', '\\']
  | '\n' => ['\\', 'n']
  | '\r' => ['\\', 'r']
  | '\t' => ['\\', 't']
  | '\x08' => ['\\', 'b']
  | '\x0c' => ['\\', 'f']
  | c =>
    let n := c.toNat
    if 32 ≤ n && n < 127 then [c]
    else if n < 0x10000 then unit n
    else unit (0xD800 + (n - 0x10000) / 1024) ++ unit (0xDC00 + (n - 0x10000) % 1024)

/-- A quoted text. -/
def quoted (s : String) : String :=
  String.ofList ('\x22' :: s.toList.flatMap quotedChar ++ ['\x22'])

/-- A floating point number; those without a literal have a name. -/
def number (x : Binary64) : String :=
  if x.isNaN then "NaN"
  else if x.isInfinite then if x.negative then "-Infinity" else "Infinity"
  else x.text

/-- The text of a key. -/
def key (v : Value) : Run String :=
  match v with
  | .text s _ => return quoted s
  | .none => return quoted "null"
  | .bool b => return quoted (if b then "true" else "false")
  | .int n => return quoted (toString n)
  | .float x => return quoted (number x)
  | _ => Run.badType

/-- Parts between brackets: on one line, or each on a line of its own with the given indentation. -/
def enclose (opening closing : String) (indent : Option String) (depth : Nat)
    (parts : List String) : String :=
  if parts.isEmpty then opening ++ closing
  else match indent with
    | none => opening ++ String.intercalate ", " parts ++ closing
    | some step =>
      let line (n : Nat) := "\n" ++ String.join (List.replicate n step)
      opening ++ line (depth + 1) ++ String.intercalate ("," ++ line (depth + 1)) parts ++
        line depth ++ closing

/-- The text of a value. -/
def text (indent : Option String) : (fuel depth : Nat) → Value → Run String
  | 0, _, _ => Run.accident .tooDeep
  | fuel + 1, depth, v => do
    match v with
    | .none => return "null"
    | .bool b => return if b then "true" else "false"
    | .int n => return toString n
    | .float x => return number x
    | .text s _ => return quoted s
    | .tuple items =>
      return enclose "[" "]" indent depth (← items.mapM (text indent fuel (depth + 1)))
    | .list cell =>
      let items ← Run.listItems cell
      return enclose "[" "]" indent depth (← items.mapM (text indent fuel (depth + 1)))
    | .dict entries =>
      let sorted ← Run.sortBy (fun (a b : Value × Value) => Value.less a.1 b.1) entries
      let parts ← sorted.mapM fun (k, v) => do
        return (← key k) ++ ": " ++ (← text indent fuel (depth + 1) v)
      return enclose "\x7b" "\x7d" indent depth parts
    | _ => Run.badType

/-- A character that means something in markup, as a numbered escape. -/
def markupChar (c : Char) : List Char :=
  if c == '<' || c == '>' || c == '&' || c == '\x27' then unit c.toNat else [c]

/-- The text of a value for use in markup. -/
def forMarkup (indent : Option String) (v : Value) : Run Value := do
  let s ← text indent valueDepth 0 v
  return .safe (String.ofList (s.toList.flatMap markupChar))

end Json

end Stencil
