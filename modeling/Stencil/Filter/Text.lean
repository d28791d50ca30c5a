import Stencil.Filter.Arguments
import Stencil.Text.Identifier

/-!
# Filters on text

Safe text stays safe where the result is made of its own characters only.
-/

namespace Stencil

namespace Filter

/-- A change of the characters of a text. -/
def mapText (eng : Engine) (f : List Char → List Char) (v : Value) : Run Value := do
  match ← Value.soft eng v with
  | .text s safe => return .text (String.ofList (f s.toList)) safe
  | v => return v

/-- Characters in front of which a word starts. -/
def dividesWords (c : Char) : Bool :=
  Char.isBlank c || c == '-' || c == '(' || c == '\x7b' || c == '[' || c == '<'

/-- A word, given in reverse, with a capital at its start and small letters behind it. -/
def titleWord (word : List Char) : List Char :=
  match word.reverse with
  | [] => []
  | c :: cs => Char.capital c ++ Text.lower cs

/-- Every word in its title form, `word` being the reversed start of the current one. -/
def titleFrom (word : List Char) : List Char → List Char
  | [] => titleWord word
  | c :: cs =>
    if dividesWords c then titleWord word ++ c :: titleFrom [] cs
    else titleFrom (c :: word) cs

/-- Letters, digits, number signs and the underscore. -/
def isWordChar (c : Char) : Bool :=
  c.isAlphanum || c == '_' || (c.toNat ≥ 0x80 &&
    (CodePoints.contains CodePoints.letters c.toNat ||
      CodePoints.contains CodePoints.numberSigns c.toNat || Char.isDecimal c))

/-- The number of words. -/
def countWords (inWord : Bool) : List Char → Nat
  | [] => 0
  | c :: cs =>
    let part := isWordChar c
    (if part && !inWord then 1 else 0) + countWords part cs

/-- Characters that end a line. -/
def endsLine (c : Char) : Bool :=
  c == '\n' || c == '\r' || c == '\x0b' || c == '\x0c' || c == '\x1c' || c == '\x1d' ||
    c == '\x1e' || c.toNat == 0x85 || c.toNat == 0x2028 || c.toNat == 0x2029

/-- The lines of a text; a line end at the very end starts no further line. -/
def linesFrom (line : List Char) : List Char → List (List Char)
  | [] => if line.isEmpty then [] else [line.reverse]
  | '\r' :: '\n' :: cs => line.reverse :: linesFrom [] cs
  | c :: cs =>
    if endsLine c then line.reverse :: linesFrom [] cs else linesFrom (c :: line) cs

/-- Indents all lines but the first; empty lines only if `blank`. -/
def indentLines (step : List Char) (first blank : Bool) (cs : List Char) : List Char :=
  let lines := linesFrom [] (cs ++ ['\n'])
  let rest := fun (line : List Char) => if line.isEmpty && !blank then line else step ++ line
  let body := match lines with
    | [] => []
    | l :: ls => Text.joinWith ['\n'] (l :: ls.map rest)
  if first then step ++ body else body

/-- What lines are indented with: a text, or a number of blanks. -/
def indentation (width : Value) : Run (List Char) :=
  match width with
  | .text s _ => return s.toList
  | w => match w.integer? with
    | some n => return List.replicate n.toNat ' '
    | none => Run.badType

def indent (eng : Engine) (v width first blank : Value) : Run Value := do
  let step ← indentation width
  match v with
  | .text s safe =>
    let first ← Value.truth eng first
    let blank ← Value.truth eng blank
    return .text (String.ofList (indentLines step first blank s.toList)) safe
  | .undefined _ why => Run.failUndefined why
  | _ => Run.badType

/-- Removes blanks, or any of the given characters, from both ends. -/
def trim (eng : Engine) (v chars : Value) : Run Value := do
  match chars with
  | .none => mapText eng Text.trim v
  | .text set _ =>
    mapText eng (fun cs =>
      let out := fun c => set.toList.contains c
      ((cs.dropWhile out).reverse.dropWhile out).reverse) v
  | _ => Run.badType

/-- How often a piece of text is replaced, if there is a limit. -/
def replaceLimit (count : Value) : Run (Option Nat) :=
  match count with
  | .none => return none
  | c => match c.integer? with
    | some n => return if n < 0 then none else some n.toNat
    | none => Run.badType

/-- A text with a piece replaced. -/
def swap (limit : Option Nat) (s old new : String) : String :=
  String.ofList (Text.replace old.toList new.toList limit s.toList)

/-- The text to replace something in: safe text if one of the pieces is. -/
def replaceSubject (eng : Engine) (v old new : Value) : Run Value := do
  if old.hasMarkup || new.hasMarkup && !v.hasMarkup then return .safe (← Value.escaped eng v)
  else Value.soft eng v

/-- Replaces a piece of text. Where text is escaped, a safe piece makes the whole text safe. -/
def replace (eng : Engine) (site : Site) (v old new count : Value) : Run Value := do
  let limit ← replaceLimit count
  if !site.autoescape then
    return .plain (swap limit (← Value.str eng v) (← Value.str eng old) (← Value.str eng new))
  else
    let subject ← replaceSubject eng v old new
    let old ← Value.str eng (← Value.soft eng old)
    match subject with
    | .text s true => return .safe (swap limit s old (← Value.escaped eng (← Value.soft eng new)))
    | .text s false => return .plain (swap limit s old (← Value.str eng new))
    | _ => Run.badType

/-- Joins the texts of values. Where text is escaped, one safe part makes the whole text safe. -/
def join (eng : Engine) (site : Site) (v separator path : Value) : Run Value := do
  let items ← Value.atPathOf eng path (← Run.itemsOf eng v)
  if site.autoescape && (separator.hasMarkup || items.any Value.hasMarkup) then
    let sep ← Value.escaped eng separator
    return .safe (String.intercalate sep (← items.mapM (Value.escaped eng)))
  else
    let sep ← Value.str eng separator
    return .plain (String.intercalate sep (← items.mapM (Value.str eng)))

end Filter

end Stencil
