import Stencil.Text.Search

/-!
# Files of variable bindings

A file binds variables line by line: `NAME=value`, also after `export` and with blanks around the
sign. A value is unquoted (up to a comment), single quoted (literal but for escaped marks and
backslashes) or double quoted (with escapes); quoted values may run over several lines. A line that
fits no form is skipped. In the values, `${NAME}` and `${NAME:-default}` stand for the variables
bound before and for those of the surrounding process.
-/

namespace Stencil.Dotenv

/-- Blanks inside a line. -/
def isGap (c : Char) : Bool :=
  Char.isBlank c && c != '\n' && c != '\r'

/-- Characters of an unquoted key. -/
def isKeyPart (c : Char) : Bool :=
  !(c == '=' || c == '#' || Char.isBlank c)

/-- The content of a quoted value up to the closing mark, and what follows it. A mark after a
backslash belongs to the content, unless no closing mark would be left. -/
def quoted? (mark : Char) : List Char → Option (List Char × List Char)
  | [] => none
  | '\\' :: c :: cs =>
    if c == mark then
      match quoted? mark cs with
      | some (value, rest) => some ('\\' :: c :: value, rest)
      | none => some (['\\'], cs)
    else (quoted? mark (c :: cs)).map fun (value, rest) => ('\\' :: value, rest)
  | c :: cs =>
    if c == mark then some ([], cs)
    else (quoted? mark cs).map fun (value, rest) => (c :: value, rest)

/-- The character that an escape in a double quoted value stands for. -/
def escape? (c : Char) : Option Char :=
  match c with
  | '\\' => some '\\'
  | '\x27' => some '\x27'
  | '\x22' => some '\x22'
  | 'a' => some '\x07'
  | 'b' => some '\x08'
  | 'f' => some '\x0c'
  | 'n' => some '\n'
  | 'r' => some '\r'
  | 't' => some '\t'
  | 'v' => some '\x0b'
  | _ => none

/-- Replaces the escapes that `meaning` knows. -/
def unescape (meaning : Char → Option Char) : List Char → List Char
  | '\\' :: c :: cs =>
    match meaning c with
    | some d => d :: unescape meaning cs
    | none => '\\' :: unescape meaning (c :: cs)
  | c :: cs => c :: unescape meaning cs
  | [] => []

/-- The text before the first comment: a hash sign behind blanks. -/
def dropComment : List Char → List Char
  | [] => []
  | c :: cs =>
    if Char.isBlank c && (cs.dropWhile Char.isBlank).head? == some '#' then []
    else c :: dropComment cs

/-- The value at the start of `cs`, and what follows it. -/
def value? (cs : List Char) : Option (List Char × List Char) :=
  match cs with
  | '\x27' :: rest =>
    (quoted? '\x27' rest).map fun (value, rest) =>
      (unescape (fun c => if c == '\\' || c == '\x27' then some c else none) value, rest)
  | '\x22' :: rest =>
    (quoted? '\x22' rest).map fun (value, rest) => (unescape escape? value, rest)
  | _ =>
    let inLine := fun c => c != '\n' && c != '\r'
    some (Text.trimEnd (dropComment (cs.takeWhile inLine)), cs.dropWhile inLine)

/-- What follows an end of line at the start of `cs`, after gaps and a comment. -/
def lineEnd? (cs : List Char) : Option (List Char) :=
  let cs := cs.dropWhile isGap
  let cs := if cs.head? == some '#' then cs.dropWhile (fun c => c != '\n' && c != '\r') else cs
  match cs with
  | [] => some []
  | '\n' :: rest => some rest
  | _ => none

/-- What follows the word `export` and a gap, if `cs` starts so. -/
def afterExport (cs : List Char) : List Char :=
  match Text.strip? "export".toList cs with
  | some rest =>
    match rest with
    | c :: _ => if isGap c then rest.dropWhile isGap else cs
    | [] => cs
  | none => cs

/-- What follows the current line. -/
def nextLine (cs : List Char) : List Char :=
  (cs.dropWhile (· != '\n')).drop 1

/-- The key at the start of `cs` (`none` before a comment), and what follows it. -/
def key? (cs : List Char) : Option (Option (List Char) × List Char) :=
  match cs with
  | '#' :: _ => some (none, cs)
  | '\x27' :: rest =>
    let key := rest.takeWhile (· != '\x27')
    match rest.drop key.length with
    | _ :: rest => if key.isEmpty then none else some (some key, rest)
    | [] => none
  | _ =>
    let key := cs.takeWhile isKeyPart
    if key.isEmpty then none else some (some key, cs.drop key.length)

/-- The binding at the start of `cs`: its key and value, either of which may be missing, and what
follows its line. -/
def binding (cs : List Char) : Option (List Char × Option (List Char)) × List Char :=
  let cs := afterExport cs
  match key? cs with
  | none => (none, nextLine cs)
  | some (key, rest) =>
    let rest := rest.dropWhile isGap
    let (value, rest, sound) : Option (List Char) × List Char × Bool := match rest with
      | '=' :: more =>
        let more := more.dropWhile isGap
        match value? more with
        | some (value, rest) => (some value, rest, true)
        | none => (none, more, false)
      | _ => (none, rest, true)
    if sound then
      match lineEnd? rest with
      | some after => (key.map fun k => (k, value), after)
      | none =>
        -- the comment, if any, has been passed over before the line end was missed
        (none, nextLine rest)
    else (none, nextLine rest)

/-- The bindings of a file with unified line ends; `fuel` bounds their number. -/
def bindingsFrom : (fuel : Nat) → List Char → List (List Char × Option (List Char))
  | 0, _ => []
  | fuel + 1, cs =>
    match cs.dropWhile Char.isBlank with
    | [] => []
    | cs =>
      let (found, rest) := binding cs
      match found with
      | some b => b :: bindingsFrom fuel rest
      | none => bindingsFrom fuel rest

/-- The value last bound to a name. -/
def lookup (name : List Char) (bound : List (List Char × Option (List Char))) :
    Option (Option (List Char)) :=
  (bound.reverse.find? fun (k, _) => k == name).map (·.2)

/-- A reference at the start of `cs`, behind its dollar sign and brace: the name, the default, and
what follows the closing brace. -/
def reference? (cs : List Char) : Option (List Char × List Char × List Char) :=
  let name := cs.takeWhile fun c => c != '\x7d' && c != ':'
  match cs.drop name.length with
  | '\x7d' :: rest => some (name, [], rest)
  | ':' :: '-' :: rest =>
    let default := rest.takeWhile (· != '\x7d')
    match rest.drop default.length with
    | _ :: rest => some (name, default, rest)
    | [] => none
  | _ => none

/-- The text with its references resolved by `value`. -/
def interpolate (value : List Char → Option (Option (List Char))) :
    (fuel : Nat) → List Char → List Char
  | 0, cs => cs
  | _, [] => []
  | fuel + 1, '$' :: '\x7b' :: cs =>
    match reference? cs with
    | some (name, default, rest) =>
      (match value name with
        | some bound => bound.getD []
        | none => default) ++ interpolate value fuel rest
    | none => '$' :: interpolate value fuel ('\x7b' :: cs)
  | fuel + 1, c :: cs => c :: interpolate value fuel cs

/-- Resolves the references of each binding by the bindings before it, then by the process. -/
def resolve (process : List (List Char × Option (List Char))) :
    (done : List (List Char × Option (List Char))) → List (List Char × Option (List Char)) →
    List (List Char × Option (List Char))
  | done, [] => done
  | done, (key, value) :: rest =>
    let value := value.map fun cs =>
      interpolate (fun name => (lookup name done).or (lookup name process)) (cs.length + 1) cs
    resolve process (done ++ [(key, value)]) rest

/-- The bindings of a file, in order, with the references in their values resolved; `process` holds
the variables of the surrounding process. -/
def parse (process : List (String × String)) (file : String) : List (String × Option String) :=
  let cs := Text.unifyNewlines file.toList
  let process := process.map fun (k, v) => (k.toList, some v.toList)
  (resolve process [] (bindingsFrom (cs.length + 1) cs)).map fun (k, v) =>
    (String.ofList k, v.map String.ofList)

end Stencil.Dotenv
