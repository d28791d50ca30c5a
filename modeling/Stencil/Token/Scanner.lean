import Stencil.Token.Escape
import Stencil.Token.Number
import Stencil.Text.Identifier

/-!
# Dividing a source into tokens

A source is plain text with tags in it. `Scanner.step` takes one piece off the front: a run of text
with the mark that ends it, the content of a comment or raw section, or one token inside a tag.
`scan` repeats it to the end of the source or to the first fault; the tokens in front of a fault are
kept, because a reader of the tokens may object to one of them first.
-/

namespace Stencil

namespace Scanner

/-- The marks that open something in plain text. -/
inductive Opening where
  | raw
  | comment
  | block
  | variable
  | lineStatement
  | lineComment
deriving DecidableEq

/-- How a tag ends. -/
inductive Closing where
  | block
  | variable
  | line
deriving DecidableEq

/-- Where in a source the scanner is. -/
inductive Mode where
  | text
  | raw
  | comment
  | lineComment
  /-- Inside a tag, with the closing brackets that are awaited, innermost first. -/
  | tag (closing : Closing) (brackets : List Char)

/-- The rest of a source. -/
structure Cursor where
  rest : List Char
  line : Nat
  /-- The character in front of the rest. -/
  before : Option Char
  /-- Whether the last piece ended with a line end, or nothing came before. -/
  atLineStart : Bool

def countNewlines (cs : List Char) : Nat :=
  cs.count '\n'

/-- Moves past `piece`, which stands at the front of the rest; `rest` is what follows it. -/
def Cursor.advance (cur : Cursor) (piece rest : List Char) : Cursor :=
  { rest
    line := cur.line + countNewlines piece
    before := piece.getLast?.or cur.before
    atLineStart := piece.getLast? == some '\n' }

/-- The text between the cursor and a later rest of the same source. -/
def Cursor.upTo (cur : Cursor) (rest : List Char) : List Char :=
  cur.rest.take (cur.rest.length - rest.length)

/-- Blanks other than line ends. -/
def isGap (c : Char) : Bool :=
  Char.isBlank c && c != '\n' && c != '\r'

/-- A sign that controls white space, and what follows it. -/
def sign (cs : List Char) : Option Char × List Char :=
  match cs with
  | '-' :: rest => (some '-', rest)
  | '+' :: rest => (some '+', rest)
  | _ => (none, cs)

/-- What follows the line end at the start of `cs`, if line ends after blocks are dropped. -/
def trimNewline (d : Delimiters) (cs : List Char) : List Char :=
  match cs with
  | '\n' :: rest => if d.trimBlocks then rest else cs
  | _ => cs

/-- What follows an end mark with its sign: after a minus sign, blanks are dropped too. -/
def closing? (d : Delimiters) (mark : String) (cs : List Char) : Option (List Char) :=
  match cs with
  | '+' :: rest =>
    match Text.strip? mark.toList rest with
    | some after => some after
    | none => (Text.strip? mark.toList cs).map (trimNewline d)
  | '-' :: rest =>
    match Text.strip? mark.toList rest with
    | some after => some (Text.trimStart after)
    | none => (Text.strip? mark.toList cs).map (trimNewline d)
  | _ => (Text.strip? mark.toList cs).map (trimNewline d)

/-- What follows the end mark of a print tag. -/
def closingVariable? (d : Delimiters) (cs : List Char) : Option (List Char) :=
  match cs with
  | '-' :: rest =>
    match Text.strip? d.variableEnd.toList rest with
    | some after => some (Text.trimStart after)
    | none => Text.strip? d.variableEnd.toList cs
  | _ => Text.strip? d.variableEnd.toList cs

/-- What follows the end of a line statement: the longest run of blanks that ends a line or the
source. -/
def closingLine? (cs : List Char) : Option (List Char) :=
  let blanks := cs.takeWhile Char.isBlank
  let rest := cs.drop blanks.length
  if rest.isEmpty then some []
  else
    let tail := blanks.reverse.takeWhile (· != '\n')
    if tail.length == blanks.length then none
    else some (tail.reverse ++ rest)

/-- The opening of a raw section at the start of `cs`: its sign, and what follows it. -/
def openRaw? (d : Delimiters) (cs : List Char) : Option (Option Char × List Char) := do
  let (s, cs) := sign (← Text.strip? d.blockStart.toList cs)
  let cs ← Text.strip? "raw".toList (Text.trimStart cs)
  let cs := Text.trimStart cs
  let close := d.blockEnd.toList
  let minus := match cs with
    | '-' :: rest => (Text.strip? close rest).map Text.trimStart
    | _ => none
  match minus with
  | some after => some (s, after)
  | none => (Text.strip? close cs).map fun after => (s, after)

/-- The end of a raw section at the start of `cs`: its sign, and what follows it. -/
def closeRaw? (d : Delimiters) (cs : List Char) : Option (Option Char × List Char) := do
  let (s, cs) := sign (← Text.strip? d.blockStart.toList cs)
  let cs ← Text.strip? "endraw".toList (Text.trimStart cs)
  let after ← closing? d d.blockEnd (Text.trimStart cs)
  some (s, after)

/-- Puts a mark in front of the first that is not longer. -/
def insertMark (m : Opening × List Char) : List (Opening × List Char) → List (Opening × List Char)
  | [] => [m]
  | n :: ns => if n.2.length ≤ m.2.length then m :: n :: ns else n :: insertMark m ns

/-- The opening marks of a language, longest first; equally long ones in a fixed order. -/
def openings (d : Delimiters) : List (Opening × List Char) :=
  let marks : List (Opening × List Char) :=
    [(.variable, d.variableStart.toList)] ++
    (d.lineStatement.map fun s => (.lineStatement, s.toList)).toList ++
    (d.lineComment.map fun s => (.lineComment, s.toList)).toList ++
    [(.comment, d.commentStart.toList), (.block, d.blockStart.toList)]
  marks.foldr insertMark []

/-- What follows an opening mark at the start of `cs`. A line statement starts a line; a line
comment starts a line or follows text. -/
def opening? (before : Option Char) (cs : List Char) : Opening × List Char →
    Option (List Char)
  | (.lineStatement, mark) =>
    if before.all (· == '\n') then
      Text.strip? mark (cs.dropWhile fun c => c == ' ' || c == '\t' || c == '\x0b')
    else none
  | (.lineComment, mark) =>
    if before.all (fun c => c == '\n' || !Char.isBlank c) then
      Text.strip? mark (cs.dropWhile isGap)
    else none
  | (_, mark) => Text.strip? mark cs

/-- The opening at the start of `cs`, its sign, and what follows it. -/
def openingAt? (d : Delimiters) (marks : List (Opening × List Char)) (before : Option Char)
    (cs : List Char) : Option (Opening × Option Char × List Char) :=
  match openRaw? d cs with
  | some (s, after) => some (.raw, s, after)
  | none =>
    marks.findSome? fun m =>
      (opening? before cs m).map fun after =>
        let (s, after) := sign after
        (m.1, s, after)

/-- The first place where `found?` succeeds, given the character in front of it: the text before
that place, the rest from there on, and what was found. -/
def search {α : Type} (found? : Option Char → List Char → Option α) :
    (before : Option Char) → (passed : List Char) → List Char → Option (List Char × List Char × α)
  | before, passed, [] => (found? before []).map fun a => (passed.reverse, [], a)
  | before, passed, c :: cs =>
    match found? before (c :: cs) with
    | some a => some (passed.reverse, c :: cs, a)
    | none => search found? (some c) (c :: passed) cs

/-- The text in front of a mark, as its sign leaves it: without trailing blanks after a minus sign,
and without the blanks of an otherwise empty line if those are dropped. -/
def lstrip (d : Delimiters) (atLineStart : Bool) (s : Option Char) (isVariable : Bool)
    (text : List Char) : List Char :=
  if s == some '-' then Text.trimEnd text
  else if s != some '+' && d.lstripBlocks && !isVariable then
    let last := (text.reverse.takeWhile (· != '\n')).reverse
    let hasNewline := last.length != text.length
    if (hasNewline || atLineStart) && last.all Char.isBlank && !last.isEmpty then
      text.take (text.length - last.length)
    else text
  else text

/-- Line ends as the language wants them. -/
def normalizeNewlines (d : Delimiters) (cs : List Char) : List Char :=
  cs.flatMap fun c => if c == '\n' then d.newline.toList else [c]

/-- The token of a run of text, if it is not empty. -/
def dataToken (d : Delimiters) (line : Nat) (text : List Char) : List Token :=
  if text.isEmpty then []
  else [⟨line, .data (String.ofList (normalizeNewlines d text))⟩]

/-- One step of the scanner. -/
inductive Step where
  | finished
  | failed (e : SyntaxError)
  | next (tokens : List Token) (mode : Mode) (cursor : Cursor)

/-- Text up to the next opening, or to the end. -/
def textStep (d : Delimiters) (cur : Cursor) : Step :=
  match search (openingAt? d (openings d)) cur.before [] cur.rest with
  | some (text, fromMark, opening, s, after) =>
    let kept := lstrip d cur.atLineStart s (opening == .variable) text
    let data := dataToken d cur.line kept
    let line := cur.line + countNewlines text
    let mark := fromMark.take (fromMark.length - after.length)
    let cur := cur.advance (text ++ mark) after
    match opening with
    | .raw => .next data .raw cur
    | .comment => .next data .comment cur
    | .lineComment => .next data .lineComment cur
    | .block => .next (data ++ [⟨line, .blockBegin⟩]) (.tag .block []) cur
    | .lineStatement => .next (data ++ [⟨line, .blockBegin⟩]) (.tag .line []) cur
    | .variable => .next (data ++ [⟨line, .variableBegin⟩]) (.tag .variable []) cur
  | none =>
    if cur.rest.isEmpty then .finished
    else .next (dataToken d cur.line cur.rest) .text (cur.advance cur.rest [])

/-- The content of a raw section. -/
def rawStep (d : Delimiters) (cur : Cursor) : Step :=
  match search (fun _ cs => closeRaw? d cs) cur.before [] cur.rest with
  | some (text, _, s, after) =>
    let kept := lstrip d cur.atLineStart s false text
    .next (dataToken d cur.line kept) .text (cur.advance (cur.upTo after) after)
  | none => if cur.rest.isEmpty then .finished else .failed ⟨cur.line, .rawNotClosed⟩

/-- The content of a comment. -/
def commentStep (d : Delimiters) (cur : Cursor) : Step :=
  match search (fun _ cs => closing? d d.commentEnd cs) cur.before [] cur.rest with
  | some (_, _, after) => .next [] .text (cur.advance (cur.upTo after) after)
  | none => if cur.rest.isEmpty then .finished else .failed ⟨cur.line, .commentNotClosed⟩

/-- A comment up to the end of its line. -/
def lineCommentStep (cur : Cursor) : Step :=
  let after := cur.rest.dropWhile (· != '\n')
  .next [] .text (cur.advance (cur.upTo after) after)

/-- What follows the end of a tag at the start of `cs`. -/
def tagEnd? (d : Delimiters) (closing : Closing) (cs : List Char) : Option (List Char) :=
  match closing with
  | .block => closing? d d.blockEnd cs
  | .variable => closingVariable? d cs
  | .line => closingLine? cs

/-- The content of a text literal behind its opening mark, with escapes as written, and what follows
its closing mark. -/
def stringBody? (mark : Char) : List Char → Option (List Char × List Char)
  | [] => none
  | '\\' :: c :: cs => (stringBody? mark cs).map fun (body, rest) => ('\\' :: c :: body, rest)
  | c :: cs =>
    if c == mark then some ([], cs)
    else if c == '\\' then none
    else (stringBody? mark cs).map fun (body, rest) => (c :: body, rest)

/-- The symbol at the start of `cs`, and what follows it. -/
def symbol? (cs : List Char) : Option (Symbol × List Char) :=
  Symbol.byLength.findSome? fun s => (Text.strip? s.text.toList cs).map (s, ·)

/-- The brackets awaited after a symbol. -/
def balance (brackets : List Char) (s : Symbol) : Except SyntaxFault (List Char) :=
  let close (c : Char) : Except SyntaxFault (List Char) :=
    match brackets with
    | [] => .error (.unopenedBracket c)
    | b :: bs => if b == c then .ok bs else .error (.mismatchedBracket c b)
  match s with
  | .lbrace => .ok ('\x7d' :: brackets)
  | .lparen => .ok (')' :: brackets)
  | .lbracket => .ok (']' :: brackets)
  | .rbrace => close '\x7d'
  | .rparen => close ')'
  | .rbracket => close ']'
  | _ => .ok brackets

/-- One token inside a tag, or the end of the tag, which is only looked for outside brackets. -/
def tagStep (d : Delimiters) (size : Nat) (closing : Closing) (brackets : List Char)
    (cur : Cursor) : Step :=
  let emit (lexeme : Lexeme) (brackets : List Char) (rest : List Char) : Step :=
    .next [⟨cur.line, lexeme⟩] (.tag closing brackets) (cur.advance (cur.upTo rest) rest)
  let fail (f : SyntaxFault) : Step := .failed ⟨cur.line, f⟩
  let ended := if brackets.isEmpty then tagEnd? d closing cur.rest else none
  match ended with
  | some rest =>
    let lexeme := if closing == .variable then .variableEnd else .blockEnd
    .next [⟨cur.line, lexeme⟩] .text (cur.advance (cur.upTo rest) rest)
  | none =>
    match cur.rest with
    | [] => .finished
    | c :: cs =>
      if Char.isBlank c then
        let rest := Text.trimStart cur.rest
        .next [] (.tag closing brackets) (cur.advance (cur.upTo rest) rest)
      else
        let float := if cur.before == some '.' then none else Number.float? cur.rest
        match float with
        | some (x, rest) => emit (.float x) brackets rest
        | none =>
          match Number.integer? cur.rest with
          | some (n, rest) => emit (.integer n) brackets rest
          | none =>
            if Char.isWordPart c then
              let word := cur.rest.takeWhile Char.isWordPart
              if Text.isIdentifier word then
                emit (.name (String.ofList word)) brackets (cur.rest.drop word.length)
              else fail .badIdentifier
            else
              let body := if c == '\x27' || c == '\x22' then stringBody? c cs else none
              match body with
              | some (body, rest) =>
                match Escape.read (normalizeNewlines d body) with
                | .ok text => emit (.string (String.ofList text)) brackets rest
                | .error f => fail f
              | none =>
                match symbol? cur.rest with
                | some (s, rest) =>
                  match balance brackets s with
                  | .ok brackets => emit (.symbol s) brackets rest
                  | .error f => fail f
                | none => fail (.unexpectedChar c (size - cur.rest.length))

/-- Takes one piece off the front of the rest. -/
def step (d : Delimiters) (size : Nat) : Mode → Cursor → Step
  | .text, cur => textStep d cur
  | .raw, cur => rawStep d cur
  | .comment, cur => commentStep d cur
  | .lineComment, cur => lineCommentStep cur
  | .tag closing brackets, cur => tagStep d size closing brackets cur

/-- Steps until the end or a fault; `done` holds the tokens so far, reversed. -/
def run (d : Delimiters) (size : Nat) : (fuel : Nat) → Mode → Cursor → (done : List Token) →
    List Token × Option SyntaxError
  | 0, _, _, done => (done.reverse, none)
  | fuel + 1, mode, cur, done =>
    match step d size mode cur with
    | .finished => (done.reverse, none)
    | .failed e => (done.reverse, some e)
    | .next tokens mode cur => run d size fuel mode cur (tokens.reverse ++ done)

end Scanner

/-- The source with unified line ends, and without the one at its end unless that is kept. -/
def Delimiters.prepare (d : Delimiters) (source : String) : List Char :=
  let cs := Text.unifyNewlines source.toList
  if !d.keepTrailingNewline && cs.getLast? == some '\n' then cs.dropLast else cs

/-- The tokens of a source, up to the first fault if there is one. Every piece takes at least one
character or leaves a mode, so twice the length of the source is enough steps. -/
def Delimiters.scan (d : Delimiters) (source : String) : List Token × Option SyntaxError :=
  let cs := d.prepare source
  Scanner.run d cs.length (2 * cs.length + 4) .text ⟨cs, 1, none, true⟩ []

end Stencil
