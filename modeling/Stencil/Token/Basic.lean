import Stencil.Decimal.Binary64
import Stencil.Text.Quoted

/-!
# Tokens

The words of a template: plain text between tags, the marks that open and close tags, and the names,
literals and symbols inside them. Every token knows the line it starts on.
-/

namespace Stencil

/-- The delimiters and white space rules by which a source is divided into tokens. -/
structure Delimiters where
  blockStart : String := "\x7b%"
  blockEnd : String := "%\x7d"
  variableStart : String := "\x7b\x7b"
  variableEnd : String := "\x7d\x7d"
  commentStart : String := "\x7b#"
  commentEnd : String := "#\x7d"
  /-- The mark of a line that is a statement as a whole. -/
  lineStatement : Option String := none
  /-- The mark of a comment up to the end of the line. -/
  lineComment : Option String := none
  /-- Drop the line end right after a block or comment. -/
  trimBlocks : Bool := false
  /-- Drop the blanks between the start of a line and a block or comment. -/
  lstripBlocks : Bool := false
  /-- Keep the line end at the end of the source. -/
  keepTrailingNewline : Bool := false
  /-- What every line end of the source becomes. -/
  newline : String := "\n"
deriving DecidableEq

/-- Operators and punctuation. -/
inductive Symbol where
  | add | sub | mul | div | floorDiv | mod | pow | tilde
  | eq | ne | gt | gteq | lt | lteq | assign
  | dot | colon | semicolon | comma | pipe
  | lparen | rparen | lbracket | rbracket | lbrace | rbrace
deriving DecidableEq

namespace Symbol

def text : Symbol → String
  | add => "+" | sub => "-" | mul => "*" | div => "/" | floorDiv => "//" | mod => "%"
  | pow => "**" | tilde => "~" | eq => "==" | ne => "!=" | gt => ">" | gteq => ">="
  | lt => "<" | lteq => "<=" | assign => "=" | dot => "." | colon => ":" | semicolon => ";"
  | comma => "," | pipe => "|" | lparen => "(" | rparen => ")" | lbracket => "["
  | rbracket => "]" | lbrace => "\x7b" | rbrace => "\x7d"

/-- The symbols of two characters, then those of one: the order in which they are tried. -/
def byLength : List Symbol :=
  [floorDiv, pow, eq, ne, gteq, lteq, add, sub, mul, div, mod, tilde, gt, lt, assign, dot, colon,
    semicolon, comma, pipe, lparen, rparen, lbracket, rbracket, lbrace, rbrace]

end Symbol

/-- What a token is. -/
inductive Lexeme where
  | data (text : String)
  | blockBegin
  | blockEnd
  | variableBegin
  | variableEnd
  | name (text : String)
  | string (text : String)
  | integer (value : Nat)
  | float (value : Binary64)
  | symbol (s : Symbol)
  /-- The end of the template. -/
  | eof
deriving DecidableEq

namespace Lexeme

/-- How a token is called in a message: a name by itself, a symbol by its text, others by kind. -/
def describe : Lexeme → String
  | data _ => "template data / text"
  | blockBegin => "begin of statement block"
  | blockEnd => "end of statement block"
  | variableBegin => "begin of print statement"
  | variableEnd => "end of print statement"
  | name s => s
  | string _ => "string"
  | integer _ => "integer"
  | float _ => "float"
  | symbol s => s.text
  | eof => "end of template"

end Lexeme

/-- A token with the line it starts on. -/
structure Token where
  line : Nat
  lexeme : Lexeme
deriving DecidableEq

/-- What is asked for at a place in the token sequence. -/
inductive Expected where
  | anyName
  | word (text : String)
  | symbol (s : Symbol)
  | blockEnd
  | variableEnd
deriving DecidableEq

namespace Expected

/-- Whether a token is what is asked for. -/
def takes : Expected → Lexeme → Bool
  | anyName, .name _ => true
  | word w, .name s => s == w
  | symbol s, .symbol s' => s == s'
  | blockEnd, .blockEnd => true
  | variableEnd, .variableEnd => true
  | _, _ => false

def describe : Expected → String
  | anyName => "name"
  | word w => w
  | symbol s => s.text
  | blockEnd => Lexeme.describe .blockEnd
  | variableEnd => Lexeme.describe .variableEnd

end Expected

end Stencil
