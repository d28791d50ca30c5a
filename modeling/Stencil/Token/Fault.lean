import Stencil.Token.Basic

/-!
# Syntax faults

Everything that can be wrong with the text of a template, with the wording of each fault in one
place. A fault is reported with the line it concerns.
-/

namespace Stencil

/-- The tags that were looked for when another tag, or the end of the template, was met. -/
structure Nesting where
  /-- The tags that would close the innermost open construct. -/
  lookingFor : List String
  /-- The tags that would close some enclosing construct. -/
  expected : List String
  /-- The innermost open construct. -/
  innermost : Option String
deriving DecidableEq

namespace Nesting

/-- The explanation that follows the mention of a tag, or of the end of the template. -/
def explain (n : Nesting) (tag : Option String) : List String :=
  let looking := String.intercalate " or " (n.lookingFor.map quote)
  let sought :=
    if n.lookingFor.isEmpty then []
    else if tag.any n.expected.contains then
      ["You probably made a nesting mistake. Jinja is expecting this tag, but currently looking for "
        ++ looking ++ "."]
    else ["Jinja was looking for the following tags: " ++ looking ++ "."]
  let inner := match n.innermost with
    | some t => ["The innermost block that needs to be closed is " ++ quote t ++ "."]
    | none => []
  sought ++ inner

end Nesting

/-- What is wrong with a template's text. -/
inductive SyntaxFault where
  | commentNotClosed
  | rawNotClosed
  | unexpectedChar (c : Char) (position : Nat)
  | unopenedBracket (c : Char)
  | mismatchedBracket (c : Char) (expected : Char)
  | badIdentifier
  /-- A numbered escape with too few digits, by its letter and its number of digits. -/
  | truncatedEscape (letter : Char) (digits : Nat)
  | illegalCharacter
  | unknownCharacterName
  | malformedNameEscape
  | expectedToken (expected : Expected) (found : Lexeme)
  | expectedAtEnd (expected : Expected)
  | unexpectedToken (found : Lexeme)
  | expressionExpected (found : Lexeme)
  | tagNameExpected
  | unknownTag (name : String) (nesting : Nesting)
  | unexpectedEnd (nesting : Nesting)
  | notAssignable (kind : String)
  | subscriptExpected
  | badCallArguments
  | chainedTests
  | defaultExpected
  | callExpected
  | privateImport
  | hyphenInBlockName
  | requiredBlockContent
  | blockDefinedTwice (name : String)
  | extendsNested
  | loopAssigned
  | unknownFilter (name : String)
  | unknownTest (name : String)
  | callerWithoutDefault
  /-- The nesting of the template is deeper than its number of tokens. -/
  | tooDeep
deriving DecidableEq

namespace SyntaxFault

def message : SyntaxFault → String
  | commentNotClosed => "Missing end of comment tag"
  | rawNotClosed => "Missing end of raw directive"
  | unexpectedChar c pos => "unexpected char " ++ quote c.toString ++ " at " ++ toString pos
  | unopenedBracket c => "unexpected '" ++ c.toString ++ "'"
  | mismatchedBracket c e => "unexpected '" ++ c.toString ++ "', expected '" ++ e.toString ++ "'"
  | badIdentifier => "Invalid character in identifier"
  | truncatedEscape letter digits =>
    "truncated \\" ++ letter.toString ++ String.ofList (List.replicate digits 'X') ++ " escape"
  | illegalCharacter => "illegal Unicode character"
  | unknownCharacterName => "unknown Unicode character name"
  | malformedNameEscape => "malformed \\N character escape"
  | expectedToken e found =>
    "expected token " ++ quote e.describe ++ ", got " ++ quote found.describe
  | expectedAtEnd e => "unexpected end of template, expected " ++ quote e.describe ++ "."
  | unexpectedToken found => "unexpected " ++ quote found.describe
  | expressionExpected found => "Expected an expression, got " ++ quote found.describe
  | tagNameExpected => "tag name expected"
  | unknownTag name nesting =>
    String.intercalate " "
      (("Encountered unknown tag " ++ quote name ++ ".") :: nesting.explain (some name))
  | unexpectedEnd nesting =>
    String.intercalate " " ("Unexpected end of template." :: nesting.explain none)
  | notAssignable kind => "can't assign to " ++ quote kind
  | subscriptExpected => "expected name or number"
  | badCallArguments => "invalid syntax for function call expression"
  | chainedTests => "You cannot chain multiple tests with is"
  | defaultExpected => "non-default argument follows default argument"
  | callExpected => "expected call"
  | privateImport => "names starting with an underline can not be imported"
  | hyphenInBlockName =>
    "Block names in Jinja have to be valid Python identifiers and may not contain hyphens, "
      ++ "use an underscore instead."
  | requiredBlockContent => "Required blocks can only contain comments or whitespace"
  | blockDefinedTwice name => "block " ++ quote name ++ " defined twice"
  | extendsNested => "cannot use extend from a non top-level scope"
  | loopAssigned => "Can't assign to special loop variable in for-loop target"
  | unknownFilter name => "No filter named " ++ quote name ++ "."
  | unknownTest name => "No test named " ++ quote name ++ "."
  | callerWithoutDefault =>
    "When using macros or call blocks the special \"caller\" argument must be omitted "
      ++ "or be given a default."
  | tooDeep => "template is nested too deeply"

/-- Faults of meaning rather than of form: the text can be read, and asks for something that is not
allowed. -/
def isAssertion : SyntaxFault → Bool
  | privateImport | blockDefinedTwice _ | extendsNested | loopAssigned | unknownFilter _
  | unknownTest _ | callerWithoutDefault => true
  | _ => false

end SyntaxFault

/-- A syntax fault with its line. -/
structure SyntaxError where
  line : Nat
  fault : SyntaxFault
deriving DecidableEq

end Stencil
