import Stencil.Token.Fault
import Stencil.Tree.Outline

/-!
# Reading tokens

A parser reads a sequence of tokens from the front. A fault found while dividing the source into
tokens is raised only when the parser advances to its place, so that an objection to an earlier
token comes first.
-/

namespace Stencil.Parser

/-- What is left to read, and which constructs are open. -/
structure State where
  current : Token
  rest : List Token
  /-- What follows the last token: the end of the template, or a fault. -/
  stop : Option SyntaxError
  /-- The tags that would close the open constructs, innermost first. -/
  ends : List (List String)
  /-- The tags being parsed, innermost first. -/
  tags : List String

/-- A parser of values of type `α`. -/
abbrev P (α : Type) := StateT State (Except SyntaxError) α

/-- Fails at a given line. -/
def failAt {α : Type} (line : Nat) (f : SyntaxFault) : P α :=
  throw ⟨line, f⟩

/-- Fails at the line of the current token. -/
def fail {α : Type} (f : SyntaxFault) : P α := do
  failAt (← get).current.line f

def current : P Token := do
  return (← get).current

def lexeme : P Lexeme := do
  return (← get).current.lexeme

def currentLine : P Nat := do
  return (← get).current.line

/-- The token after the current one. -/
def State.following (s : State) : Except SyntaxError Token :=
  match s.rest, s.stop with
  | t :: _, _ => .ok t
  | [], none => .ok ⟨s.current.line, .eof⟩
  | [], some e => .error e

/-- Moves on to the following token. At the end there is nothing to move to. -/
def State.advance (s : State) : Except SyntaxError State :=
  if s.current.lexeme == .eof then .ok s
  else match s.following with
    | .ok t => .ok { s with current := t, rest := s.rest.tail }
    | .error e => .error e

/-- The current token, which is passed. -/
def next : P Token := do
  let s ← get
  set (← s.advance)
  return s.current

/-- The token after the current one, without passing any. -/
def look : P Lexeme := do
  let s ← get
  if s.current.lexeme == .eof then return .eof
  return (← s.following).lexeme

/-- Whether the current token is of the given form. -/
def at? (e : Expected) : P Bool := do
  return e.takes (← lexeme)

/-- Passes the current token if it is of the given form, and tells whether it was. -/
def skipIf (e : Expected) : P Bool := do
  if ← at? e then
    discard next
    return true
  return false

/-- Passes the current token, which must be of the given form. -/
def expect (e : Expected) : P Token := do
  if ← at? e then next
  else match ← lexeme with
    | .eof => fail (.expectedAtEnd e)
    | found => fail (.expectedToken e found)

/-- The text of a name that must come next. -/
def expectName : P (String × Nat) := do
  let t ← expect .anyName
  match t.lexeme with
  | .name s => return (s, t.line)
  | _ => return ("", t.line)

/-- Repeats a step until it gives a result. -/
def iterate {α β : Type} (step : α → P (α ⊕ β)) : (fuel : Nat) → α → P β
  | 0, _ => fail .tooDeep
  | fuel + 1, a => do
    match ← step a with
    | .inl a => iterate step fuel a
    | .inr b => return b

/-- Repeats a step that passes a token each time until it gives a result. -/
def repeatUntil {α β : Type} (step : α → P (α ⊕ β)) (a : α) : P β := do
  iterate step ((← get).rest.length + 3) a

/-- Runs a parser inside a construct that the given tags close. -/
def closedBy {α : Type} (ends : List String) (p : P α) : P α := do
  modify fun s => { s with ends := ends :: s.ends }
  let a ← p
  modify fun s => { s with ends := s.ends.tail }
  return a

/-- The tags looked for, given the open constructs. -/
def nesting (ends : List (List String)) (tags : List String) : Nesting :=
  { lookingFor := ends.head?.getD []
    expected := ends.flatten
    innermost := tags.head? }

end Stencil.Parser
