import Stencil.Tree.Parser.Stream

/-!
# Parsing expressions

From the loosest to the tightest: inline conditions, `or`, `and`, `not`, comparisons, sums,
concatenation, products, powers, signs, and then subscripts, calls, filters and tests behind a
primary. Each parser takes the parsers of nested expressions as an argument.
-/

namespace Stencil.Parser

/-- The parsers that other parsers call for nested parts. -/
structure Grammar where
  /-- An expression, with or without inline conditions. -/
  expression : (conditions : Bool) → P Expr
  /-- An expression that may start with `not`. -/
  negation : P Expr
  /-- An expression that may start with a sign, with or without filters and tests behind it. -/
  signed : (filters : Bool) → P Expr
  /-- The statements up to one of the given tags. -/
  statements : (ends : Option (List String)) → P (List Stmt)

/-- Left-associative operators between operands of one kind. The line of a result is that of its
first operand, or of the token that follows the previous result. -/
def leftAssociative (operand : P Expr) (op? : Lexeme → Option BinaryOp) : P Expr := do
  let line ← currentLine
  let left ← operand
  repeatUntil (fun (line, left) => do
    match op? (← lexeme) with
    | none => return .inr left
    | some op =>
      discard next
      let right ← operand
      return .inl (← currentLine, Expr.binary line op left right)) (line, left)

/-- Whether the current token ends a tuple. -/
def atTupleEnd : P Bool := do
  match ← lexeme with
  | .variableEnd | .blockEnd | .symbol .rparen => return true
  | _ => return false

/-- Items divided by commas: one item stands for itself, a comma makes a tuple. -/
def tupleItems {α : Type} (item : P α) : P (List α × Bool × Nat) := do
  let line ← currentLine
  repeatUntil (fun (items, isTuple, line) => do
    unless items.isEmpty do discard (expect (.symbol .comma))
    if ← atTupleEnd then return .inr (items.reverse, isTuple, line)
    let items := (← item) :: items
    if ← at? (.symbol .comma) then return .inl (items, true, ← currentLine)
    return .inr (items.reverse, isTuple, line)) ([], false, line)

/-- An expression or a tuple of expressions. Only between parentheses may a tuple be empty. -/
def tuple (g : Grammar) (conditions inParentheses : Bool) : P Expr := do
  match ← tupleItems (g.expression conditions) with
  | (items, true, line) => return .tuple line items
  | (item :: _, false, _) => return item
  | ([], false, line) =>
    unless inParentheses do fail (.expressionExpected (← lexeme))
    return .tuple line []

/-- Items between an opening bracket, which is passed first, and a closing one; a comma may follow
the last item. -/
def bracketed {α : Type} (close : Symbol) (item : P α) : P (List α) := do
  discard next
  let items ← repeatUntil (fun items => do
    if ← at? (.symbol close) then return .inr items.reverse
    unless items.isEmpty do discard (expect (.symbol .comma))
    if ← at? (.symbol close) then return .inr items.reverse
    return .inl ((← item) :: items)) []
  discard (expect (.symbol close))
  return items

/-- A pair of a dictionary. -/
def pair (g : Grammar) : P (Expr × Expr) := do
  let key ← g.expression true
  discard (expect (.symbol .colon))
  return (key, ← g.expression true)

/-- The texts of adjacent string literals, joined to the text so far. -/
def strings (text : String) : P String :=
  repeatUntil (fun text => do
    match ← lexeme with
    | .string s =>
      discard next
      return .inl (text ++ s)
    | _ => return .inr text) text

/-- The value of a name that is a literal. -/
def literalName? (s : String) : Option Datum :=
  if s == "true" || s == "True" then some (.bool true)
  else if s == "false" || s == "False" then some (.bool false)
  else if s == "none" || s == "None" then some .null
  else none

/-- A name, a literal, or an expression in brackets. -/
def primary (g : Grammar) : P Expr := do
  let ⟨line, found⟩ ← current
  match found with
  | .name s =>
    discard next
    match literalName? s with
    | some v => return .const line v
    | none => return .name line s
  | .string s =>
    discard next
    return .const line (.text (← strings s))
  | .integer n =>
    discard next
    return .const line (.int n)
  | .float x =>
    discard next
    return .const line (.float x)
  | .symbol .lparen =>
    discard next
    let e ← tuple g true true
    discard (expect (.symbol .rparen))
    return e
  | .symbol .lbracket => return .list line (← bracketed .rbracket (g.expression true))
  | .symbol .lbrace => return .dict line (← bracketed .rbrace (pair g))
  | _ => failAt line (.unexpectedToken found)

/-- Arguments read so far, positional and named ones reversed. -/
structure PartialArgs where
  positional : List Expr := []
  named : List (String × Expr) := []
  spread : Option Expr := none
  spreadNamed : Option Expr := none
  any : Bool := false

/-- One argument: positional, named, or one of the two spread forms. No positional argument follows
another form, and nothing follows a named spread argument. -/
def argument (g : Grammar) (line : Nat) (a : PartialArgs) : P PartialArgs := do
  let ensure (b : Bool) : P Unit := unless b do failAt line .badCallArguments
  match ← lexeme with
  | .symbol .mul =>
    ensure (a.spread.isNone && a.spreadNamed.isNone)
    discard next
    return { a with spread := some (← g.expression true), any := true }
  | .symbol .pow =>
    ensure a.spreadNamed.isNone
    discard next
    return { a with spreadNamed := some (← g.expression true), any := true }
  | .name key =>
    if (← look) == .symbol .assign then
      ensure a.spreadNamed.isNone
      discard next
      discard next
      return { a with named := (key, ← g.expression true) :: a.named, any := true }
    else
      ensure (a.spread.isNone && a.spreadNamed.isNone && a.named.isEmpty)
      return { a with positional := (← g.expression true) :: a.positional, any := true }
  | _ =>
    ensure (a.spread.isNone && a.spreadNamed.isNone && a.named.isEmpty)
    return { a with positional := (← g.expression true) :: a.positional, any := true }

/-- The arguments of a call in parentheses. -/
def arguments (g : Grammar) : P Args := do
  let opening ← expect (.symbol .lparen)
  let a ← repeatUntil (fun (a : PartialArgs) => do
    if ← at? (.symbol .rparen) then return .inr a
    if a.any then
      discard (expect (.symbol .comma))
      if ← at? (.symbol .rparen) then return .inr a
    return .inl (← argument g opening.line a)) {}
  discard (expect (.symbol .rparen))
  return .mk a.positional.reverse a.named.reverse a.spread a.spreadNamed

/-- Arguments, if an opening parenthesis follows. -/
def optionalArguments (g : Grammar) : P Args := do
  if ← at? (.symbol .lparen) then arguments g else return .none

/-- An optional bound of a slice. -/
def bound (g : Grammar) : P (Option Expr) := do
  match ← lexeme with
  | .symbol .rbracket | .symbol .comma => return none
  | _ => return some (← g.expression true)

/-- An index or a slice. -/
def subscribed (g : Grammar) : P Expr := do
  let line ← currentLine
  let first ← if ← at? (.symbol .colon) then pure none else some <$> g.expression true
  match first, ← at? (.symbol .colon) with
  | some e, false => return e
  | start, _ =>
    discard next
    let stop ← if ← at? (.symbol .colon) then pure none else bound g
    let step ← if ← skipIf (.symbol .colon) then bound g else pure none
    return .slice line start stop step

/-- A member or an item of `e`. -/
def subscript (g : Grammar) (e : Expr) : P Expr := do
  let t ← next
  if t.lexeme == .symbol .dot then
    let member ← next
    match member.lexeme with
    | .name s => return .member t.line e s
    | .integer n => return .item t.line e (.const member.line (.int n))
    | _ => failAt member.line .subscriptExpected
  else
    let indices ← repeatUntil (fun indices => do
      if ← at? (.symbol .rbracket) then return .inr indices.reverse
      unless indices.isEmpty do discard (expect (.symbol .comma))
      return .inl ((← subscribed g) :: indices)) []
    discard (expect (.symbol .rbracket))
    match indices with
    | [i] => return .item t.line e i
    | _ => return .item t.line e (.tuple t.line indices)

/-- A call of `e`. -/
def call (g : Grammar) (e : Expr) : P Expr := do
  let line ← currentLine
  return .call line e (← arguments g)

/-- Members, items and calls behind `e`. -/
def suffixes (g : Grammar) (e : Expr) : P Expr :=
  repeatUntil (fun e => do
    match ← lexeme with
    | .symbol .dot | .symbol .lbracket => return .inl (← subscript g e)
    | .symbol .lparen => return .inl (← call g e)
    | _ => return .inr e) e

/-- The rest of a name with dots in it. -/
def dottedName (start : String) : P String :=
  repeatUntil (fun name => do
    if ← skipIf (.symbol .dot) then
      let (part, _) ← expectName
      return .inl (name ++ "." ++ part)
    else return .inr name) start

/-- The name and arguments of a filter applied to `subject`. -/
def filterNamed (g : Grammar) (subject : Option Expr) : P Expr := do
  let (start, line) ← expectName
  let name ← dottedName start
  return .filter line subject name (← optionalArguments g)

/-- Filters behind a subject that may be missing. -/
def filters (g : Grammar) (subject : Option Expr) : P (Option Expr) :=
  repeatUntil (fun subject => do
    if ← skipIf (.symbol .pipe) then return .inl (some (← filterNamed g subject))
    else return .inr subject) subject

/-- Whether a token can start the single argument of a test without parentheses. -/
def startsTestArgument : Lexeme → Bool
  | .name s => !(s == "else" || s == "or" || s == "and")
  | .string _ | .integer _ | .float _ => true
  | .symbol .lbracket | .symbol .lbrace => true
  | _ => false

/-- A test of `e`. -/
def test (g : Grammar) (e : Expr) : P Expr := do
  let t ← next
  let negated ← skipIf (.word "not")
  let (start, _) ← expectName
  let name ← dottedName start
  let args : Args ←
    if ← at? (.symbol .lparen) then arguments g
    else if startsTestArgument (← lexeme) then do
      if ← at? (.word "is") then fail .chainedTests
      let arg ← suffixes g (← primary g)
      pure (.mk [arg] [] none none)
    else pure .none
  let node := Expr.test t.line e name args
  return if negated then .unary t.line .not node else node

/-- Filters, tests and calls behind `e`. -/
def filtersAndTests (g : Grammar) (e : Expr) : P Expr :=
  repeatUntil (fun e => do
    match ← lexeme with
    | .symbol .pipe => return .inl ((← filters g (some e)).getD e)
    | .name "is" => return .inl (← test g e)
    | .symbol .lparen => return .inl (← call g e)
    | _ => return .inr e) e

/-- An expression that may start with a sign. -/
def signed (g : Grammar) (withFilters : Bool) : P Expr := do
  let line ← currentLine
  let e ← match ← lexeme with
    | .symbol .sub => do
      discard next
      pure (Expr.unary line .neg (← g.signed false))
    | .symbol .add => do
      discard next
      pure (Expr.unary line .pos (← g.signed false))
    | _ => primary g
  let e ← suffixes g e
  if withFilters then filtersAndTests g e else return e

def powers (g : Grammar) : P Expr :=
  leftAssociative (g.signed true) fun
    | .symbol .pow => some .pow
    | _ => none

def products (g : Grammar) : P Expr :=
  leftAssociative (powers g) fun
    | .symbol .mul => some .mul
    | .symbol .div => some .div
    | .symbol .floorDiv => some .floorDiv
    | .symbol .mod => some .mod
    | _ => none

/-- Expressions joined as text. -/
def concatenation (g : Grammar) : P Expr := do
  let line ← currentLine
  let first ← products g
  let parts ← repeatUntil (fun parts => do
    if ← skipIf (.symbol .tilde) then return .inl ((← products g) :: parts)
    else return .inr parts.reverse) [first]
  match parts with
  | [e] => return e
  | parts => return .concat line parts

def sums (g : Grammar) : P Expr :=
  leftAssociative (concatenation g) fun
    | .symbol .add => some .add
    | .symbol .sub => some .sub
    | _ => none

/-- The comparison that the current token stands for, which is passed. -/
def comparison? : P (Option Comparison) := do
  let op : Option Comparison := match ← lexeme with
    | .symbol .eq => some .eq
    | .symbol .ne => some .ne
    | .symbol .gt => some .gt
    | .symbol .gteq => some .gteq
    | .symbol .lt => some .lt
    | .symbol .lteq => some .lteq
    | .name "in" => some .isIn
    | _ => none
  match op with
  | some op =>
    discard next
    return some op
  | none =>
    if ← at? (.word "not") then
      if (← look) == .name "in" then
        discard next
        discard next
        return some .notIn
    return none

/-- A chain of comparisons. Its line is that of the token behind it. -/
def comparisons (g : Grammar) : P Expr := do
  let subject ← sums g
  let operands ← repeatUntil (fun operands => do
    match ← comparison? with
    | some op => return .inl ((op, ← sums g) :: operands)
    | none => return .inr operands.reverse) []
  if operands.isEmpty then return subject
  return .compare (← currentLine) subject operands

def negation (g : Grammar) : P Expr := do
  if ← at? (.word "not") then
    let t ← next
    return .unary t.line .not (← g.negation)
  comparisons g

def conjunction (g : Grammar) : P Expr :=
  leftAssociative (g.negation) fun
    | .name "and" => some .and
    | _ => none

def disjunction (g : Grammar) : P Expr :=
  leftAssociative (conjunction g) fun
    | .name "or" => some .or
    | _ => none

/-- Inline conditions: a value, its test, and what to take otherwise. -/
def conditional (g : Grammar) : P Expr := do
  let line ← currentLine
  let first ← disjunction g
  repeatUntil (fun (line, value) => do
    if ← skipIf (.word "if") then
      let test ← disjunction g
      let orElse ← if ← skipIf (.word "else") then some <$> g.expression true else pure none
      return .inl (← currentLine, Expr.cond line test value orElse)
    else return .inr value) (line, first)

/-- An expression, with or without inline conditions. -/
def expression (g : Grammar) (conditions : Bool) : P Expr :=
  if conditions then conditional g else disjunction g

end Stencil.Parser
