import Stencil.Render.Evaluate
import Stencil.Scope.Parts

/-!
# Loops

A loop runs its body once for every item of a sequence. Its alternative runs unless some run of the
body came to its end. A recursive loop can be called with another sequence from within its body, and
gives the text that it writes.
-/

namespace Stencil

namespace Run

/-- Runs a body for the items of a sequence, and tells whether some run of it came to its end; `fuel`
bounds the number of items. -/
def eachItem (next : Run (Option Value)) (body : Value → Run Flow) : (fuel : Nat) →
    (completed : Bool) → Run Bool
  | 0, _ => accident .tooDeep
  | fuel + 1, completed => do
    match ← next with
    | none => return completed
    | some v =>
      match ← body v with
      | .next => eachItem next body fuel true
      | .continueLoop => eachItem next body fuel completed
      | .breakLoop => return completed

/-- The items of a sequence that pass the test of a loop, as a sequence. The test is evaluated in a
function of its own. -/
def passing (f : Frame) (target : Target) (test : Option Expr) (source : Value) : Run Value := do
  match test with
  | none => return source
  | some test =>
    let scope := f.scope.inner.ofLoopTest target test
    let activation ← newActivation { base := scope.level, outer := some f.activation }
    let frame := { f.inner scope with activation }
    enter frame
    let items ← try iterate source catch e => newIterator (.failing e)
    return .iterator (← newIterator (.tested items target test frame))

def newLoop (l : LoopCell) : Run Nat := do
  let w ← get
  set { w with loops := w.loops.push l }
  return w.loops.size

/-- Runs the body of a loop for an item, in the frame of the body. -/
def runOnce (eng : Engine) (f : Frame) (target : Target) (body : Frame → Run Flow) (v : Value) :
    Run Flow := do
  assign eng f target v
  enter f
  body f

/-- Runs the body of a loop for every item that is left of a sequence. -/
def runEach (eng : Engine) (f : Frame) (provided : Bool) (loop : LoopCell) (target : Target)
    (body : Frame → Run Flow) : Run Bool := do
  if provided then
    let cell ← newLoop loop
    eachItem (advanceLoop eng cell) (fun v => do
      setName f "loop" (.loop cell)
      runOnce eng f target body v) itemLimit false
  else eachItem (eng.next loop.iterator) (runOnce eng f target body) itemLimit false

/-- Runs the body of a loop for every item of a sequence, in the frame of the body. -/
def runItems (eng : Engine) (f : Frame) (provided : Bool) (recurse : Option LoopBody) (depth0 : Nat)
    (target : Target) (source : Value) (body : Frame → Run Flow) : Run Bool := do
  let iterator ← iterate source
  let completed ← runEach eng f provided { source, iterator, depth0, recurse } target body
  leave f
  return completed

/-- Leaves a scope whose body came to its end. -/
def leaveAfter (f : Frame) (flow : Flow) : Run Flow :=
  if flow == .next then do
    leave f
    return flow
  else return flow

/-- Runs the alternative of a loop. -/
def runAlternative (f : Frame) (orElse : List Stmt) (run : Frame → Run Flow) : Run Flow := do
  match orElse with
  | [] => return .next
  | _ =>
    let frame := f.inner (f.scope.inner.visitAll orElse)
    enter frame
    leaveAfter frame (← run frame)

/-- Takes the value of `loop` away where a loop provides it. -/
def clearLoop (f : Frame) (provided : Bool) (level : Nat) : Run Unit :=
  if provided then setVariable f.activation ⟨level, "loop"⟩ none else return ()

/-- Runs a loop that is not recursive. -/
def runLoop (eng : Engine) (f : Frame) (target : Target) (iter : Expr) (body orElse : List Stmt)
    (test : Option Expr) (runBody runElse : Frame → Run Flow) : Run Flow := do
  let provided := Stmt.loopProvided body orElse false
  let frame := f.inner (f.scope.inLoop target body provided)
  clearLoop f provided frame.scope.level
  let source ← passing f target test (← evaluate eng f iter)
  if ← runItems eng frame provided none 0 target source runBody then return .next
  else runAlternative f orElse runElse

/-- Text as a value: safe where text is escaped. -/
def bufferValue (f : Frame) (text : String) : Run Value := do
  return .text text (← escapes f)

/-- Runs a recursive loop on a sequence, in the frame around its body. -/
def runAgain (eng : Engine) (l : LoopBody) (around : Frame) (source : Value) (depth0 : Nat) :
    Run Unit := do
  let source ← passing around l.target l.test source
  let inside := around.inner (l.frame.scope.inLoop l.target l.body true)
  if ← runItems eng inside true (some l) depth0 l.target source fun f => eng.body f l.body then
    return ()
  else discard (runAlternative around l.orElse fun f => eng.body f l.orElse)

/-- Runs a recursive loop on a sequence, in a function of its own, and gives what it writes. -/
def runRecursive (eng : Engine) (l : LoopBody) (source : Value) (depth0 : Nat) : Run Value := do
  let scope := l.frame.scope.inLoop l.target l.body true
  let activation ← newActivation { base := scope.level, outer := some l.frame.activation }
  let around := { l.frame with activation, toplevel := false, rootlevel := false }
  let text ← capture do
    runAgain eng l { around with stream := (← get).sinks.length } source depth0
  bufferValue around text

end Run

end Stencil
