import Stencil.Token.Fault
import Stencil.Data.Basic

/-!
# What can go wrong while a template runs

Errors of the template language carry a message. Accidents are failures of a single operation, such
as adding a number to a text; they are told apart by their kind only.
-/

namespace Stencil

/-- The kinds of failure of a single operation. -/
inductive Accident where
  /-- An operation on values of the wrong type, or a call with the wrong arguments. -/
  | badType
  | badValue
  | zeroDivision
  | overflow
  /-- An attribute that a value does not have. -/
  | noAttribute
  | missingKey
  | outOfRange
  /-- A number that has no literal is used as one. -/
  | unknownName
  | brokenInvariant
  | badCode
  | unknownEncoding
  | undecodable
  | misuse
  | tooDeep
deriving DecidableEq

/-- A failure. -/
inductive Fault where
  | syntaxError (e : SyntaxError)
  /-- A template that does not exist; the message need not be a text. -/
  | notFound (message : Datum) (display : String)
  /-- None of several templates exists. -/
  | noneFound (message : String)
  | undefined (message : String)
  | runtime (message : String)
  | filterArgument (message : String)
  | noLoader
  | accident (a : Accident)
  /-- An expression has no value that is known beforehand. -/
  | notConstant

namespace Fault

/-- The message for an environment without a loader. -/
def noLoaderMessage : String := "no loader for this environment specified"

/-- Whether a failure is an error of the template language. -/
def isTemplateError : Fault → Bool
  | syntaxError _ | notFound _ _ | noneFound _ | undefined _ | runtime _ | filterArgument _ => true
  | _ => false

/-- The message of an error of the template language. -/
def message : Fault → String
  | syntaxError e => e.fault.message
  | notFound _ display => display
  | noneFound m | undefined m | runtime m | filterArgument m => m
  | noLoader => noLoaderMessage
  | accident _ | notConstant => ""

/-- The line that an error concerns. -/
def line? : Fault → Option Nat
  | syntaxError e => some e.line
  | _ => none

end Fault

end Stencil
