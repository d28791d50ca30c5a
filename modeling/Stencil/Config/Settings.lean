import Stencil.Config.ListField
import Stencil.Config.Dotenv
import Stencil.Data.Reader
import Stencil.Text.Case

/-!
# Settings

Six settings, each of which takes its value from the first source that gives one: the arguments,
the environment of the process, a file of variable bindings, and last its default. Names are
compared without regard to case. A variable holds text; for a list setting that text is first read
as data, and taken literally if it is none.
-/

namespace Stencil

/-- The settings, in the order in which they are checked. -/
inductive Setting where
  | directories
  | encoding
  | followLinks
  | autoescape
  | extensions
  | infoBlock
deriving DecidableEq

namespace Setting

/-- The name under which a setting is given. -/
def key : Setting → String
  | directories => "TEMPLATE_DIRS"
  | encoding => "TEMPLATE_ENCODING"
  | followLinks => "TEMPLATE_FOLLOW_LINKS"
  | autoescape => "TEMPLATE_AUTOESCAPE"
  | extensions => "TEMPLATE_EXTENSIONS"
  | infoBlock => "PATTERN_INFO_BLOCK"

/-- Settings that hold a list. -/
def isList : Setting → Bool
  | directories | extensions => true
  | _ => false

end Setting

/-- The value of a list setting: its items, or a text kept as it was given. -/
inductive ListValue where
  | items (texts : List String)
  | verbatim (text : String)
deriving DecidableEq

/-- A complete set of settings. -/
structure Settings where
  /-- Where template files are searched for. -/
  directories : ListValue := .items []
  /-- How template files are encoded. -/
  encoding : String := "utf-8"
  followLinks : Bool := false
  autoescape : Bool := true
  /-- Extensions of the template language, by path. -/
  extensions : ListValue := .items []
  /-- The block that holds a template's metadata. -/
  infoBlock : String := "patterninfo"
deriving DecidableEq

namespace Settings

/-- What is wrong with a value. -/
inductive Problem where
  /-- Neither a list nor a text. -/
  | refused (value : Datum)
  /-- Not a text. -/
  | notText
  /-- A kind of value that is never a truth value. -/
  | notTruth
  /-- A text or number that names no truth value. -/
  | unreadTruth

namespace Problem

def code : Problem → String
  | refused _ => "value_error"
  | notText => "string_type"
  | notTruth => "bool_type"
  | unreadTruth => "bool_parsing"

def message : Problem → String
  | refused v => "Value error, " ++ v.display
  | notText => "Input should be a valid string"
  | notTruth => "Input should be a valid boolean"
  | unreadTruth => "Input should be a valid boolean, unable to interpret input"

end Problem

/-- The part of a setting's value that is complained about. -/
inductive Part where
  | whole
  /-- An item of the value taken as a list. -/
  | item (index : Nat)
  /-- The value taken as a text. -/
  | asText
deriving DecidableEq

/-- A problem with a part of a setting. -/
structure Complaint where
  setting : Setting
  part : Part := .whole
  problem : Problem

/-- The value of the first binding whose name is `key`, and failing that of the first whose name
differs from it in case only. -/
def argument? (args : List (String × Datum)) (key : String) : Option Datum :=
  let fold (s : String) := Text.lower s.toList
  ((args.find? fun (k, _) => k == key).or
    (args.find? fun (k, _) => fold k == fold key)).map (·.2)

/-- The value of the last binding of a variable that is not empty, up to case. -/
def binding? (vars : List (String × String)) (key : String) : Option String :=
  let fold (s : String) := Text.lower s.toList
  (vars.reverse.find? fun (k, v) => fold k == fold key && v != "").map (·.2)

/-- The value that a variable gives to a setting. Data that denote null give none. -/
def ofVariable? (vars : List (String × String)) (s : Setting) : Option Datum :=
  match binding? vars s.key with
  | none => none
  | some raw =>
    if s.isList then
      match Datum.parse? raw with
      | some .null => none
      | some v => some v
      | none => some (.text raw)
    else some (.text raw)

/-- Where settings come from. -/
structure Sources where
  arguments : List (String × Datum) := []
  environment : List (String × String) := []
  /-- The text of the file of bindings, if there is one. -/
  file : Option String := none

/-- The value given to a setting by the first source that gives one. -/
def Sources.value? (src : Sources) (s : Setting) : Option Datum :=
  match argument? src.arguments s.key with
  | some v => some v
  | none =>
    match ofVariable? src.environment s with
    | some v => some v
    | none =>
      match src.file with
      | none => none
      | some text =>
        let bound := (Dotenv.parse src.environment text).filterMap fun (k, v) => v.map (k, ·)
        ofVariable? bound s

/-- The complaints about the items of a list that should be texts. -/
def itemComplaints (s : Setting) : (index : Nat) → List Datum → List Complaint
  | _, [] => []
  | i, .text _ :: rest => itemComplaints s (i + 1) rest
  | i, _ :: rest => ⟨s, .item i, .notText⟩ :: itemComplaints s (i + 1) rest

/-- A value as the value of a list setting. -/
def checkList (s : Setting) (v : Datum) : Except (List Complaint) ListValue :=
  match ListField.parse v with
  | .error v => .error [⟨s, .whole, .refused v⟩]
  | .ok (.text t) => .ok (.verbatim t)
  | .ok (.list items) =>
    match itemComplaints s 0 items with
    | [] => .ok (.items (items.filterMap Datum.text?))
    | complaints => .error (complaints ++ [⟨s, .asText, .notText⟩])
  | .ok v => .error [⟨s, .whole, .refused v⟩]

/-- A value as a text. -/
def checkText (s : Setting) : Datum → Except (List Complaint) String
  | .text t => .ok t
  | _ => .error [⟨s, .whole, .notText⟩]

/-- A value as a truth value: itself, one of the two numbers, or a word. -/
def checkTruth (s : Setting) : Datum → Except (List Complaint) Bool
  | .bool b => .ok b
  | .int 0 => .ok false
  | .int 1 => .ok true
  | .int _ => .error [⟨s, .whole, .unreadTruth⟩]
  | .float x =>
    if x.isZero then .ok false
    else if x == Binary64.one then .ok true
    else .error [⟨s, .whole, .notTruth⟩]
  | .text t =>
    let word := String.ofList (Text.lower t.toList)
    if ["1", "t", "true", "y", "yes", "on"].contains word then .ok true
    else if ["0", "f", "false", "n", "no", "off"].contains word then .ok false
    else .error [⟨s, .whole, .unreadTruth⟩]
  | _ => .error [⟨s, .whole, .notTruth⟩]

/-- The checked value of a setting, or its default. -/
def field {α : Type} (src : Sources) (s : Setting)
    (check : Setting → Datum → Except (List Complaint) α) (default : α) :
    Except (List Complaint) α :=
  match src.value? s with
  | some v => check s v
  | none => .ok default

/-- The complaints of a checked value. -/
def complaints {α : Type} : Except (List Complaint) α → List Complaint
  | .ok _ => []
  | .error cs => cs

/-- The settings that the sources give, or all complaints in the order of the settings. -/
def load (src : Sources) : Except (List Complaint) Settings :=
  let base : Settings := {}
  let directories := field src .directories checkList base.directories
  let encoding := field src .encoding checkText base.encoding
  let followLinks := field src .followLinks checkTruth base.followLinks
  let autoescape := field src .autoescape checkTruth base.autoescape
  let extensions := field src .extensions checkList base.extensions
  let infoBlock := field src .infoBlock checkText base.infoBlock
  match directories, encoding, followLinks, autoescape, extensions, infoBlock with
  | .ok directories, .ok encoding, .ok followLinks, .ok autoescape, .ok extensions,
    .ok infoBlock =>
    .ok { directories, encoding, followLinks, autoescape, extensions, infoBlock }
  | _, _, _, _, _, _ =>
    .error (complaints directories ++ complaints encoding ++ complaints followLinks ++
      complaints autoescape ++ complaints extensions ++ complaints infoBlock)

end Settings

end Stencil
