import Stencil.Config.Settings
import Stencil.Tree.Parser

/-!
# Environment options

How a template environment is set up: the flavour of environment, the options given to it, and the
settings that stand in for options that are not given. Options come as named plain values.
-/

namespace Stencil

/-- What an undefined name stands for. -/
inductive UndefinedKind where
  /-- Prints as nothing; any other use fails. -/
  | lenient
  /-- Fails on every use but a test whether it is defined. -/
  | strict
  /-- Like `lenient`, and its members and items are undefined again. -/
  | chainable
  /-- Like `lenient`, and prints as the expression that was undefined. -/
  | debug
deriving DecidableEq

/-- The flavours of environment. -/
inductive Flavour where
  /-- Options default to the settings, and embedded templates are kept in a registry. -/
  | configured
  /-- Embedded templates are kept in a registry. -/
  | pattern
  /-- No embeds. -/
  | plain
  /-- Embeds can be written, but are not registered. -/
  | plainWithEmbed
  /-- The shared environment, set up from the settings alone. -/
  | shared
deriving DecidableEq

namespace Flavour

/-- Whether embedded templates are kept in a registry. -/
def hasRegistry : Flavour → Bool
  | configured | pattern | shared => true
  | plain | plainWithEmbed => false

end Flavour

/-- An extension of the language. -/
inductive Extension where
  | exprStmt
  | loopControls
  | embed
deriving DecidableEq

namespace Extension

/-- The name under which an extension is listed. -/
def identifier : Extension → String
  | exprStmt => "jinja2.ext.ExprStmtExtension"
  | loopControls => "jinja2.ext.LoopControlExtension"
  | embed => "pattern_inspector.engines.jinja.extensions.EmbedExtension"

/-- Why a path leads to no extension. -/
inductive PathFault where
  | unknownModule
  | unknownMember
deriving DecidableEq

/-- Modules that exist but hold no further extension. -/
def knownModules : List String :=
  ["jinja2", "jinja2.ext", "pattern_inspector", "pattern_inspector.engines",
    "pattern_inspector.engines.jinja", "pattern_inspector.engines.jinja.extensions"]

/-- The part of a path before its last dot. -/
def parentPath (path : String) : String :=
  String.intercalate "." ((path.splitOn ".").dropLast)

/-- The extension that a path leads to. -/
def ofPath (path : String) : Except PathFault Extension :=
  match path with
  | "jinja2.ext.do" | "jinja2.ext.ExprStmtExtension" => .ok exprStmt
  | "jinja2.ext.loopcontrols" | "jinja2.ext.LoopControlExtension" => .ok loopControls
  | "pattern_inspector.engines.jinja.extensions.EmbedExtension" | "@EmbedExtension" => .ok embed
  | _ =>
    if knownModules.contains path || knownModules.contains (parentPath path) then
      .error .unknownMember
    else .error .unknownModule

end Extension

/-- Why an environment cannot be set up. -/
inductive SetupFault where
  | unknownOption (name : String)
  | badOption (name : String)
  | extensionPath (path : String) (fault : Extension.PathFault)
  | sameDelimiters
  | badNewline
deriving DecidableEq

/-- The options of an environment. -/
structure Options where
  language : Language := {}
  extensions : List Extension := []
  autoescape : Bool := false
  undefinedKind : UndefinedKind := .lenient
  autoReload : Bool := true
  /-- How many templates are kept: none, a number of them, or all. -/
  cacheSize : Int := 400
deriving DecidableEq

namespace Options

/-- An option under construction: extension paths are resolved at the end. -/
structure Draft where
  delimiters : Delimiters := {}
  extensionPaths : Option (List String) := none
  autoescape : Option Bool := none
  undefinedKind : UndefinedKind := .lenient
  autoReload : Bool := true
  cacheSize : Int := 400

/-- Whether a value counts as true. -/
def truth : Datum → Bool
  | .null => false
  | .bool b => b
  | .int n => n != 0
  | .float x => !x.isZero
  | .text s => !s.isEmpty
  | .list items => !items.isEmpty
  | .object fields => !fields.isEmpty

/-- Puts one named option into a draft. -/
def set (d : Draft) (name : String) (v : Datum) : Except SetupFault Draft :=
  let text (f : String → Delimiters) : Except SetupFault Draft :=
    match v with
    | .text s => .ok { d with delimiters := f s }
    | _ => .error (.badOption name)
  let del := d.delimiters
  match name with
  | "block_start_string" => text fun s => { del with blockStart := s }
  | "block_end_string" => text fun s => { del with blockEnd := s }
  | "variable_start_string" => text fun s => { del with variableStart := s }
  | "variable_end_string" => text fun s => { del with variableEnd := s }
  | "comment_start_string" => text fun s => { del with commentStart := s }
  | "comment_end_string" => text fun s => { del with commentEnd := s }
  | "newline_sequence" => text fun s => { del with newline := s }
  | "line_statement_prefix" =>
    .ok { d with delimiters := { del with lineStatement := v.text? } }
  | "line_comment_prefix" => .ok { d with delimiters := { del with lineComment := v.text? } }
  | "trim_blocks" => .ok { d with delimiters := { del with trimBlocks := truth v } }
  | "lstrip_blocks" => .ok { d with delimiters := { del with lstripBlocks := truth v } }
  | "keep_trailing_newline" =>
    .ok { d with delimiters := { del with keepTrailingNewline := truth v } }
  | "autoescape" => .ok { d with autoescape := some (truth v) }
  | "auto_reload" => .ok { d with autoReload := truth v }
  | "cache_size" =>
    match v with
    | .int n => .ok { d with cacheSize := n }
    | _ => .error (.badOption name)
  | "undefined" =>
    match v with
    | .text "strict" => .ok { d with undefinedKind := .strict }
    | .text "chainable" => .ok { d with undefinedKind := .chainable }
    | .text "debug" => .ok { d with undefinedKind := .debug }
    | _ => .ok { d with undefinedKind := .lenient }
  | "extensions" =>
    match v with
    | .list items => .ok { d with extensionPaths := some (items.filterMap Datum.text?) }
    | .text s => .ok { d with extensionPaths := some (s.toList.map Char.toString) }
    | _ => .ok { d with extensionPaths := some [] }
  | _ => .error (.unknownOption name)

/-- The extension paths that the settings give; a text stands for its single characters. -/
def settingPaths : ListValue → List String
  | .items paths => paths
  | .verbatim s => s.toList.map Char.toString

/-- Resolves extension paths in order. -/
def resolve : List String → Except SetupFault (List Extension)
  | [] => .ok []
  | p :: ps =>
    match Extension.ofPath p with
    | .error f => .error (.extensionPath p f)
    | .ok e => (resolve ps).map fun es => if es.contains e then es else e :: es

/-- The start marks must differ, and the line end must be one of the three usual ones. -/
def checkDelimiters (d : Delimiters) : Except SetupFault Unit :=
  if d.blockStart == d.variableStart || d.variableStart == d.commentStart then
    .error .sameDelimiters
  else if !(["\r", "\r\n", "\n"].contains d.newline) then .error .badNewline
  else .ok ()

/-- The options of an environment of the given flavour. -/
def build (flavour : Flavour) (settings : Settings) (given : List (String × Datum)) :
    Except SetupFault Options := do
  let given := if flavour == .shared then [] else given
  let draft ← given.foldlM (fun d (name, v) => set d name v) {}
  let fromSettings := flavour == .configured || flavour == .shared
  let paths := draft.extensionPaths.getD
    (if fromSettings then settingPaths settings.extensions else [])
  let listed ← resolve paths
  let extensions :=
    if flavour.hasRegistry || flavour == .plainWithEmbed then
      if listed.contains .embed then listed else listed ++ [.embed]
    else listed
  checkDelimiters draft.delimiters
  return {
    language := {
      delimiters := draft.delimiters
      extensions := {
        doTag := extensions.contains .exprStmt
        loopControls := extensions.contains .loopControls
        embedTag := extensions.contains .embed } }
    extensions
    autoescape := draft.autoescape.getD (fromSettings && settings.autoescape)
    undefinedKind := draft.undefinedKind
    autoReload := draft.autoReload
    cacheSize := draft.cacheSize }

end Options

end Stencil
