import Stencil.Text.Encoding
import Stencil.Text.Quoted

/-!
# Where templates come from

Sources are held by name, or as files below one of several directories. A source remembers where it
came from, so that it can be told later whether it is still current: a named source by its text, a
file by the time of its last change.
-/

namespace Stencil

/-- A file: its bytes and the time of its last change. -/
structure StoredFile where
  path : String
  bytes : List UInt8
  changed : Nat

/-- The sources at hand. -/
structure Store where
  /-- Sources by name. -/
  named : List (String × String) := []
  files : List StoredFile := []
  /-- The present time. -/
  clock : Nat := 0

/-- How an environment finds sources. -/
inductive Loader where
  | absent
  | named
  | files (directories : List String) (encoding : String) (followLinks : Bool)
deriving DecidableEq

/-- Whether templates are the files of directories. -/
def Loader.isFiles : Loader → Bool
  | .files _ _ _ => true
  | _ => false

/-- Where a source came from. -/
inductive Origin where
  /-- Not from a loader: always current. -/
  | given
  | named (name text : String)
  | file (path : String) (changed : Nat)
deriving DecidableEq

/-- A source as a loader finds it. -/
structure FoundSource where
  code : String
  path : Option String
  origin : Origin

/-- Why a source cannot be read. -/
inductive SourceFault where
  /-- There is none of this name; the message differs between loaders. -/
  | notFound (message : String)
  | unknownEncoding
  | undecodable
deriving DecidableEq

namespace Store

/-- The parts of a path without empty parts and dots; a part of two dots takes back the one before
it. -/
def normalParts (absolute : Bool) : (done : List String) → List String → List String
  | done, [] => done.reverse
  | done, p :: ps =>
    if p == "" || p == "." then normalParts absolute done ps
    else if p == ".." then
      match done with
      | [] => if absolute then normalParts absolute [] ps else normalParts absolute [".."] ps
      | d :: ds =>
        if d == ".." then normalParts absolute (".." :: done) ps
        else normalParts absolute ds ps
    else normalParts absolute (p :: done) ps

/-- A path in its normal form. -/
def normalPath (path : String) : String :=
  let absolute := path.toList.head? == some '/'
  let parts := normalParts absolute [] (path.splitOn "/")
  let joined := String.intercalate "/" parts
  if absolute then "/" ++ joined
  else if joined.isEmpty then "." else joined

/-- The file at a path. -/
def file? (s : Store) (path : String) : Option StoredFile :=
  let path := normalPath path
  s.files.find? fun f => f.path == path

/-- Writes a file, or changes it. -/
def writeFile (s : Store) (path : String) (bytes : List UInt8) : Store :=
  let path := normalPath path
  let now := s.clock + 1
  { s with
    files := s.files.filter (·.path != path) ++ [⟨path, bytes, now⟩]
    clock := now }

def removeFile (s : Store) (path : String) : Store :=
  let path := normalPath path
  { s with files := s.files.filter (·.path != path) }

/-- Sets a named source. -/
def setNamed (s : Store) (name code : String) : Store :=
  if s.named.any (·.1 == name) then
    { s with named := s.named.map fun e => if e.1 == name then (name, code) else e }
  else { s with named := s.named ++ [(name, code)] }

def removeNamed (s : Store) (name : String) : Store :=
  { s with named := s.named.filter (·.1 != name) }

/-- Whether a source is still what it was when it was found. -/
def isCurrent (s : Store) : Origin → Bool
  | .given => true
  | .named name text => s.named.lookup name == some text
  | .file path changed =>
    match s.file? path with
    | some f => f.changed == changed
    | none => false

end Store

/-- The first file of the given name below the directories. -/
def Store.search (s : Store) (pieces : List String) : List String → Option StoredFile
  | [] => none
  | d :: ds =>
    match s.file? (String.intercalate "/" (d :: pieces)) with
    | some f => some f
    | none => s.search pieces ds

/-- The message for a file that is in none of the directories. -/
def fileNotFound (name : String) (directories : List String) : String :=
  quote name ++ " not found in search " ++
    (if directories.length == 1 then "path" else "paths") ++ ": " ++
    String.intercalate ", " (directories.map quote)

/-- The parts of a template name that are used to find a file; no part may lead upwards. -/
def namePieces (name : String) : Option (List String) :=
  let parts := name.splitOn "/"
  if parts.contains ".." then none
  else some (parts.filter fun p => p != "" && p != ".")

/-- Finds the source of a name, for an environment that has a loader. -/
def Loader.find (l : Loader) (s : Store) (name : String) : Except SourceFault FoundSource :=
  match l with
  | .absent => .error (.notFound name)
  | .named =>
    match s.named.lookup name with
    | some code => .ok ⟨code, none, .named name code⟩
    | none => .error (.notFound name)
  | .files directories encoding _ =>
    match namePieces name with
    | none => .error (.notFound name)
    | some pieces =>
      match s.search pieces directories with
      | none => .error (.notFound (fileNotFound name directories))
      | some f =>
        match Encoding.ofName? encoding with
        | none => .error .unknownEncoding
        | some e =>
          match e.decode f.bytes with
          | none => .error .undecodable
          | some cs =>
            .ok ⟨String.ofList (Text.unifyNewlines cs), some f.path, .file f.path f.changed⟩

end Stencil
