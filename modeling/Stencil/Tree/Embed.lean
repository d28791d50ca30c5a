import Stencil.Tree.Outline
import Stencil.Node.Dump
import Stencil.Digest.Md5

/-!
# Embedded templates

`{% embed P %}…{% endembed %}` is a template of its own that extends `P`. `detach` takes the
embedded templates out of a tree, inner ones before outer ones, and leaves their keys in place. An
embedded template is known by a key made of the host's name and a digest of its written form, so
that equal embeds of one host share a key.
-/

namespace Stencil

namespace Embed

/-- What every key starts with. -/
def keyStart : String := "__embed__:"

/-- The host's name as it stands in a key; a host without a name, or with an empty one, has a
common label. -/
def hostLabel (host : Option String) : String :=
  match host with
  | some name => if name.isEmpty then "<string>" else name
  | none => "<string>"

/-- The key of an embedded template with the given written form. -/
def key (host : Option String) (dump : String) : String :=
  keyStart ++ hostLabel host ++ "#" ++ Md5.hexDigest dump

end Embed

/-- The tree of a whole template. -/
structure Template where
  line : Nat
  body : List Stmt

namespace Template

/-- The labelled form of a template, with those of the templates embedded in it. -/
def outline (t : Template) (embedded : List Node) : Node :=
  .mk .template [("body", .list (Stmt.outlineList t.body))] embedded

/-- The written form of a template. -/
def dump (t : Template) : String :=
  (t.outline []).dump

end Template

/-- A template taken out of its host. -/
structure Embedded where
  key : String
  template : Template

namespace Stmt

mutual

/-- A statement without embeds, and the templates embedded in it, inner before outer. -/
def detach (host : Option String) : Stmt → Stmt × List Embedded
  | loop l t i body orElse test recursive =>
    let (body, inBody) := detachList host body
    let (orElse, inElse) := detachList host orElse
    (loop l t i body orElse test recursive, inBody ++ inElse)
  | branch l test body elifs orElse =>
    let (body, inBody) := detachList host body
    let (elifs, inElifs) := detachList host elifs
    let (orElse, inElse) := detachList host orElse
    (branch l test body elifs orElse, inBody ++ inElifs ++ inElse)
  | macroDef l name params defaults body =>
    let (body, found) := detachList host body
    (macroDef l name params defaults body, found)
  | callBlock l cl callee args params defaults body =>
    let (body, found) := detachList host body
    (callBlock l cl callee args params defaults body, found)
  | filterBlock l filter body =>
    let (body, found) := detachList host body
    (filterBlock l filter body, found)
  | withBlock l bindings body =>
    let (body, found) := detachList host body
    (withBlock l bindings body, found)
  | block l name body isScoped isRequired =>
    let (body, found) := detachList host body
    (block l name body isScoped isRequired, found)
  | assignBlock l t filter body =>
    let (body, found) := detachList host body
    (assignBlock l t filter body, found)
  | autoescape l v body =>
    let (body, found) := detachList host body
    (autoescape l v body, found)
  | embed l parent body =>
    let (body, inner) := detachList host body
    let template : Template := ⟨l, extend l parent :: body⟩
    let key := Embed.key host template.dump
    (embedded l key, inner ++ [⟨key, template⟩])
  | s => (s, [])

/-- Statements without embeds, and the templates embedded in them. -/
def detachList (host : Option String) : List Stmt → List Stmt × List Embedded
  | [] => ([], [])
  | s :: ss =>
    let (s, found) := s.detach host
    let (ss, more) := detachList host ss
    (s :: ss, found ++ more)

end

end Stmt

/-- A parsed template: the host without embeds, and the templates embedded in it. -/
structure Parsed where
  template : Template
  embeds : List Embedded

namespace Template

/-- Takes the embedded templates out of a tree, for a host of the given name. -/
def detach (host : Option String) (t : Template) : Parsed :=
  let (body, embeds) := Stmt.detachList host t.body
  ⟨{ t with body }, embeds⟩

end Template

namespace Parsed

/-- The labelled form of a parsed template. -/
def outline (p : Parsed) : Node :=
  p.template.outline (p.embeds.map fun e => e.template.outline [])

end Parsed

end Stencil
