import Stencil.Tree.Embed

/-!
# The registry of embedded templates

Compiling a template registers the templates embedded in it, under their keys, and forgets those
that an earlier compilation of the same host registered and the present one lacks. A tree that is
already registered under a key stays. Compiled embeds are kept in order of their last use, up to a
fixed number; loading one more drops the one used longest ago.
-/

namespace Stencil

/-- Embedded trees, their keys per host, and compiled embeds of type `α`. -/
structure Registry (α : Type) where
  /-- The registered trees, in order of registration. -/
  trees : List (String × Template) := []
  /-- The keys that the latest compilation of each host recorded. -/
  hosts : List (String × List String) := []
  /-- The compiled embeds, the one used longest ago first. -/
  compiled : List (String × α) := []

namespace Registry

variable {α : Type}

/-- Without the entries of the given keys. -/
def drop {β : Type} (keys : List String) (entries : List (String × β)) : List (String × β) :=
  entries.filter fun e => !keys.contains e.1

/-- The keys recorded for a host. -/
def keysOf (r : Registry α) (host : String) : List String :=
  (r.hosts.lookup host).getD []

/-- Registers a tree unless its key is taken. -/
def addTree (trees : List (String × Template)) (e : Embedded) : List (String × Template) :=
  if trees.any (·.1 == e.key) then trees else trees ++ [(e.key, e.template)]

/-- Forgets the embeds that a host no longer has, and records its present keys. -/
def replaceHost (r : Registry α) (host : String) (keys : List String) : Registry α :=
  let stale := (r.keysOf host).filter fun k => !keys.contains k
  { trees := drop stale r.trees
    hosts := drop [host] r.hosts ++ (if keys.isEmpty then [] else [(host, keys)])
    compiled := drop stale r.compiled }

/-- Registers the embeds of a template compiled under a host name. Without a name there is nothing
to replace. -/
def register (r : Registry α) (host : Option String) (embeds : List Embedded) : Registry α :=
  let keys := (embeds.map (·.key)).eraseDups
  let r := match host with
    | some h => r.replaceHost h keys
    | none => r
  { r with trees := embeds.foldl addTree r.trees }

/-- The tree registered under a key. -/
def tree? (r : Registry α) (key : String) : Option Template :=
  r.trees.lookup key

/-- The compiled embed of a key, which becomes the one used last. -/
def fetch (r : Registry α) (key : String) : Option (α × Registry α) :=
  (r.compiled.lookup key).map fun a =>
    (a, { r with compiled := drop [key] r.compiled ++ [(key, a)] })

/-- Keeps a compiled embed; beyond `max` entries the one used longest ago is dropped. -/
def keep (r : Registry α) (max : Nat) (key : String) (a : α) : Registry α :=
  let compiled :=
    if r.compiled.any (·.1 == key) then
      r.compiled.map fun e => if e.1 == key then (key, a) else e
    else r.compiled ++ [(key, a)]
  { r with compiled := if compiled.length > max then compiled.drop 1 else compiled }

/-- The registry with something else for each compiled embed. -/
def map {β : Type} (f : α → β) (r : Registry α) : Registry β :=
  { trees := r.trees, hosts := r.hosts, compiled := r.compiled.map fun e => (e.1, f e.2) }

end Registry

end Stencil
