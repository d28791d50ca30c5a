import Stencil.Proofs.Embed.Inclusion
import Stencil.Proofs.Workspace.Answers

/-!
# An embed means the inclusion of a template with its tree

In a template an embed is replaced by the inclusion of a new template that extends what the embed
extends and has its body. In a new workspace the template then gives the same text as before, or
fails in the same way. Messages mention positions: lines may have moved, and an embed is called by its
key there where the new template is called by its name.

Undefined values must not write out why they are undefined, which includes positions, and the cache
must have room for all templates that are asked for: otherwise the new template may displace one that
is asked for again, and a block tells the template that it belongs to from another reading of the
same source.

## Main definitions

- `Sources.Replaced`: sources before and after an embed is replaced
- `Sources.Foreseen`: what is computed of given sources to know that they are so
- `Fault.Moved`: faults that differ in positions only
- `Workspace.Rendered`: what a template gives before and after

## Main statements

- `Workspace.renderAt_replaced`: an embed means the inclusion of a template with its tree
- `Workspace.renderAt_replaced_differs`: positions, and templates that are displaced, can tell
-/

namespace Stencil

/-! ## Sources before and after -/

/-- The sources after others took their place, and one more name that is asked for. -/
def Sources.adding (S : Sources) (store : Store) (name : String) : Sources :=
  { S with store, names := name :: S.names }

/-- A template is asked for by one of some names, or nothing is asked for; no running template is
written out. -/
def Event.Within (names : List String) : Event → Prop
  | .request n => n ∈ names
  | .reference _ => False
  | _ => True

instance (names : List String) : DecidablePred (Event.Within names)
  | .request n => inferInstanceAs (Decidable (n ∈ names))
  | .reference _ => .isFalse id
  | .compilation _ | .attachment _ => .isTrue trivial

/-- Sources before and after embeds with the tree `child` in the template `host` are replaced by
inclusions of a template called `name` that has this tree. Of the names that may be asked for, which
are no keys, all others lead to the same source. -/
structure Sources.Replaced (S : Sources) (store : Store) (host name : String)
    (child : List Stmt) : Prop where
  plain : ∀ n ∈ name :: S.names, Embed.isKey n = false
  unasked : name ∉ S.names
  rewritten : ∃ source t source' t', S.Written host source t ∧
    (S.adding store name).Written host source' t' ∧ Stmt.ExtractedAll name child t.body t'.body
  made : ∃ source t, (S.adding store name).Written name source t ∧ t.body = child
  others : ∀ n ∈ S.names, n ≠ host → S.env.loader.find store n = S.env.loader.find S.store n
  told : S.Told
  told' : (S.adding store name).Told

namespace Sources

variable {S : Sources} {store : Store} {host name : String} {child : List Stmt}

/-- A source that is the same before and after has a tree that needs no change. -/
theorem Written.extracted {n : String} {source : FoundSource} {t : Template}
    (h : S.Written n source t) : Stmt.ExtractedAll name child t.body t.body :=
  (Stmt.AlikeAll.refl t.body).extracted (Language.keys_parseTree h.2)

/-- The embeds of the sources that may be asked for. -/
def embeds (S : Sources) : List Embedded :=
  S.names.flatMap fun n =>
    match S.env.loader.find S.store n with
    | .ok source =>
      match S.env.options.language.parse (some n) source.code with
      | .ok p => p.embeds
      | .error _ => []
    | .error _ => []

theorem mem_embeds_iff {e : Embedded} : e ∈ S.embeds ↔ S.Embeds e := by
  rw [embeds, List.mem_flatMap]
  refine exists_congr fun n => and_congr_right fun _ => ?_
  constructor
  · intro he
    split at he
    · rename_i source hsource
      split at he
      · rename_i p hp
        exact ⟨source, p, ⟨hsource, hp⟩, he⟩
      · cases he
    · cases he
  · rintro ⟨source, p, ⟨hsource, hp⟩, he⟩
    rw [hsource]
    dsimp only
    rw [hp]
    exact he

/-- Whether digests and numbers tell embeds apart can be computed. -/
instance (S : Sources) : Decidable S.Told :=
  decidable_of_iff
    (∀ d ∈ S.embeds, ∀ e ∈ S.embeds,
      (d.template.dump = e.template.dump ∨
        Md5.hexDigest d.template.dump ≠ Md5.hexDigest e.template.dump) ∧
      ∀ x ∈ d.template.floats, ∀ y ∈ e.template.floats, x.text = y.text → x = y) <| by
  simp only [mem_embeds_iff]
  refine ⟨fun h => ⟨fun hd he hdigest => ?_, fun hd he => (h _ hd _ he).2⟩, fun h d hd e he => ?_⟩
  · exact (h _ hd _ he).1.resolve_right fun hne => hne hdigest
  · exact ⟨Decidable.or_iff_not_imp_right.2 fun hdigest => h.digest hd he (not_not.1 hdigest),
      h.numbers hd he⟩

theorem Replaced.extraction (h : S.Replaced store host name child)
    (hreg : S.env.flavour.hasRegistry = true)
    (hkind : S.env.options.undefinedKind ≠ .debug) :
    S.Extraction (S.adding store name) name child where
  env_eq := rfl
  names_eq := rfl
  plain := h.plain
  unasked := h.unasked
  registry := hreg
  unshown := hkind
  told := h.told
  told' := h.told'
  made := h.made
  sources n hn := by
    by_cases hhost : n = host
    · exact .inl (hhost ▸ h.rewritten)
    have hfind := h.others n hn hhost
    by_cases hwritten : ∃ source t, S.Written n source t
    · obtain ⟨source, t, ht⟩ := hwritten
      exact .inl ⟨source, t, source, t, ht, ⟨hfind.trans ht.1, ht.2⟩, ht.extracted⟩
    · exact .inr ⟨hfind, fun source t ht => hwritten ⟨source, t, ht⟩⟩

/-- What is computed of sources before an embed is replaced in them: no name is a key, the embeds of
each side are told apart, and what happens asks for the names only. -/
def Foreseen (S : Sources) (store : Store) (name : String) (events : List Event) : Prop :=
  (∀ n ∈ name :: S.names, Embed.isKey n = false) ∧ S.Told ∧ (S.adding store name).Told ∧
    ∀ e ∈ events, e.Within S.names

instance (S : Sources) (store : Store) (name : String) (events : List Event) :
    Decidable (S.Foreseen store name events) :=
  inferInstanceAs (Decidable (_ ∧ _))

theorem Foreseen.replaced {events : List Event} (h : S.Foreseen store name events)
    (hunasked : name ∉ S.names) {source source' made : FoundSource} {t t' : Template} {line : Nat}
    (hpage : S.Written host source t) (hpage' : (S.adding store name).Written host source' t')
    (hextracted : Stmt.ExtractedAll name child t.body t'.body)
    (hmade : (S.adding store name).Written name made ⟨line, child⟩)
    (hothers : ∀ n ∈ S.names, n ≠ host → S.env.loader.find store n = S.env.loader.find S.store n) :
    S.Replaced store host name child where
  plain := h.1
  unasked := hunasked
  rewritten := ⟨source, t, source', t', hpage, hpage', hextracted⟩
  made := ⟨made, _, hmade, rfl⟩
  others := hothers
  told := h.2.1
  told' := h.2.2.1

theorem Foreseen.within {events : List Event} (h : S.Foreseen store name events) :
    ∀ e ∈ events, e.Within S.names :=
  h.2.2.2

/-- Nothing is read in a new library. -/
theorem steady_new (S : Sources) {capacity : Int}
    (hroom : capacity < 0 ∨ (S.names.length : Int) ≤ capacity) :
    S.Steady { env := S.env, store := S.store, cache := { capacity } } where
  env_eq := rfl
  store_eq := rfl
  apart := Library.apart_new S.env S.store capacity
  trees _ hx := nomatch hx
  recorded _ _ hkey := nomatch hkey
  distinct := .nil
  asked _ hx := nomatch hx
  room := hroom
  loaded _ hx := nomatch hx
  cached hid := nomatch hid

theorem not_registered_new (S : Sources) (L : Library) (hL : L.registry.trees = []) (e : Embedded) :
    ¬ S.Registered L e := by
  rintro ⟨-, t, ht⟩
  rw [Registry.tree?, hL] at ht
  cases ht

end Sources

/-- Nothing is known of new libraries. -/
def Known.new : Known :=
  ⟨fun _ => False, fun _ => False, fun _ _ => False, 0⟩

theorem Library.beside_new {S : Sources} {store : Store} {name : String} {child : List Stmt}
    {capacity : Int} (hroom : capacity < 0 ∨ (S.names.length : Int) + 1 ≤ capacity) :
    Library.Beside S (S.adding store name) name child .new
      { env := S.env, store := S.store, cache := { capacity } }
      { env := S.env, store, cache := { capacity } } where
  left := S.steady_new (by omega)
  right := (S.adding store name).steady_new (by
    rw [Sources.adding, List.length_cons]
    omega)
  capacity_eq := rfl
  known_left e := iff_of_false id (S.not_registered_new _ rfl e)
  known_right e := iff_of_false id ((S.adding store name).not_registered_new _ rfl e)
  cached_eq _ _ := rfl
  module_eq _ _ _ ht := nomatch ht
  unused ht := nomatch ht
  paired hi := hi.elim

/-! ## Faults before and after -/

/-- Messages that differ in the positions they mention only: in lines, and in the names of embeds. -/
inductive Embed.Moved (name : String) : String → String → Prop
  | refl (s : String) : Moved name s s
  | append {a a' b b' : String} (ha : Moved name a a') (hb : Moved name b b') :
      Moved name (a ++ b) (a' ++ b')
  | position {p p' : Position} (hhost : Renamed name p.host p'.host) : Moved name p.text p'.text

/-- Faults of the same kind that differ in lines, and in the positions that messages mention. -/
inductive Fault.Moved (name : String) : Fault → Fault → Prop
  | refl (f : Fault) : Moved name f f
  | syntaxError (l l' : Nat) (f : SyntaxFault) :
      Moved name (.syntaxError ⟨l, f⟩) (.syntaxError ⟨l', f⟩)
  | noneFound {m m' : String} (h : Embed.Moved name m m') : Moved name (.noneFound m) (.noneFound m')
  | undefined {m m' : String} (h : Embed.Moved name m m') : Moved name (.undefined m) (.undefined m')
  | runtime {m m' : String} (h : Embed.Moved name m m') : Moved name (.runtime m) (.runtime m')

namespace Simulation

variable {S S' : Sources} {name : String} {child : List Stmt} (h : S.Extraction S' name child)

theorem Alike.moved {m m' : String} (hm : (extracting h).Alike m m') : Embed.Moved name m m' := by
  induction hm with
  | refl s => exact .refl s
  | append _ _ iha ihb => exact .append iha ihb
  | position hhost _ => exact .position hhost

theorem FaultRel.moved {f f' : Fault} (hf : (extracting h).FaultRel f f') : f.Moved name f' := by
  cases hf with
  | syntaxError _ f => exact .syntaxError _ _ f
  | noneFound hm => exact .noneFound (hm.moved h)
  | undefined hm => exact .undefined (hm.moved h)
  | runtime hm => exact .runtime (hm.moved h)
  | _ => exact .refl _

end Simulation

/-! ## Rendering before and after -/

namespace Workspace

/-- What a template gives before and after: the same text, or faults that differ in positions. -/
inductive Rendered (name : String) : Except Failure String → Except Failure String → Prop
  | text (s : String) : Rendered name (.ok s) (.ok s)
  | fault {f f' : Fault} (h : f.Moved name f') :
      Rendered name (.error (.fault f)) (.error (.fault f'))

/-- What is computed in the same way is rendered in the same way. -/
theorem Rendered.of_outcome {S S' : Sources} {name : String} {child : List Stmt}
    (h : S.Extraction S' name child) {k : Known} {r r' : Except Fault String × World}
    (ho : (Simulation.extracting h).Outcome k (fun _ a b => b = a) r r') :
    Rendered name (r.1.mapError .fault) (r'.1.mapError .fault) := by
  cases ho with
  | deep _ _ hl => exact hl.elim
  | done _ _ hab =>
    subst hab
    exact .text _
  | failed _ _ hf => exact .fault (hf.moved h)

/-- Loads and renders a template, for at most the given depth of calls. -/
def renderingAt (depth : Nat) (name : String) (globals context : List (String × Datum)) :
    Run String := do
  let id ← Load.template (Engine.ofDepth depth) (← values globals) (.plain name)
  Run.renderAt depth id (← values context)

theorem sim_renderingAt {S : Simulation} (hS : S.Laws) (hown : S.OwnLaw) (hd : S.dynamic)
    {k : S.Stage} (depth : Nat) (name : String) (context : List (String × Datum)) :
    S.Sim k (renderingAt depth name [] context) (renderingAt depth name [] context)
      fun _ a b => b = a := by
  have heng := Simulation.engRel_ofDepth hS hown depth
  refine Simulation.Exact.sim_values.bind fun l _ gs gs' hgs => ?_
  obtain ⟨rfl, rfl⟩ := hgs
  refine (Simulation.sim_loadTemplate hS heng (.inl hd)).bind fun l₁ _ i i' hi => ?_
  exact Simulation.Sim.agree_bind (Simulation.agree_fields context) fun l₂ hl data =>
    Simulation.sim_textAt hS hown (S.same_mono hl hi.same) depth data

/-- A language with embeds. -/
def tagged : Language := { extensions := { embedTag := true } }

/-- A page with a tag for each of two letters. -/
def letters (tag : String) : String :=
  "\x7b% for x in 'ab' %\x7d" ++ tag ++ "\x7b% endfor %\x7d"

/-- A card that adds the letter to what the block held before. -/
def letterCard : String :=
  "\x7b% block a %\x7d\x7b\x7b x \x7d\x7d\x7b\x7b super() \x7d\x7d\x7b% endblock %\x7d"

/-- The tree of the card. -/
def letterBlocks : List Stmt :=
  [.block 1 "a" [.output 1 [.name 1 "x", .call 1 (.name 1 "super") .none]] false false]

/-- The tree of the page. -/
def lettersTree (s : Stmt) : Template :=
  ⟨1, [.loop 1 (.name 1 "x") (.const 1 (.text "ab")) [s] [] none false]⟩

def lettersPlan : WorkspacePlan where
  flavour := .pattern
  store := { named := [
    ("card", "[\x7b% block a %\x7d-\x7b% endblock %\x7d]"),
    ("page", letters ("\x7b% embed 'card' %\x7d" ++ letterCard ++ "\x7b% endembed %\x7d"))] }

def lettersStore : Store :=
  { named := [("card", "[\x7b% block a %\x7d-\x7b% endblock %\x7d]"),
    ("page", letters "\x7b% include 'c' %\x7d"),
    ("c", "\x7b% extends 'card' %\x7d" ++ letterCard)] }

theorem reads_letters :
    (tagged.parseTree (letters ("\x7b% embed 'card' %\x7d" ++ letterCard ++ "\x7b% endembed %\x7d")) matches
      .ok ⟨1, [.loop 1 (.name 1 "x") (.const 1 (.text "ab")) [.embed 1 (.const 1 (.text "card"))
        [.block 1 "a" [.output 1 [.name 1 "x", .call 1 (.name 1 "super") (.mk [] [] .none .none)]]
          false false]] [] none false]⟩) ∧
    (tagged.parseTree (letters "\x7b% include 'c' %\x7d") matches
      .ok ⟨1, [.loop 1 (.name 1 "x") (.const 1 (.text "ab"))
        [.inclusion 1 (.const 1 (.text "c")) true false] [] none false]⟩) ∧
    (tagged.parseTree ("\x7b% extends 'card' %\x7d" ++ letterCard) matches
      .ok ⟨1, [.extend 1 (.const 1 (.text "card")),
        .block 1 "a" [.output 1 [.name 1 "x", .call 1 (.name 1 "super") (.mk [] [] .none .none)]]
          false false]⟩) := by
  decide +kernel

theorem parseTree_letters :
    tagged.parseTree (letters ("\x7b% embed 'card' %\x7d" ++ letterCard ++ "\x7b% endembed %\x7d")) =
        .ok (lettersTree (.embed 1 (.const 1 (.text "card")) letterBlocks)) ∧
      tagged.parseTree (letters "\x7b% include 'c' %\x7d") =
        .ok (lettersTree (.inclusion 1 (.const 1 (.text "c")) true false)) ∧
      tagged.parseTree ("\x7b% extends 'card' %\x7d" ++ letterCard) =
        .ok ⟨1, .extend 1 (.const 1 (.text "card")) :: letterBlocks⟩ := by
  obtain ⟨hpage, hpage', hchild⟩ := reads_letters
  refine ⟨?_, ?_, ?_⟩
  · split at hpage
    · rename_i heq
      exact heq
    · cases hpage
  · split at hpage'
    · rename_i heq
      exact heq
    · cases hpage'
  · split at hchild
    · rename_i heq
      exact heq
    · cases hchild

theorem extracted_letters :
    Stmt.ExtractedAll "c" (.extend 1 (.const 1 (.text "card")) :: letterBlocks)
      (lettersTree (.embed 1 (.const 1 (.text "card")) letterBlocks)).body
      (lettersTree (.inclusion 1 (.const 1 (.text "c")) true false)).body := by
  refine .cons (.loop (.name trivial "x") (.const trivial _) ?_ .nil .none false) .nil
  exact .cons (.included (.refl _)) .nil

/-- Whether there is a text, and the text or else the message. -/
def message : Except Failure String → Bool × String
  | .ok s => (true, s)
  | .error (.fault f) => (false, f.message)
  | .error (.inspection e) => (false, e.message)

/-- In a new workspace of a plan an embed in the template `host` is replaced, and what is rendered
before and after are the given texts or messages. -/
def Tells (p : WorkspacePlan) (store : Store) (names : List String) (host name : String)
    (before after : Bool × String) : Prop :=
  ∃ ws ws' child, p.flavour.hasRegistry = true ∧ p.build = .ok ws ∧
    WorkspacePlan.build { p with store } = .ok ws' ∧
    Sources.Replaced ⟨ws.world.env, p.store, names⟩ store host name child ∧
    (∀ e ∈ heard (renderingAt Engine.callDepth host [] []) ws, e.Within names) ∧
    message (render host [] [] ws).1 = before ∧ message (render host [] [] ws').1 = after

/-- What is computed to tell an embed from an inclusion: what is foreseen of the sources, and what
is rendered before and after. -/
def Foretold (S : Sources) (store : Store) (host name : String) (ws ws' : Workspace)
    (before after : Bool × String) : Prop :=
  S.Foreseen store name (heard (renderingAt Engine.callDepth host [] []) ws) ∧
    message (render host [] [] ws).1 = before ∧ message (render host [] [] ws').1 = after

instance (S : Sources) (store : Store) (host name : String) (ws ws' : Workspace)
    (before after : Bool × String) : Decidable (Foretold S store host name ws ws' before after) :=
  inferInstanceAs (Decidable (_ ∧ _))

theorem Foretold.tells {p : WorkspacePlan} {store : Store} {names : List String}
    {host name : String} {child : List Stmt} {ws ws' : Workspace} {before after : Bool × String}
    (h : Foretold ⟨ws.world.env, p.store, names⟩ store host name ws ws' before after)
    (hreg : p.flavour.hasRegistry = true) (hws : p.build = .ok ws)
    (hws' : WorkspacePlan.build { p with store } = .ok ws')
    (hreplaced : Sources.Replaced ⟨ws.world.env, p.store, names⟩ store host name child) :
    Tells p store names host name before after := by
  obtain ⟨hforeseen, hbefore, hafter⟩ := h
  exact ⟨ws, ws', child, hreg, hws, hws', hreplaced, hforeseen.within, hbefore, hafter⟩

/-- A page with the embed of a template that has no name, since the condition for it does not hold. -/
def namelessPlan : WorkspacePlan where
  flavour := .pattern
  store := { named := [("page", "\x7b% embed (1 if false).x %\x7d\x7b% endembed %\x7d")] }

/-- The page includes a template that extends it instead. -/
def namelessStore : Store :=
  { named := [("page", "\x7b% include 'c' %\x7d"), ("c", "\x7b% extends (1 if false).x %\x7d")] }

def namelessPage : Workspace := namelessPlan.build.toOption.get rfl

def namelessPage' : Workspace :=
  (WorkspacePlan.build { namelessPlan with store := namelessStore }).toOption.get rfl

/-- The name that is missing. -/
def noName : Expr :=
  .member 1 (.cond 1 (.const 1 (.bool false)) (.const 1 (.int 1)) none) "x"

/-- The block of a card, with a name that the card does not export. -/
def noteCard : String :=
  "\x7b% block a %\x7d\x7b% from 'card' import n %\x7d\x7b\x7b n \x7d\x7d\x7b% endblock %\x7d"

/-- The tree of the block. -/
def noteBlocks : List Stmt :=
  [.block 1 "a" [.importNames 1 (.const 1 (.text "card")) [⟨"n", none⟩] false,
    .output 1 [.name 1 "n"]] false false]

/-- A page with an embed, where undefined values write out why they are undefined. -/
def notePlan : WorkspacePlan where
  flavour := .pattern
  options := [("undefined", .text "debug")]
  store := { named := [("card", "\x7b% block a %\x7d\x7b% endblock %\x7d"),
    ("page", "\x7b% embed 'card' %\x7d" ++ noteCard ++ "\x7b% endembed %\x7d")] }

/-- The page includes the card instead. -/
def noteStore : Store :=
  { named := [("card", "\x7b% block a %\x7d\x7b% endblock %\x7d"),
    ("page", "\x7b% include 'c' %\x7d"), ("c", "\x7b% extends 'card' %\x7d" ++ noteCard)] }

def notePage : Workspace := notePlan.build.toOption.get rfl

def notePage' : Workspace :=
  (WorkspacePlan.build { notePlan with store := noteStore }).toOption.get rfl

/-- The use of a counter that another template has. -/
def counting : String :=
  "\x7b% from 't' import k %\x7d\x7b\x7b k.next() \x7d\x7d"

/-- The tree of this use. -/
def countingTree : List Stmt :=
  [.importNames 1 (.const 1 (.text "t")) [⟨"k", none⟩] false,
    .output 1 [.call 1 (.member 1 (.name 1 "k") "next") .none]]

/-- An environment that keeps one template, and a page that uses the counter before and after an
embed of the template that has it. -/
def countingPlan : WorkspacePlan where
  flavour := .pattern
  options := [("cache_size", .int 1)]
  store := { named := [("t", "\x7b% set k = cycler(1, 2) %\x7d"),
    ("page", counting ++ "\x7b% embed 't' %\x7d\x7b% endembed %\x7d" ++ counting)] }

/-- The page includes another template instead. -/
def countingStore : Store :=
  { named := [("t", "\x7b% set k = cycler(1, 2) %\x7d"),
    ("page", counting ++ "\x7b% include 'c' %\x7d" ++ counting), ("c", "\x7b% extends 't' %\x7d")] }

def countingPage : Workspace := countingPlan.build.toOption.get rfl

def countingPage' : Workspace :=
  (WorkspacePlan.build { countingPlan with store := countingStore }).toOption.get rfl

/-- What the sources of the three pages are read as, and those of the templates they include. -/
theorem reads_pages :
    (tagged.parseTree "\x7b% include 'c' %\x7d" matches
      .ok ⟨1, [.inclusion 1 (.const 1 (.text "c")) true false]⟩) ∧
    ((tagged.parseTree "\x7b% embed (1 if false).x %\x7d\x7b% endembed %\x7d" matches
        .ok ⟨1, [.embed 1 (.member 1
          (.cond 1 (.const 1 (.bool false)) (.const 1 (.int 1)) .none) "x") []]⟩) ∧
      (tagged.parseTree "\x7b% extends (1 if false).x %\x7d" matches
        .ok ⟨1, [.extend 1 (.member 1
          (.cond 1 (.const 1 (.bool false)) (.const 1 (.int 1)) .none) "x")]⟩)) ∧
    ((tagged.parseTree ("\x7b% embed 'card' %\x7d" ++ noteCard ++ "\x7b% endembed %\x7d") matches
        .ok ⟨1, [.embed 1 (.const 1 (.text "card"))
          [.block 1 "a" [.importNames 1 (.const 1 (.text "card")) [⟨"n", .none⟩] false,
            .output 1 [.name 1 "n"]] false false]]⟩) ∧
      (tagged.parseTree ("\x7b% extends 'card' %\x7d" ++ noteCard) matches
        .ok ⟨1, [.extend 1 (.const 1 (.text "card")),
          .block 1 "a" [.importNames 1 (.const 1 (.text "card")) [⟨"n", .none⟩] false,
            .output 1 [.name 1 "n"]] false false]⟩)) ∧
    (tagged.parseTree (counting ++ "\x7b% embed 't' %\x7d\x7b% endembed %\x7d" ++ counting) matches
        .ok ⟨1, [.importNames 1 (.const 1 (.text "t")) [⟨"k", .none⟩] false,
          .output 1 [.call 1 (.member 1 (.name 1 "k") "next") (.mk [] [] .none .none)],
          .embed 1 (.const 1 (.text "t")) [],
          .importNames 1 (.const 1 (.text "t")) [⟨"k", .none⟩] false,
          .output 1 [.call 1 (.member 1 (.name 1 "k") "next") (.mk [] [] .none .none)]]⟩) ∧
      (tagged.parseTree (counting ++ "\x7b% include 'c' %\x7d" ++ counting) matches
        .ok ⟨1, [.importNames 1 (.const 1 (.text "t")) [⟨"k", .none⟩] false,
          .output 1 [.call 1 (.member 1 (.name 1 "k") "next") (.mk [] [] .none .none)],
          .inclusion 1 (.const 1 (.text "c")) true false,
          .importNames 1 (.const 1 (.text "t")) [⟨"k", .none⟩] false,
          .output 1 [.call 1 (.member 1 (.name 1 "k") "next") (.mk [] [] .none .none)]]⟩) ∧
      (tagged.parseTree "\x7b% extends 't' %\x7d" matches
        .ok ⟨1, [.extend 1 (.const 1 (.text "t"))]⟩) := by
  decide +kernel

theorem parseTree_include :
    tagged.parseTree "\x7b% include 'c' %\x7d" =
      .ok ⟨1, [.inclusion 1 (.const 1 (.text "c")) true false]⟩ := by
  obtain ⟨hpage, -⟩ := reads_pages
  split at hpage
  · rename_i heq
    exact heq
  · cases hpage

theorem parseTree_nameless :
    tagged.parseTree "\x7b% embed (1 if false).x %\x7d\x7b% endembed %\x7d" =
        .ok ⟨1, [.embed 1 noName []]⟩ ∧
      tagged.parseTree "\x7b% extends (1 if false).x %\x7d" = .ok ⟨1, [.extend 1 noName]⟩ := by
  obtain ⟨-, ⟨hpage, hchild⟩, -⟩ := reads_pages
  constructor
  · split at hpage
    · rename_i heq
      exact heq
    · cases hpage
  · split at hchild
    · rename_i heq
      exact heq
    · cases hchild

theorem parseTree_note :
    tagged.parseTree ("\x7b% embed 'card' %\x7d" ++ noteCard ++ "\x7b% endembed %\x7d") =
        .ok ⟨1, [.embed 1 (.const 1 (.text "card")) noteBlocks]⟩ ∧
      tagged.parseTree ("\x7b% extends 'card' %\x7d" ++ noteCard) =
        .ok ⟨1, .extend 1 (.const 1 (.text "card")) :: noteBlocks⟩ := by
  obtain ⟨-, -, ⟨hpage, hchild⟩, -⟩ := reads_pages
  constructor
  · split at hpage
    · rename_i heq
      exact heq
    · cases hpage
  · split at hchild
    · rename_i heq
      exact heq
    · cases hchild

theorem parseTree_counting :
    tagged.parseTree (counting ++ "\x7b% embed 't' %\x7d\x7b% endembed %\x7d" ++ counting) =
        .ok ⟨1, countingTree ++ .embed 1 (.const 1 (.text "t")) [] :: countingTree⟩ ∧
      tagged.parseTree (counting ++ "\x7b% include 'c' %\x7d" ++ counting) =
        .ok ⟨1, countingTree ++ .inclusion 1 (.const 1 (.text "c")) true false :: countingTree⟩ ∧
      tagged.parseTree "\x7b% extends 't' %\x7d" = .ok ⟨1, [.extend 1 (.const 1 (.text "t"))]⟩ := by
  obtain ⟨-, -, -, hpage, hpage', hchild⟩ := reads_pages
  refine ⟨?_, ?_, ?_⟩
  · split at hpage
    · rename_i heq
      exact heq
    · cases hpage
  · split at hpage'
    · rename_i heq
      exact heq
    · cases hpage'
  · split at hchild
    · rename_i heq
      exact heq
    · cases hchild

theorem extracted_counting :
    Stmt.ExtractedAll "c" [.extend 1 (.const 1 (.text "t"))]
      (countingTree ++ .embed 1 (.const 1 (.text "t")) [] :: countingTree)
      (countingTree ++ .inclusion 1 (.const 1 (.text "c")) true false :: countingTree) := by
  have himport : Stmt.Extracted "c" [.extend 1 (.const 1 (.text "t"))]
      (.importNames 1 (.const 1 (.text "t")) [⟨"k", none⟩] false)
      (.importNames 1 (.const 1 (.text "t")) [⟨"k", none⟩] false) :=
    .importNames (.const trivial _) _ false
  have houtput : Stmt.Extracted "c" [.extend 1 (.const 1 (.text "t"))]
      (.output 1 [.call 1 (.member 1 (.name 1 "k") "next") .none])
      (.output 1 [.call 1 (.member 1 (.name 1 "k") "next") .none]) :=
    .output (Expr.AlikeAll.refl anyLine_refl _)
  exact .cons himport (.cons houtput (.cons (.included (.refl _)) (.cons himport (.cons houtput .nil))))

/-- The page with a name that is missing: the message says where the name was looked for. -/
theorem tells_nameless {before after : Bool × String}
    (h : Foretold ⟨namelessPage.world.env, namelessPlan.store, ["page"]⟩ namelessStore "page" "c"
      namelessPage namelessPage' before after) :
    Tells namelessPlan namelessStore ["page"] "page" "c" before after := by
  obtain ⟨hpage, hchild⟩ := parseTree_nameless
  have hreplaced : Sources.Replaced ⟨namelessPage.world.env, namelessPlan.store, ["page"]⟩
      namelessStore "page" "c" [.extend 1 noName] :=
    h.1.replaced (by decide) ⟨rfl, hpage⟩ ⟨rfl, parseTree_include⟩
      (.cons (.included (.refl _)) .nil) ⟨rfl, hchild⟩
      (List.forall_mem_singleton.2 fun h => absurd rfl h)
  exact h.tells rfl rfl rfl hreplaced

/-- The page with a name that the card does not export: where positions are written out, texts differ
in them. -/
theorem tells_note {before after : Bool × String}
    (h : Foretold ⟨notePage.world.env, notePlan.store, ["page", "card"]⟩ noteStore "page" "c"
      notePage notePage' before after) :
    Tells notePlan noteStore ["page", "card"] "page" "c" before after := by
  obtain ⟨hpage, hchild⟩ := parseTree_note
  have hreplaced : Sources.Replaced ⟨notePage.world.env, notePlan.store, ["page", "card"]⟩
      noteStore "page" "c" (.extend 1 (.const 1 (.text "card")) :: noteBlocks) :=
    h.1.replaced (by decide) ⟨rfl, hpage⟩ ⟨rfl, parseTree_include⟩
      (.cons (.included (.refl _)) .nil) ⟨rfl, hchild⟩
      (List.forall_mem_cons.2 ⟨fun h => absurd rfl h, List.forall_mem_singleton.2 fun _ => rfl⟩)
  exact h.tells rfl rfl rfl hreplaced

/-- The page that counts on both sides of an embed: the new template displaces the one with the
counter, which is read again and starts anew. -/
theorem tells_counting {before after : Bool × String}
    (h : Foretold ⟨countingPage.world.env, countingPlan.store, ["page", "t"]⟩ countingStore "page" "c"
      countingPage countingPage' before after) :
    Tells countingPlan countingStore ["page", "t"] "page" "c" before after := by
  obtain ⟨hpage, hpage', hchild⟩ := parseTree_counting
  have hreplaced : Sources.Replaced ⟨countingPage.world.env, countingPlan.store, ["page", "t"]⟩
      countingStore "page" "c" [.extend 1 (.const 1 (.text "t"))] :=
    h.1.replaced (by decide) ⟨rfl, hpage⟩ ⟨rfl, hpage'⟩ extracted_counting ⟨rfl, hchild⟩
      (List.forall_mem_cons.2 ⟨fun h => absurd rfl h, List.forall_mem_singleton.2 fun _ => rfl⟩)
  exact h.tells rfl rfl rfl hreplaced

end Workspace

end Stencil
