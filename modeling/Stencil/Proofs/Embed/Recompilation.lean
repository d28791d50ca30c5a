import Stencil.Proofs.Embed.Closed
import Stencil.Proofs.Embed.Identity

/-!
# Compiling a host again

A key leaves the lines of an embed out, and a tree that is registered under a key stays. So when a
source is compiled in which an embed has moved, the tree of the earlier source stays in its place,
with the lines of the earlier source: it is the tree of the present source, but for lines, and a
fault that is found when the embed is loaded is reported for the line where the embed was first.
Only a key that was not registered yet gets the tree of the present source.

## Key results

- `Registry.tree?_register`: which tree is registered after a compilation
- `Load.embedded_error_iff`: which faults are found when an embed is loaded
- `Workspace.compile_registered_tree`: the tree of a recorded key after a compilation
-/

namespace Stencil

/-! ## Which tree is registered -/

/-- The first embed that was recorded under a key. -/
def Embedded.first? (embeds : List Embedded) (key : String) : Option Embedded :=
  embeds.find? (·.key == key)

namespace Embedded

theorem exists_first {embeds : List Embedded} {e : Embedded} (he : e ∈ embeds) :
    ∃ d, first? embeds e.key = some d ∧ d ∈ embeds ∧ d.key = e.key := by
  have hsome : (first? embeds e.key).isSome = true :=
    List.find?_isSome.2 ⟨e, he, beq_self_eq_true _⟩
  obtain ⟨d, hd⟩ := Option.isSome_iff_exists.1 hsome
  exact ⟨d, hd, List.mem_of_find?_eq_some hd, by simpa using List.find?_some hd⟩

end Embedded

namespace Registry

variable {α : Type}

theorem lookup_append {β : Type} (l l' : List (String × β)) (key : String) :
    (l ++ l').lookup key = (l.lookup key).or (l'.lookup key) := by
  induction l with
  | nil => rfl
  | cons e es ih =>
    rw [List.cons_append, List.lookup_cons, List.lookup_cons]
    cases key == e.1 with
    | true => rfl
    | false => exact ih

/-- Registering one more tree gives its key a tree unless it has one. -/
theorem lookup_addTree (trees : List (String × Template)) (e : Embedded) (key : String) :
    (addTree trees e).lookup key =
      (trees.lookup key).or (if e.key = key then some e.template else none) := by
  rw [addTree_eq_append, lookup_append]
  by_cases hkey : e.key = key
  · subst hkey
    cases htree : trees.lookup e.key with
    | some t => rfl
    | none =>
      have hfree : ¬ trees.any (·.1 == e.key) = true := by
        rw [any_key_eq_true_iff]
        rintro ⟨t, ht⟩
        simpa using List.lookup_eq_none_iff.1 htree _ ht
      rw [if_neg hfree]
      simp
  · rw [if_neg hkey]
    split
    · rfl
    · simp [List.lookup_cons, beq_false_of_ne (Ne.symm hkey)]

/-- Of several trees for a key the one that is registered first stays. -/
theorem lookup_addTrees (embeds : List Embedded) (trees : List (String × Template)) (key : String) :
    (embeds.foldl addTree trees).lookup key =
      (trees.lookup key).or ((Embedded.first? embeds key).map (·.template)) := by
  induction embeds generalizing trees with
  | nil => simp [Embedded.first?]
  | cons e es ih =>
    have hfirst : ((Embedded.first? (e :: es) key).map (·.template)) =
        (if e.key = key then some e.template else none).or
          ((Embedded.first? es key).map (·.template)) := by
      by_cases hkey : e.key = key <;> simp [Embedded.first?, hkey]
    rw [List.foldl_cons, ih, lookup_addTree, hfirst, Option.or_assoc]

/-- After a compilation a recorded key has the tree that it had before, and otherwise the one that
was recorded first. -/
theorem tree?_register (r : Registry α) (host : Option String) {embeds : List Embedded}
    {key : String} (hkey : ∃ e ∈ embeds, e.key = key) :
    (r.register host embeds).tree? key =
      (r.tree? key).or ((Embedded.first? embeds key).map (·.template)) := by
  refine (lookup_addTrees embeds _ key).trans ?_
  cases host with
  | none => rfl
  | some name =>
    have hkept : key ∉ (r.keysOf name).filter
        (fun k => !((embeds.map (·.key)).eraseDups).contains k) := by
      rw [mem_stale_iff]
      rintro ⟨-, -, -, hnone⟩
      obtain ⟨e, he, hek⟩ := hkey
      exact hnone e he hek
    rw [tree?]
    exact congrArg (Option.or · _) (lookup_drop_of_not_mem _ _ hkept)

/-- Two trees that were recorded under the same key, by whichever compilations, differ in lines only,
as long as digests do not collide on them and numbers are told apart by their texts. -/
theorem alike_of_recorded {lang : Language} {c c' : Compilation} (hc : c.Read lang)
    (hc' : c'.Read lang) {e e' : Embedded} (he : e ∈ c.embeds) (he' : e' ∈ c'.embeds)
    (hkey : e.key = e'.key)
    (hdigest : Md5.hexDigest e.template.dump = Md5.hexDigest e'.template.dump →
      e.template.dump = e'.template.dump)
    (htold : Binary64.Told e.template.floats e'.template.floats) :
    e.template.Alike e'.template := by
  rw [hc.key_eq he, hc'.key_eq he', Embed.key_eq_iff] at hkey
  have hdump := hdigest hkey.2
  obtain hnone | ⟨t, -, -, hembeds⟩ := hc
  · rw [hnone] at he
    exact absurd he List.not_mem_nil
  obtain hnone' | ⟨t', -, -, hembeds'⟩ := hc'
  · rw [hnone'] at he'
    exact absurd he' List.not_mem_nil
  rw [hembeds] at he
  rw [hembeds'] at he'
  exact (Embedded.dump_eq_iff he he' htold).1 hdump

end Registry

/-! ## Faults of an embed -/

namespace Load

/-- Loading an embed fails iff it is not compiled yet and the check finds a fault in the tree that is
registered under its key. -/
theorem embedded_error_iff {w : World} (hreg : w.env.flavour.hasRegistry = true) {key : String}
    {t : Template} (ht : w.registry.tree? key = some t) (globals : List (String × Value)) (f : Fault) :
    (Run.exec (embedded globals key) w).1 = .error f ↔
      w.registry.fetch key = none ∧ verdict w.env t = .error f := by
  rw [embedded, Run.exec_bind, Run.exec_get, Run.andThen_ok]
  cases w.registry.fetch key with
  | some x =>
    refine iff_of_false (fun h => ?_) fun h => Option.some_ne_none x h.1
    cases h
  | none =>
    rw [and_iff_right rfl]
    dsimp only
    rw [Run.exec_bind, Run.exec_get, Run.andThen_ok, ht]
    dsimp only
    rw [Run.exec_bind, exec_compile _ _ w hreg]
    cases verdict w.env t with
    | error g => exact ⟨fun h => congrArg Except.error (Except.error.inj h), fun h => by cases h; rfl⟩
    | ok _ =>
      refine iff_of_false (fun h => ?_) fun h => ?_ <;> cases h

theorem template_error_iff {w : World} (hreg : w.env.flavour.hasRegistry = true) {key : String}
    (hstart : Text.startsWith key.toList Embed.keyStart.toList = true) {t : Template}
    (ht : w.registry.tree? key = some t) (eng : Engine) (globals : List (String × Value))
    (f : Fault) :
    (Run.exec (template eng globals (.plain key)) w).1 = .error f ↔
      w.registry.fetch key = none ∧ verdict w.env t = .error f := by
  rw [exec_template eng globals key w hreg, if_pos hstart]
  exact embedded_error_iff hreg ht globals f

end Load

namespace Workspace

/-- After a source was compiled every key that was recorded with it has a tree: the one it had
before, and if it had none, the first that was recorded for it. So it is that of the present source,
with its lines, iff the tree it had before is, as in a workspace in which the key was not registered.
In any case it differs from that of the present source in lines only, as long as digests do not
collide and numbers are told apart by their texts; and a fault found when the embed is loaded is the
one that the check finds in it. -/
theorem compile_registered_tree (p : WorkspacePlan) {ws : Workspace}
    (hreg : p.flavour.hasRegistry = true) (hws : Reachable p ws) (host : Option String)
    (code : String) (hok : (compile host host code ws).1 = .ok ()) :
    ∃ q, ws.world.env.options.language.parse host code = .ok q ∧
      ∀ e ∈ q.embeds, ∃ first t, Embedded.first? q.embeds e.key = some first ∧
        (compile host host code ws).2.world.registry.tree? e.key = some t ∧
        t = (ws.world.registry.tree? e.key).getD first.template ∧
        (t = first.template ↔
          ∀ u, ws.world.registry.tree? e.key = some u → u = first.template) ∧
        (ws.world.registry.Distinguished q.embeds →
          Binary64.Told t.floats first.template.floats → t.Alike first.template) ∧
        ∀ eng globals f,
          (Run.exec (Load.template eng globals (.plain e.key))
              (compile host host code ws).2.world).1 = .error f ↔
            (compile host host code ws).2.world.registry.fetch e.key = none ∧
              Load.verdict ws.world.env t = .error f := by
  obtain ⟨hreg', cs, hreached⟩ := hws.history hreg
  cases hq : ws.world.env.options.language.parse host code with
  | error e =>
    rw [compile_of_parse_error hq] at hok
    exact nomatch hok
  | ok q =>
    refine ⟨q, rfl, fun e he => ?_⟩
    obtain ⟨first, hfirst, hmem, hkey⟩ := Embedded.exists_first he
    have htree := ws.world.registry.tree?_register host ⟨e, he, rfl⟩
    rw [hfirst, Option.map_some, Option.or_some] at htree
    rw [compile_of_parse hq hreg']
    refine ⟨first, _, hfirst, htree, rfl, ?_, fun hdigest htold => ?_, fun eng globals f => ?_⟩
    · cases ws.world.registry.tree? e.key with
      | none => exact iff_of_true rfl fun _ h => nomatch h
      | some u =>
        refine ⟨fun h _ hu => ?_, fun h => h u rfl⟩
        rw [← Option.some.inj hu]
        exact h
    · have hnew := Registry.Reached.compile hreached.registry hq
      have hread := hnew.sound.read
      -- whichever compilation recorded the tree did so under the key of the present one
      obtain ⟨c, hc, d, hd, hdkey, hdtree⟩ := hnew.recorded (mem_of_lookup htree)
      rw [← hdtree] at htold ⊢
      refine Registry.alike_of_recorded (hread c hc) (hread _ List.mem_cons_self) hd hmem
        (hdkey.trans hkey.symm) (fun hsame => hdigest first hmem d.template ?_ hsame) htold
      rw [hdtree]
      exact (Registry.mem_trees_register (mem_of_lookup htree)).imp (fun hr => ⟨e.key, hr⟩)
        fun ⟨d', hd', heq⟩ => ⟨d', hd', (Prod.mk.inj heq).2.symm⟩
    · obtain ⟨t, -, rfl⟩ := Language.detach_of_parse hq
      have hstart : Text.startsWith e.key.toList Embed.keyStart.toList = true := by
        rw [Stmt.key_detachList host t.body e he]
        exact Embed.startsWith_key host _
      apply Load.template_error_iff
      · exact hreg'
      · exact hstart
      · exact htree

/-- A page whose embed uses a filter that does not exist. -/
def unknownFilter : String :=
  "\x7b% embed 'card' %\x7d\x7b% block a %\x7d\x7b\x7b 1|nope \x7d\x7d\x7b% endblock %\x7d\x7b% endembed %\x7d"

/-- A workspace in which this page was compiled. -/
def withUnknownFilter : Option Workspace :=
  (WorkspacePlan.build { flavour := .pattern }).toOption.map
    (serve · (.compile (some "page") unknownFilter))

/-- The line of a syntax error. -/
def faultLine : Fault → Option Nat
  | .syntaxError e => some e.line
  | _ => none

/-- What is compared after the page was compiled once more, one line further down: the key and the
line of its embed, the line of the registered tree, and the line reported when it is loaded. -/
def movedDown (ws : Workspace) : Option (List (String × Nat)) × Bool × Option Nat × Option Nat :=
  let moved := "\n" ++ unknownFilter
  let key := "__embed__:page#e83e3aa7c470d0c0e6cf3b8679b6d90c"
  let (r, after) := compile (some "page") (some "page") moved ws
  ((ws.world.env.options.language.parse (some "page") moved).toOption.map
      (·.embeds.map fun e => (e.key, e.template.line)),
    r.toOption.isSome, (after.world.registry.tree? key).map (·.line),
    match (Run.exec (Load.template Engine.standard [] (.plain key)) after.world).1 with
    | .error f => faultLine f
    | .ok _ => none)

/-- The embed of the page has moved to line 2, but its tree and the reported fault stay on line 1. -/
theorem compile_registered_tree_moved :
    ∃ ws q e first t f, Reachable { flavour := .pattern } ws ∧
      ws.world.env.options.language.parse (some "page") ("\n" ++ unknownFilter) = .ok q ∧
      e ∈ q.embeds ∧ Embedded.first? q.embeds e.key = some first ∧
      (compile (some "page") (some "page") ("\n" ++ unknownFilter) ws).2.world.registry.tree? e.key =
        some t ∧
      first.template.line = 2 ∧ t.line = 1 ∧ t ≠ first.template ∧
      Load.verdict ws.world.env t = .error f ∧ faultLine f = some 1 := by
  have hmoved : withUnknownFilter.map movedDown =
      some (some [("__embed__:page#e83e3aa7c470d0c0e6cf3b8679b6d90c", 2)], true, some 1, some 1) := by
    decide +kernel
  obtain ⟨ws, hws, hout⟩ := Option.map_eq_some_iff.1 hmoved
  obtain ⟨ws₀, hbuild, rfl⟩ := Option.map_eq_some_iff.1 hws
  have hreach : Reachable { flavour := .pattern } (ws₀.serve (.compile (some "page") unknownFilter)) :=
    .serve (.of_toOption hbuild) _
  generalize ws₀.serve (.compile (some "page") unknownFilter) = ws at hreach hout
  simp only [movedDown, Prod.mk.injEq] at hout
  obtain ⟨hembeds, hcompiles, hline, hfault⟩ := hout
  have hok : (compile (some "page") (some "page") ("\n" ++ unknownFilter) ws).1 = .ok () := by
    cases hc : (compile (some "page") (some "page") ("\n" ++ unknownFilter) ws).1 with
    | ok _ => rfl
    | error f => rw [hc] at hcompiles; exact nomatch hcompiles
  obtain ⟨q, hq, hall⟩ := compile_registered_tree _ rfl hreach _ _ hok
  rw [hq] at hembeds
  obtain ⟨e, hone, hfeatures⟩ := List.map_eq_singleton_iff.1 (Option.some.inj hembeds)
  obtain ⟨hkey, heline⟩ := Prod.mk.inj hfeatures
  have he : e ∈ q.embeds := hone ▸ List.mem_cons_self
  obtain ⟨first, t, hfirst, htree, -, -, -, hload⟩ := hall e he
  have hsame : first = e := by
    have hmem := List.mem_of_find?_eq_some hfirst
    rw [hone] at hmem
    exact List.mem_singleton.1 hmem
  rw [← hkey, htree] at hline
  have htline : t.line = 1 := Option.some.inj hline
  rw [← hkey] at hfault
  cases hrun : (Run.exec (Load.template Engine.standard [] (.plain e.key))
      (compile (some "page") (some "page") ("\n" ++ unknownFilter) ws).2.world).1 with
  | ok _ => rw [hrun] at hfault; exact nomatch hfault
  | error f =>
    rw [hrun] at hfault
    refine ⟨ws, q, e, first, t, f, hreach, hq, he, hfirst, htree, hsame ▸ heline, htline, ?_,
      ((hload _ _ f).1 hrun).2, hfault⟩
    intro heq
    rw [heq, hsame, heline] at htline
    exact absurd htline (by decide)

end Workspace

end Stencil
