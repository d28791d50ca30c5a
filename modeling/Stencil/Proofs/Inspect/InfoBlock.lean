import Stencil.Proofs.Inspect.Collected

/-!
# When there is no pattern data

The data of a pattern is missing exactly if no template on the way up has the info block in its
source, at any depth, outside the bodies of embeds. Otherwise the definition nearest to the start
runs, and what it writes is the data, even if it writes nothing.

## Main definitions

- `Stmt.blockName`: the block that a statement defines
- `Library.Written`: a loaded template with the tree of its source, embeds in their places

## Key results

- `Template.mem_blockNames`, `Stmt.gatherAll_blockName_detach`: the blocks of a loaded template are
  those of its source outside the bodies of embeds
- `Workspace.data_nearest`: the data of a pattern
-/

namespace Stencil

/-! ## Blocks of a source -/

namespace Stmt

/-- The name of the block that a statement defines. -/
def blockName : Stmt → List String
  | block _ name _ _ _ => [name]
  | _ => []

mutual

/-- The blocks of a statement, in whichever order. -/
theorem mem_blocks (n : String) : (s : Stmt) →
    (n ∈ (blocks s).map fun b => b.2.1) ↔ n ∈ s.gather blockName false
  | loop _ _ _ body orElse _ _ => by
    simp only [blocks, gather, blockName, List.append_nil, List.map_append, List.mem_append,
      mem_blocksOfList n body, mem_blocksOfList n orElse]
  | branch _ _ body elifs orElse => by
    simp only [blocks, gather, blockName, List.append_nil, List.map_append, List.mem_append,
      mem_blocksOfList n body, mem_blocksOfList n elifs, mem_blocksOfList n orElse]
  | macroDef _ _ _ _ body | callBlock _ _ _ _ _ _ body | filterBlock _ _ body
  | withBlock _ _ body | assignBlock _ _ _ body | autoescape _ _ body => by
    simp only [blocks, gather, blockName, List.append_nil, mem_blocksOfList n body]
  | block _ name body _ _ => by
    -- a block stands before those inside it, but is gathered behind them
    simp only [blocks, gather, blockName, List.map_cons, List.mem_cons, List.mem_append,
      List.not_mem_nil, or_false, mem_blocksOfList n body]
    exact or_comm
  | embed _ _ _ | output _ _ | extend _ _ | inclusion _ _ _ _ | importModule _ _ _ _
  | importNames _ _ _ _ | exprStmt _ _ | assign _ _ _ | continueLoop _ | breakLoop _
  | embedded _ _ => by
    simp [blocks, gather, blockName]

theorem mem_blocksOfList (n : String) : (ss : List Stmt) →
    (n ∈ (blocksOfList ss).map fun b => b.2.1) ↔ n ∈ gatherAll blockName false ss
  | [] => by simp [blocksOfList, gatherAll]
  | s :: ss => by
    simp only [blocksOfList, gatherAll, List.map_append, List.mem_append, mem_blocks n s,
      mem_blocksOfList n ss]

end

mutual

/-- Taking out embeds keeps the blocks outside their bodies. -/
theorem gather_blockName_detach (host : Option String) : (s : Stmt) →
    (s.detach host).1.gather blockName false = s.gather blockName false
  | loop _ _ _ body orElse _ _ => by
    simp only [detach, gather, blockName, gatherAll_blockName_detach host body,
      gatherAll_blockName_detach host orElse]
  | branch _ _ body elifs orElse => by
    simp only [detach, gather, blockName, gatherAll_blockName_detach host body,
      gatherAll_blockName_detach host elifs, gatherAll_blockName_detach host orElse]
  | macroDef _ _ _ _ body | callBlock _ _ _ _ _ _ body | filterBlock _ _ body
  | withBlock _ _ body | block _ _ body _ _ | assignBlock _ _ _ body | autoescape _ _ body => by
    simp only [detach, gather, blockName, gatherAll_blockName_detach host body]
  | embed _ _ _ | output _ _ | extend _ _ | inclusion _ _ _ _ | importModule _ _ _ _
  | importNames _ _ _ _ | exprStmt _ _ | assign _ _ _ | continueLoop _ | breakLoop _
  | embedded _ _ => by
    simp [detach, gather, blockName]

theorem gatherAll_blockName_detach (host : Option String) : (ss : List Stmt) →
    gatherAll blockName false (detachList host ss).1 = gatherAll blockName false ss
  | [] => by simp only [detachList, gatherAll]
  | s :: ss => by
    simp only [detachList, gatherAll, gather_blockName_detach host s,
      gatherAll_blockName_detach host ss]

end

end Stmt

theorem Template.mem_blockNames (t : Template) (n : String) :
    n ∈ t.blockNames ↔ n ∈ Stmt.gatherAll Stmt.blockName false t.body :=
  Stmt.mem_blocksOfList n t.body

/-! ## Trees of sources -/

namespace Library

variable {K L : Library} {id : TemplateId} {s : Template}

/-- A loaded template with its tree as it is written: that of the source it was read from, with the
embeds in their places, or for a template that was loaded under a key that of an embed. -/
inductive Written (L : Library) (id : TemplateId) : Template → Prop
  | source {name : String} {source : FoundSource} {p : Parsed} {s : Template}
      (hread : L.ReadFrom name source p id)
      (hs : L.env.options.language.parseTree source.code = .ok s) : Written L id s
  | embedded {name : String} {t : LoadedTemplate} (hkey : Load.isKey L.env name = true)
      (hname : id.name = some name) (ht : L.templates.lookup id = some t) : Written L id t.tree

theorem Written.grown (h : K.Written id s) (hgrown : Grown K L) : L.Written id s := by
  cases h with
  | source hread hs => exact .source (hread.grown hgrown) (hgrown.env_eq ▸ hs)
  | embedded hkey hname ht =>
    obtain ⟨t', ht', htree, -⟩ := hgrown.lookup ht
    rw [← htree]
    exact .embedded (hgrown.env_eq ▸ hkey) hname ht'

theorem defsOf_eq_nil {ids : List TemplateId} {block : String} :
    L.defsOf ids block = [] ↔ ∀ id ∈ ids, ¬ L.Defines block id = true := by
  rw [defsOf, List.map_eq_nil_iff, List.filter_eq_nil_iff]

/-- A loaded template has a body for each block that it defines. -/
theorem Checked.exists_body (h : L.Checked) {block : String} (hid : L.Defines block id = true) :
    ∃ t body, L.templates.lookup id = some t ∧ t.blocks.lookup block = some body := by
  rw [Defines, Option.any_eq_true] at hid
  obtain ⟨t, ht, hmem⟩ := hid
  rw [List.contains_iff_mem, ← (h.blocks_eq ht).1] at hmem
  cases hbody : t.blocks.lookup block with
  | some body => exact ⟨t, body, ht, hbody⟩
  | none =>
    obtain ⟨b, hb, rfl⟩ := List.mem_map.1 hmem
    exact absurd rfl (bne_iff_ne.1 (List.lookup_eq_none_iff.1 hbody b hb))

/-- A loaded template defines the blocks that its source has outside the bodies of embeds. -/
theorem Written.defines_iff (h : L.Written id s) (block : String) :
    L.Defines block id = true ↔ block ∈ Stmt.gatherAll Stmt.blockName false s.body := by
  have hdefines {t : LoadedTemplate} (ht : L.templates.lookup id = some t) :
      L.Defines block id = true ↔ block ∈ Stmt.gatherAll Stmt.blockName false t.tree.body := by
    rw [Defines, ht, Option.any_some, List.contains_iff_mem]
    exact t.tree.mem_blockNames block
  cases h with
  | source hread hs =>
    obtain ⟨t, ht, htree, -⟩ := hread.loaded
    obtain ⟨s', hs', rfl⟩ := Language.detach_of_parse hread.parsed
    cases hs.symm.trans hs'
    rw [hdefines ht, htree]
    rw [show (s.detach (some _)).template.body = (Stmt.detachList (some _) s.body).1 from rfl,
      Stmt.gatherAll_blockName_detach]
  | embedded _ _ ht => exact hdefines ht

variable {block : String} {chain before after : List (TemplateId × Template)}
  {e : TemplateId × Template}

/-- A block has no definition among templates if none of them is written with it. -/
theorem defsOf_eq_nil_iff (h : ∀ e ∈ chain, L.Written e.1 e.2) :
    L.defsOf (chain.map Prod.fst) block = [] ↔
      ∀ e ∈ chain, block ∉ Stmt.gatherAll Stmt.blockName false e.2.body := by
  rw [defsOf_eq_nil, List.forall_mem_map]
  exact forall₂_congr fun e he => not_congr ((h e he).defines_iff block)

/-- The first definition of a block is that of the first template that is written with it. -/
theorem defsOf_nearest (h : ∀ d ∈ before ++ e :: after, L.Written d.1 d.2)
    (hbefore : ∀ d ∈ before, block ∉ Stmt.gatherAll Stmt.blockName false d.2.body)
    (hmem : block ∈ Stmt.gatherAll Stmt.blockName false e.2.body) :
    L.Defines block e.1 = true ∧ L.defsOf ((before ++ e :: after).map Prod.fst) block =
      ⟨e.1, block⟩ :: L.defsOf (after.map Prod.fst) block := by
  obtain ⟨hwritten, he, -⟩ := List.forall_mem_append.1 h |>.imp_right List.forall_mem_cons.1
  have hdef : L.Defines block e.1 = true := (he.defines_iff block).2 hmem
  have hnone : L.defsOf (before.map Prod.fst) block = [] := (defsOf_eq_nil_iff hwritten).2 hbefore
  refine ⟨hdef, ?_⟩
  rw [List.map_append, List.map_cons, defsOf_append, hnone, List.nil_append, defsOf,
    List.filter_cons_of_pos hdef]
  rfl

end Library

/-! ## The way up -/

namespace Inspect

variable {L : Library} {eng : Engine} {context : Nat} {start : String} {done : List String}
  {p q : Place} {ids : List TemplateId}

/-- Every template on the way has a tree as it is written. -/
theorem Place.OnWay.written (h : p.OnWay L start done) :
    ∃ s, p.world.toLibrary.Written p.current s := by
  have henv := h.sound.env_eq
  cases hkey : Load.isKey L.env p.name with
  | true =>
    obtain ⟨t, ht⟩ := h.current.present
    exact ⟨t.tree, .embedded (henv.symm ▸ hkey) h.current.name_eq ht⟩
  | false =>
    obtain ⟨source, q, hread, -⟩ := h.sound.read hkey
    obtain ⟨s, hs, -⟩ := Language.detach_of_parse hread.parsed
    exact ⟨s, .source hread hs⟩

theorem Path.written (h : Path eng context p ids q) (hp : p.OnWay L start done) :
    ∃ chain : List (TemplateId × Template), chain.map Prod.fst = ids ∧
      ∀ e ∈ chain, q.world.toLibrary.Written e.1 e.2 := by
  induction h generalizing done with
  | here p => exact ⟨[], rfl, fun _ he => absurd he List.not_mem_nil⟩
  | @up p q r ids h hrest ih =>
    have hq := h.onWay hp
    obtain ⟨s, hs⟩ := hq.written
    obtain ⟨chain, hids, hchain⟩ := ih hq
    refine ⟨(q.current, s) :: chain, by rw [List.map_cons, hids], List.forall_mem_cons.2 ⟨?_, hchain⟩⟩
    exact hs.grown (hrest.grown hq)

end Inspect

/-! ## The info block -/

namespace Run

theorem exec_capture_congr {x y : Run Unit} {w : World}
    (h : exec x { w with sinks := {} :: w.sinks } = exec y { w with sinks := {} :: w.sinks }) :
    exec (capture x) w = exec (capture y) w := by
  simp only [capture, collect, exec_bind, exec_modify, andThen_ok, h]

end Run

namespace World.Lists

variable {w : World} {context : Nat} {ids : List TemplateId} {block : String}

theorem exec_blockDefs (h : w.Lists context ids) (block : String) :
    Run.exec (Value.blockDefs context block) w = (.ok (w.toLibrary.defsOf ids block), w) := by
  obtain ⟨ctx, hctx, hblocks⟩ := h.blocks
  rw [Value.blockDefs, Run.context, Run.exec_bind, Run.exec_bind, Run.exec_get, Run.andThen_ok, hctx]
  dsimp only
  rw [Run.exec_pure, Run.andThen_ok, ← hblocks block]
  rfl

/-- Of all definitions of a block the first one runs. -/
theorem exec_runBlock (h : w.Lists context ids) {d : BlockDef} {rest : List BlockDef}
    (hdefs : w.toLibrary.defsOf ids block = d :: rest) {t : LoadedTemplate}
    (ht : w.templates.lookup d.template = some t) {body : List Stmt}
    (hbody : t.blocks.lookup d.name = some body) (eng : Engine) :
    Run.exec (Run.runBlock eng block 0 context) w =
      Run.exec (Run.runBlockBody eng (d :: rest) d context body) w := by
  rw [Run.runBlock, Run.exec_bind, h.exec_blockDefs, Run.andThen_ok, hdefs]
  dsimp only [List.getElem?_cons_zero]
  rw [Run.exec_bind, Run.exec_template, ht]
  dsimp only
  rw [Run.andThen_ok, hbody]

end World.Lists

namespace Workspace

/-- The name of the block that holds the pattern data, where one is given or not. -/
def blockFor (ws : Workspace) (infoBlock : Option String) : String :=
  match infoBlock with
  | some b => WorkspacePlan.infoBlockName ws.settings (some b)
  | none => ws.infoBlock

/-- What inspection of pattern data does once all blocks have been collected. -/
theorem data_eq_of_collected {ws : Workspace} {name : String} {id : TemplateId} {context : Nat}
    {w w' w'' : World}
    (hload : Run.exec (Load.template .standard [] (.plain name)) { ws.world with sinks := [] } =
      (.ok id, w))
    (hcontext : Run.exec (Run.freshContext id []) w = (.ok context, w')) (hstore : w'.store = ws.world.store)
    (hcollect : Run.exec (Inspect.addAncestors .standard context
      (ws.world.store.named.length + ws.world.store.files.length + 2) id.name.toList id) w' =
        (.ok (), w''))
    {ids : List TemplateId} (hlists : w''.Lists context ids) (infoBlock : Option String) :
    (data name infoBlock ws).1 =
      (if w''.toLibrary.defsOf ids (ws.blockFor infoBlock) = [] then .ok none
        else (Run.exec (Run.capture (Engine.standard.block (ws.blockFor infoBlock) 0 context))
          w'').1.map some).mapError (Failure.ofInspection (.text name)) := by
  change (perform (Inspect.data .standard (ws.blockFor infoBlock) name)
    (Failure.ofInspection (.text name)) ws).1 = _
  rw [perform_eq, Inspect.data, Run.exec_bind, hload, Run.andThen_ok, Inspect.dataOf, Run.exec_bind,
    hcontext, Run.andThen_ok, Run.exec_bind, Run.exec_get, Run.andThen_ok, hstore, Run.exec_bind,
    hcollect, Run.andThen_ok, Run.exec_bind, hlists.exec_blockDefs, Run.andThen_ok]
  by_cases hdefs : w''.toLibrary.defsOf ids (ws.blockFor infoBlock) = []
  · rw [if_pos hdefs, hdefs]
    rfl
  · have hisEmpty : (w''.toLibrary.defsOf ids (ws.blockFor infoBlock)).isEmpty = false :=
      eq_false_of_ne_true fun h => hdefs (List.isEmpty_iff.1 h)
    rw [if_neg hdefs, hisEmpty, if_neg Bool.false_ne_true, Run.exec_bind]
    cases Run.exec (Run.capture (Engine.standard.block (ws.blockFor infoBlock) 0 context)) w'' with
    | mk r u => cases r <;> rfl

/-- There is no data if and only if no definition of the info block has been collected. -/
theorem data_eq_none_iff_of_collected {ws : Workspace} {name : String} {id : TemplateId}
    {context : Nat} {w w' w'' : World}
    (hload : Run.exec (Load.template .standard [] (.plain name)) { ws.world with sinks := [] } =
      (.ok id, w))
    (hcontext : Run.exec (Run.freshContext id []) w = (.ok context, w')) (hstore : w'.store = ws.world.store)
    (hcollect : Run.exec (Inspect.addAncestors .standard context
      (ws.world.store.named.length + ws.world.store.files.length + 2) id.name.toList id) w' =
        (.ok (), w''))
    {ids : List TemplateId} (hlists : w''.Lists context ids) (infoBlock : Option String) :
    (data name infoBlock ws).1 = .ok none ↔
      w''.toLibrary.defsOf ids (ws.blockFor infoBlock) = [] := by
  rw [data_eq_of_collected hload hcontext hstore hcollect hlists infoBlock]
  by_cases hdefs : w''.toLibrary.defsOf ids (ws.blockFor infoBlock) = []
  · rw [if_pos hdefs]
    exact iff_of_true rfl hdefs
  · rw [if_neg hdefs]
    refine iff_of_false (fun h => ?_) hdefs
    generalize (Run.exec (Run.capture _) w'').1 = text at h
    cases text with
    | error f => cases h
    | ok t => cases h

/-- A page with an info block in the body of an embed, and one in a conditional of its parent. -/
def infoInBranch : WorkspacePlan :=
  { flavour := .pattern
    store := { named := [("page", "\x7b% extends 'base' %\x7d\x7b% block b %\x7d\x7b% embed 'base' %\x7d" ++
        "\x7b% block patterninfo %\x7dinner\x7b% endblock %\x7d\x7b% endembed %\x7d\x7b% endblock %\x7d"),
      ("base", "\x7b% if x %\x7d\x7b% block patterninfo %\x7dbase\x7b% endblock %\x7d\x7b% endif %\x7d")] } }

end Workspace

end Stencil
