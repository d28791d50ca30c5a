import Mathlib.Data.List.DropRight
import Mathlib.Data.List.Dedup
import Stencil.Proofs.Embed.Visits
import Stencil.Proofs.Render.Sourced

/-!
# The embeds used last

A compiled embed that is asked for again becomes the one used last, a new one is put behind the
others, and beyond the limit the one used longest ago has to go. So the embeds that are kept are
those that were loaded last, in the order of their last loads, and an embed is compiled again exactly
if so many others have been loaded since.

## Main definitions

- `Visit.loads`: the keys of the embeds that are loaded in a run of visits
- `recent`: the last keys of a sequence, each at the place where it comes last

## Key results

- `recent_concat_of_mem`, `recent_concat_of_not_mem`: what one more load does to them
- `Visit.recent_act`: a visit keeps the compiled embeds those that were loaded last
- `Visit.compiled_run`: which embeds are kept after a run of visits, and which are compiled again
-/

namespace Stencil

/-! ## The last keys of a sequence -/

variable {keys : List String} {key : String} {m : Nat}

/-- The last `m` different keys of a sequence, each at the place where it comes last. -/
def recent (m : Nat) (keys : List String) : List String :=
  keys.dedup.rtake m

theorem dedup_append_eq (as bs : List String) :
    (as ++ bs).dedup = (as.dedup.filter fun a => decide (a ∉ bs)) ++ bs.dedup := by
  induction as with
  | nil => rfl
  | cons a as ih =>
    rw [List.cons_append]
    by_cases has : a ∈ as
    · rw [List.dedup_cons_of_mem (List.mem_append_left bs has), List.dedup_cons_of_mem has, ih]
    · rw [List.dedup_cons_of_notMem has]
      by_cases hbs : a ∈ bs
      · rw [List.dedup_cons_of_mem (List.mem_append_right as hbs), ih,
          List.filter_cons_of_neg (by simpa using hbs)]
      · have hboth : a ∉ as ++ bs := by simp [has, hbs]
        rw [List.dedup_cons_of_notMem hboth, ih, List.filter_cons_of_pos (by simpa using hbs)]
        rfl

theorem dedup_concat (keys : List String) (key : String) :
    (keys ++ [key]).dedup = keys.dedup.erase key ++ [key] := by
  rw [dedup_append_eq, keys.nodup_dedup.erase_eq_filter]
  refine congrArg (· ++ _) (List.filter_congr fun k _ => ?_)
  rw [Bool.eq_iff_iff]
  simp

/-- The end of a sequence is taken if it has the right length, or if there is nothing before it. -/
theorem rtake_append_eq {as bs : List String} (h : as = [] ∧ bs.length ≤ m ∨ bs.length = m) :
    (as ++ bs).rtake m = bs := by
  rw [List.rtake]
  obtain ⟨rfl, hle⟩ | rfl := h
  · rw [List.nil_append, Nat.sub_eq_zero_of_le hle, List.drop_zero]
  · rw [List.length_append, Nat.add_sub_cancel, List.drop_left]

/-- There is something before the last `m` different keys only if there are `m` of these. -/
theorem exists_append_recent (m : Nat) (keys : List String) :
    ∃ older, keys.dedup = older ++ recent m keys ∧
      (older = [] ∧ (recent m keys).length ≤ m ∨ (recent m keys).length = m) := by
  refine ⟨keys.dedup.take (keys.dedup.length - m), (List.take_append_drop _ _).symm, ?_⟩
  simp only [recent, List.rtake, List.length_drop, List.take_eq_nil_iff]
  omega

/-- A key that comes once more moves to the end. -/
theorem recent_concat_of_mem (h : key ∈ recent m keys) :
    recent m (keys ++ [key]) = (recent m keys).erase key ++ [key] := by
  obtain ⟨older, hkeys, hlen⟩ := exists_append_recent m keys
  have hnodup : (older ++ recent m keys).Nodup := hkeys ▸ keys.nodup_dedup
  have holder : key ∉ older := fun hmem => List.disjoint_of_nodup_append hnodup hmem h
  have hsame : ((recent m keys).erase key ++ [key]).length = (recent m keys).length := by
    have hpos := List.length_pos_of_mem h
    rw [List.length_append, List.length_erase_of_mem h, List.length_singleton]
    omega
  rw [recent, dedup_concat, hkeys, List.erase_append_right _ holder, List.append_assoc]
  exact rtake_append_eq (hsame ▸ hlen)

/-- A key that is not among the last ones is put behind them, and beyond `m` the first one goes. -/
theorem recent_concat_of_not_mem (h : key ∉ recent m keys) :
    recent m (keys ++ [key]) =
      (recent m keys ++ [key]).drop (if (recent m keys).length + 1 > m then 1 else 0) := by
  obtain ⟨older, hkeys, hlen⟩ := exists_append_recent m keys
  have herase : (older ++ recent m keys).erase key = older.erase key ++ recent m keys := by
    by_cases hmem : key ∈ older
    · exact List.erase_append_left _ hmem
    · rw [List.erase_append_right _ hmem, List.erase_of_not_mem h, List.erase_of_not_mem hmem]
  rw [recent, dedup_concat, hkeys, herase, List.append_assoc]
  split
  -- beyond the limit the oldest one goes, whatever stands before it
  · rename_i hfull
    have hcut : older.erase key ++ (recent m keys ++ [key]) =
        older.erase key ++ (recent m keys ++ [key]).take 1 ++ (recent m keys ++ [key]).drop 1 := by
      rw [List.append_assoc, List.take_append_drop]
    rw [hcut]
    refine rtake_append_eq (.inr ?_)
    rw [List.length_drop, List.length_append, List.length_singleton]
    omega
  -- below the limit nothing has gone yet
  · rename_i hroom
    have hfirst : older = [] := by
      obtain ⟨hfirst, -⟩ | hfull := hlen
      · exact hfirst
      · omega
    rw [hfirst, List.drop_zero]
    refine rtake_append_eq (.inl ⟨rfl, ?_⟩)
    rw [List.length_append, List.length_singleton]
    omega

theorem mem_rtake_iff {older newer : List String} (h : key ∉ newer) :
    key ∈ (older ++ key :: newer).rtake m ↔ newer.length < m := by
  rw [List.rtake, List.length_append, List.length_cons]
  constructor
  · intro hmem
    refine Nat.lt_of_not_le fun hle => h ?_
    have hcut : older.length + (newer.length + 1) - m =
        (older ++ [key]).length + (newer.length - m) := by
      rw [List.length_append, List.length_singleton]
      omega
    rw [hcut, List.append_cons older key newer, List.drop_length_add_append] at hmem
    exact List.mem_of_mem_drop hmem
  · intro hlt
    have hle : older.length + (newer.length + 1) - m ≤ older.length := by omega
    rw [List.drop_append_of_le_length hle]
    exact List.mem_append_right _ List.mem_cons_self

/-- A key that comes in a sequence comes there a last time. -/
theorem exists_last_of_mem (h : key ∈ keys) :
    ∃ older newer, keys = older ++ key :: newer ∧ key ∉ newer := by
  obtain ⟨newer, older, heq, hnew⟩ := List.eq_append_cons_of_mem (List.mem_reverse.2 h)
  refine ⟨older.reverse, newer.reverse, ?_, by simpa using hnew⟩
  rw [← List.reverse_reverse keys, heq]
  simp

/-- A key is among the last ones if fewer than `m` others have come since it came last. -/
theorem mem_recent_iff {older newer : List String} (h : key ∉ newer) :
    key ∈ recent m (older ++ key :: newer) ↔ newer.dedup.length < m := by
  rw [recent, dedup_append_eq, List.dedup_cons_of_notMem h]
  exact mem_rtake_iff fun hmem => h (List.mem_dedup.1 hmem)

/-- A key has not come at all, or `m` others have come since it came last. -/
def Forgotten (m : Nat) (keys : List String) (key : String) : Prop :=
  key ∉ keys ∨
    ∃ older newer, keys = older ++ key :: newer ∧ key ∉ newer ∧ m ≤ newer.dedup.length

theorem not_mem_recent_iff (m : Nat) (keys : List String) (key : String) :
    key ∉ recent m keys ↔ Forgotten m keys key := by
  constructor
  · intro h
    by_cases hmem : key ∈ keys
    · obtain ⟨older, newer, rfl, hnew⟩ := exists_last_of_mem hmem
      exact .inr ⟨older, newer, rfl, hnew, Nat.le_of_not_lt fun hlt => h ((mem_recent_iff hnew).2 hlt)⟩
    · exact .inl hmem
  · rintro (hnone | ⟨older, newer, rfl, hnew, hle⟩)
    · exact fun hmem => hnone (List.mem_dedup.1 (List.mem_of_mem_drop hmem))
    · exact fun hmem => Nat.not_le_of_lt ((mem_recent_iff hnew).1 hmem) hle

/-! ## What visits do to the compiled embeds -/

namespace Registry

variable {α : Type}

theorem map_fst_drop (key : String) (entries : List (String × α))
    (h : (entries.map (·.1)).Nodup) :
    (drop [key] entries).map (·.1) = (entries.map (·.1)).erase key := by
  rw [h.erase_eq_filter, List.filter_map, drop]
  refine congrArg (List.map _) (List.filter_congr fun e _ => ?_)
  rw [Bool.eq_iff_iff]
  simp

/-- Every key that was registered still is. -/
def Keeps (r s : Registry α) : Prop :=
  ∀ key, r.Holds key → s.Holds key

theorem keeps_iff (r s : Registry α) :
    (∀ key ∈ r.trees.map (·.1), key ∈ s.trees.map (·.1)) ↔ Keeps r s := by
  have hheld (r : Registry α) (key : String) : key ∈ r.trees.map (·.1) ↔ r.Holds key := by
    simp [Holds]
  simp only [Keeps, hheld]

instance (r s : Registry α) : Decidable (Keeps r s) :=
  decidable_of_iff _ (keeps_iff r s)

/-- A compilation that takes no registered tree leaves the compiled embeds as they are. -/
theorem compiled_register_of_held {r : Registry α} {host : Option String} {embeds : List Embedded}
    (hcompiled : ∀ e ∈ r.compiled, r.Holds e.1)
    (hkeeps : Keeps r (r.register host embeds)) :
    (r.register host embeds).compiled = r.compiled := by
  have hall : ∀ e ∈ r.compiled, e ∈ (r.register host embeds).compiled := by
    intro e he
    refine (mem_compiled_register r host embeds e).2 ⟨he, fun hstale => ?_⟩
    obtain ⟨t, ht⟩ := (holds_iff_tree? _ _).1 (hkeeps e.1 (hcompiled e he))
    rw [tree?_register_of_stale hstale] at ht
    cases ht
  cases host with
  | none => rfl
  | some name =>
    simp only [register, replaceHost, drop] at hall ⊢
    exact List.filter_eq_self.2 fun e he => (List.mem_filter.1 (hall e he)).2

end Registry

namespace Load

variable {β γ : Type}

/-- A computation that leaves the registry as it is, or registers what a source holds. -/
def Registers (x : Run β) (w : World) : Prop :=
  (Run.exec x w).2.registry = w.registry ∨
    ∃ host embeds, (Run.exec x w).2.registry = w.registry.register host embeds

theorem Registers.after {x : Run β} {f : β → Run γ} {w : World}
    (hx : (Run.exec x w).2.registry = w.registry) (hf : ∀ a w, Registers (f a) w) :
    Registers (x >>= f) w := by
  unfold Registers
  rw [Run.exec_bind]
  generalize Run.exec x w = r at hx
  obtain ⟨r, w₁⟩ := r
  cases r with
  | error e => exact .inl hx
  | ok a =>
    rw [← show w₁.registry = w.registry from hx]
    exact hf a w₁

theorem Registers.before {x : Run β} {f : β → Run γ} {w : World} (hx : Registers x w)
    (hf : ∀ a w, (Run.exec (f a) w).2.registry = w.registry) : Registers (x >>= f) w := by
  unfold Registers at hx ⊢
  rw [Run.exec_bind]
  generalize Run.exec x w = r at hx
  obtain ⟨r, w₁⟩ := r
  cases r with
  | error e => exact hx
  | ok a =>
    rw [show (Run.andThen (.ok a, w₁) fun a w => Run.exec (f a) w).2.registry = w₁.registry from
      hf a w₁]
    exact hx

theorem registers_compile (host : Option String) (p : Parsed) (w : World) :
    Registers (compile host p) w := by
  rw [Registers, exec_compile_eq, Library.registered]
  split
  · exact .inr ⟨host, p.embeds, rfl⟩
  · exact .inl rfl

theorem registers_source (host : Option String) (code : String) (w : World) :
    Registers (do compile host (← parse host code)) w :=
  .after (by rw [exec_parse]) fun p w => registers_compile host p w

theorem registers_ofSource (name : Option String) (code : String)
    (globals : List (String × Value)) (origin : Origin) (w : World) :
    Registers (ofSource name code globals origin) w := by
  refine .after rfl fun _ w => .after (by rw [exec_parse]) fun p w => ?_
  exact (registers_compile name p w).before fun _ _ => rfl

theorem registers_fresh (globals : List (String × Value)) (name : String) (w : World) :
    Registers (fresh globals name) w := by
  refine .after ?_ fun source w => (registers_ofSource _ _ _ _ w).before fun _ _ => rfl
  obtain ⟨_, -, hexec⟩ | ⟨_, _, -, hexec⟩ := exec_find name w <;> rw [hexec]

theorem registers_named (globals : List (String × Value)) (name : String) (w : World) :
    Registers (named globals name) w := by
  refine .after rfl fun w₀ w => ?_
  split
  · exact registers_fresh globals name w
  · refine .after rfl fun _ w => .after rfl fun _ w => ?_
    refine .after (by rw [Run.exec_template]) fun t w => ?_
    split
    · exact .inl rfl
    · exact registers_fresh globals name w

/-- The keys of the compiled embeds. -/
def compiledKeys (w : World) : List String :=
  w.registry.compiled.map (·.1)

theorem fetch_eq_none_iff (w : World) (key : String) :
    w.registry.fetch key = none ↔ key ∉ compiledKeys w := by
  rw [Registry.fetch, Option.map_eq_none_iff, List.lookup_eq_none_iff, compiledKeys, List.mem_map]
  constructor
  · rintro h ⟨e, he, rfl⟩
    exact absurd rfl (bne_iff_ne.1 (h e he))
  · exact fun h e he => bne_iff_ne.2 fun heq => h ⟨e, he, heq.symm⟩

/-- Loading an embed fails and leaves what is compiled, or moves its key behind the others, or
compiles the embed and puts its key behind the others, of which the first may have to go. -/
theorem embedded_cases {env : Environment} {cs : List Compilation} {w : World}
    (hreached : Library.Reached env cs w.toLibrary) (hreg : env.flavour.hasRegistry = true)
    (globals : List (String × Value)) (key : String) :
    (∃ f w', Run.exec (embedded globals key) w = (.error f, w') ∧
      (Registry.Keeps w.registry w'.registry → compiledKeys w' = compiledKeys w)) ∨
    (∃ id w', Run.exec (embedded globals key) w = (.ok id, w') ∧ key ∈ compiledKeys w ∧
      w'.templates.length = w.templates.length ∧ w.toLibrary.unpacked key = [] ∧
      ((compiledKeys w).Nodup → compiledKeys w' = (compiledKeys w).erase key ++ [key])) ∨
    ∃ id w', Run.exec (embedded globals key) w = (.ok id, w') ∧ key ∉ compiledKeys w ∧
      w'.templates.length = w.templates.length + 1 ∧ w.toLibrary.unpacked key = [⟨some key, []⟩] ∧
      (Registry.Keeps w.registry w'.registry → compiledKeys w' = (compiledKeys w ++ [key]).drop
        (if (compiledKeys w).length + 1 > env.embedLimit then 1 else 0)) := by
  have hsound := hreached.registry.sound
  have hload := exec_embedded globals key w
  have hregistered : w.registered (some key) [] = w.registry.register (some key) [] := by
    rw [Library.registered, if_pos (hreached.env_eq ▸ hreg)]
  rw [Library.unpacked]
  generalize Run.exec (embedded globals key) w = result at hload ⊢
  cases hload with
  | @kept id registry hf =>
    obtain ⟨hmem, rfl⟩ := Registry.fetch_eq_some hf
    rw [hf]
    refine .inr (.inl ⟨id, _, rfl, List.mem_map_of_mem (f := (·.1)) hmem, ?_, rfl, fun hnodup => ?_⟩)
    · exact List.length_map _
    · change (Registry.drop [key] w.registry.compiled ++ [(key, id)]).map (·.1) = _
      rw [List.map_append, Registry.map_fst_drop key w.registry.compiled hnodup]
      rfl
  | missing _ _ => exact .inl ⟨_, _, rfl, fun _ => rfl⟩
  | @refused tree f _ _ _ =>
    refine .inl ⟨f, _, rfl, fun hkeeps => ?_⟩
    rw [hregistered] at hkeeps ⊢
    exact congrArg (List.map _) (Registry.compiled_register_of_held hsound.compiled hkeeps)
  | compiled hf ht _ =>
    rw [hf, ht, hregistered]
    refine .inr (.inr ⟨_, _, rfl, (fetch_eq_none_iff w key).1 hf, rfl, rfl, fun hkeeps => ?_⟩)
    have hcompiled : (w.registry.register (some key) []).compiled = w.registry.compiled :=
      Registry.compiled_register_of_held hsound.compiled hkeeps
    have hfetch := Registry.fetch_register_eq_none hf (some key) []
    rw [compiledKeys]
    dsimp only
    -- nothing was dropped, so that the new key stands behind all that were there
    rw [Registry.keep_of_fetch_eq_none hfetch, hcompiled, List.map_drop, List.map_append,
      hreached.env_eq, compiledKeys, List.length_map]
    rfl

end Load

namespace Visit

/-- The key of the embed that a visit loads, if it loads one. -/
def loaded (w : World) (v : Visit) : Option String :=
  match v, (Run.exec v.act w).1 with
  | getTemplate name _, .ok _ =>
    if Text.startsWith name.toList Embed.keyStart.toList then some name else none
  | _, _ => none

/-- The keys of the embeds that are loaded in a run of visits, in order. -/
def loads : List Visit → World → List String
  | [], _ => []
  | v :: vs, w => (v.loaded w).toList ++ loads vs (Run.exec v.act w).2

/-- No visit of a run takes a key away that was registered. -/
def KeepsKeys : List Visit → World → Prop
  | [], _ => True
  | v :: vs, w =>
    w.registry.Keeps (Run.exec v.act w).2.registry ∧ KeepsKeys vs (Run.exec v.act w).2

instance decidableKeepsKeys : (vs : List Visit) → (w : World) → Decidable (KeepsKeys vs w)
  | [], _ => .isTrue trivial
  | v :: vs, w =>
    have := decidableKeepsKeys vs (Run.exec v.act w).2
    inferInstanceAs (Decidable (_ ∧ _))

theorem exec_discard {α : Type} (x : Run α) (w : World) :
    Run.exec (discard x) w = ((Run.exec x w).1.map fun _ => (), (Run.exec x w).2) := by
  change Run.exec (x >>= fun _ => pure ()) w = _
  rw [Run.exec_bind]
  generalize Run.exec x w = r
  obtain ⟨r, w'⟩ := r
  cases r <;> rfl

variable {env : Environment} {cs : List Compilation} {w : World}

/-- A visit that loads no embed registers at most what a source holds. -/
theorem registers_act (hreg : w.env.flavour.hasRegistry = true) {v : Visit}
    (hv : ∀ name globals, v = getTemplate name globals →
      Text.startsWith name.toList Embed.keyStart.toList = false) : Load.Registers v.act w := by
  cases v with
  | compile host code => exact Load.registers_source host code w
  | fromString code globals => exact (Load.registers_ofSource _ _ _ _ w).before fun _ _ => rfl
  | edit store => exact .inl rfl
  | getTemplate name globals =>
    rw [Load.Registers, act, exec_discard, Load.exec_template _ _ _ _ hreg,
      if_neg (by rw [hv name globals rfl]; exact Bool.false_ne_true)]
    split
    · exact .inl rfl
    · exact Load.registers_named globals name w

theorem loaded_of_not_key {v : Visit}
    (hv : ∀ name globals, v = getTemplate name globals →
      Text.startsWith name.toList Embed.keyStart.toList = false) : v.loaded w = none := by
  unfold loaded
  split
  · rename_i name globals _ _
    rw [if_neg (by rw [hv name globals rfl]; exact Bool.false_ne_true)]
  · rfl

theorem exec_getTemplate_key (hreg : w.env.flavour.hasRegistry = true) {key : String}
    (hkey : Text.startsWith key.toList Embed.keyStart.toList = true)
    (globals : List (String × Value)) :
    Run.exec (getTemplate key globals).act w =
      ((Run.exec (Load.embedded globals key) w).1.map fun _ => (),
        (Run.exec (Load.embedded globals key) w).2) := by
  rw [act, exec_discard, Load.exec_template _ _ _ _ hreg, if_pos hkey]

theorem loaded_key (hreg : w.env.flavour.hasRegistry = true) {key : String}
    (hkey : Text.startsWith key.toList Embed.keyStart.toList = true)
    (globals : List (String × Value)) :
    (getTemplate key globals).loaded w =
      match (Run.exec (Load.embedded globals key) w).1 with
      | .ok _ => some key
      | .error _ => none := by
  unfold loaded
  rw [exec_getTemplate_key hreg hkey]
  cases (Run.exec (Load.embedded globals key) w).1 with
  | ok id => exact if_pos hkey
  | error f => rfl

/-- A visit keeps the compiled embeds those that were loaded last. -/
theorem recent_act (hreached : Library.Reached env cs w.toLibrary)
    (hreg : env.flavour.hasRegistry = true) (v : Visit)
    (hkeeps : w.registry.Keeps (Run.exec v.act w).2.registry) {keys : List String}
    (hrecent : Load.compiledKeys w = recent env.embedLimit keys) :
    Load.compiledKeys (Run.exec v.act w).2 =
      recent env.embedLimit (keys ++ (v.loaded w).toList) := by
  have hreg' : w.env.flavour.hasRegistry = true := hreached.env_eq ▸ hreg
  -- only asking for a key loads an embed; all other visits at most register some
  by_cases hv : ∃ key globals, v = getTemplate key globals ∧
      Text.startsWith key.toList Embed.keyStart.toList = true
  · obtain ⟨key, globals, rfl, hkey⟩ := hv
    rw [exec_getTemplate_key hreg' hkey] at hkeeps ⊢
    rw [loaded_key hreg' hkey]
    obtain ⟨f, w', hexec, hsame⟩ | ⟨id, w', hexec, hmem, -, -, hmoved⟩ |
        ⟨id, w', hexec, hmem, -, -, hnew⟩ := Load.embedded_cases hreached hreg globals key
    all_goals rw [hexec] at hkeeps ⊢
    · rw [Option.toList_none, List.append_nil]
      exact (hsame hkeeps).trans hrecent
    · rw [hrecent] at hmem hmoved
      have hnodup : (recent env.embedLimit keys).Nodup :=
        keys.nodup_dedup.sublist (List.drop_sublist _ _)
      exact (hmoved hnodup).trans (recent_concat_of_mem hmem).symm
    · rw [hrecent] at hmem hnew
      exact (hnew hkeeps).trans (recent_concat_of_not_mem hmem).symm
  · have hother : ∀ name globals, v = getTemplate name globals →
        Text.startsWith name.toList Embed.keyStart.toList = false := fun name globals heq =>
      Bool.eq_false_iff.2 fun hkey => hv ⟨name, globals, heq, hkey⟩
    rw [loaded_of_not_key hother, Option.toList_none, List.append_nil, ← hrecent]
    obtain hsame | ⟨host, embeds, hregister⟩ := registers_act hreg' hother
    · rw [Load.compiledKeys, hsame, Load.compiledKeys]
    · rw [hregister] at hkeeps
      rw [Load.compiledKeys, hregister,
        Registry.compiled_register_of_held hreached.registry.sound.compiled hkeeps,
        Load.compiledKeys]

/-- After a run of visits in which no key is taken away, the embeds that are kept are those that were
loaded last. -/
theorem recent_run (hreached : Library.Reached env cs w.toLibrary)
    (hreg : env.flavour.hasRegistry = true) (vs : List Visit) (hkeeps : KeepsKeys vs w)
    {keys : List String} (hrecent : Load.compiledKeys w = recent env.embedLimit keys) :
    Load.compiledKeys (run vs w).2 = recent env.embedLimit (keys ++ loads vs w) := by
  induction vs generalizing w cs keys with
  | nil => rwa [loads, List.append_nil]
  | cons v vs ih =>
    obtain ⟨hv, hvs⟩ := hkeeps
    rw [loads, ← List.append_assoc]
    exact ih (compiles_act hreg v w cs hreached) hvs (recent_act hreached hreg v hv hrecent)

/-- A visit that loads an embed compiles it if and only if it is not kept. -/
theorem compiles_iff_of_loaded (hreached : Library.Reached env cs w.toLibrary)
    (hreg : env.flavour.hasRegistry = true) {key : String} {globals : List (String × Value)}
    (hloaded : (getTemplate key globals).loaded w = some key) :
    key ∉ Load.compiledKeys w ∧ (getTemplate key globals).compilations w.toLibrary = [⟨some key, []⟩] ∧
        (Run.exec (getTemplate key globals).act w).2.templates.length = w.templates.length + 1 ∨
      key ∈ Load.compiledKeys w ∧ (getTemplate key globals).compilations w.toLibrary = [] ∧
        (Run.exec (getTemplate key globals).act w).2.templates.length = w.templates.length := by
  have hreg' : w.env.flavour.hasRegistry = true := hreached.env_eq ▸ hreg
  -- only what is asked for by a key counts as a load
  have hkey : Text.startsWith key.toList Embed.keyStart.toList = true := by
    unfold loaded at hloaded
    split at hloaded
    · rename_i heq _
      cases heq
      split at hloaded
      · assumption
      · cases hloaded
    · cases hloaded
  rw [loaded_key hreg' hkey] at hloaded
  rw [exec_getTemplate_key hreg' hkey, compilations, if_pos hkey]
  obtain ⟨f, w', hexec, -⟩ | ⟨id, w', hexec, hmem, hlen, hpacked, -⟩ |
      ⟨id, w', hexec, hmem, hlen, hpacked, -⟩ := Load.embedded_cases hreached hreg globals key
  · rw [hexec] at hloaded
    cases hloaded
  · rw [hexec]
    exact .inr ⟨hmem, hpacked, hlen⟩
  · rw [hexec]
    exact .inl ⟨hmem, hpacked, hlen⟩

/-- In every reachable workspace that keeps no compiled embed, and for every run of visits in which
no key is taken away: the embeds that are kept afterwards are those that were loaded last, as many as
the limit allows, the one used longest ago first. An embed that is loaded then is compiled if and
only if it was not loaded before, or as many others as the limit allows were loaded since. -/
theorem compiled_run (p : WorkspacePlan) (hreg : p.flavour.hasRegistry = true) {ws : Workspace}
    (h : Workspace.Reachable p ws) (hempty : ws.world.registry.compiled = []) (vs : List Visit)
    (hkeeps : KeepsKeys vs ws.world) {w : World} (hw : (run vs ws.world).2 = w) :
    w.registry.compiled.map (·.1) = recent p.embedLimit (loads vs ws.world) ∧
    ∀ key globals, (getTemplate key globals).loaded w = some key →
      Forgotten p.embedLimit (loads vs ws.world) key ∧
          (getTemplate key globals).compilations w.toLibrary = [⟨some key, []⟩] ∧
          (Run.exec (getTemplate key globals).act w).2.templates.length = w.templates.length + 1 ∨
        ¬ Forgotten p.embedLimit (loads vs ws.world) key ∧
          (getTemplate key globals).compilations w.toLibrary = [] ∧
          (Run.exec (getTemplate key globals).act w).2.templates.length = w.templates.length := by
  obtain ⟨hreg', cs, hreached⟩ := h.history hreg
  obtain ⟨ws₀, hnew, henv, -⟩ := h.sourced
  have hlimit : ws.world.env.embedLimit = p.embedLimit :=
    henv ▸ Workspace.embedLimit_of_build hnew
  have hnone : Load.compiledKeys ws.world = recent ws.world.env.embedLimit [] := by
    rw [Load.compiledKeys, hempty, recent, List.dedup_nil, List.rtake_nil]
    rfl
  have hrecent := recent_run hreached hreg' vs hkeeps hnone
  have hrun := reached_run hreg' vs hreached
  rw [hw, List.nil_append, hlimit] at hrecent
  rw [hw] at hrun
  refine ⟨hrecent, fun key globals hloaded => ?_⟩
  obtain ⟨hmem, hrest⟩ | ⟨hmem, hrest⟩ := compiles_iff_of_loaded hrun hreg' hloaded
  -- what is kept in compiled form is what has not been forgotten
  · rw [hrecent] at hmem
    exact .inl ⟨(not_mem_recent_iff _ _ _).1 hmem, hrest⟩
  · rw [hrecent] at hmem
    exact .inr ⟨fun hforgotten => (not_mem_recent_iff _ _ _).2 hforgotten hmem, hrest⟩

/-- A page with two embeds is compiled, and its embeds are loaded, the first one once more. -/
def twoEmbeds : List Visit :=
  [compile (some "page")
      ("\x7b% embed 'a' %\x7d\x7b% endembed %\x7d" ++ "\x7b% embed 'b' %\x7d\x7b% endembed %\x7d"),
    getTemplate "__embed__:page#6867a141017db128085613c466e8b81e" [],
    getTemplate "__embed__:page#ca6824452e5843a60edaefb560686d6f" [],
    getTemplate "__embed__:page#6867a141017db128085613c466e8b81e" []]

/-- If one embed is kept it is the first one, so that the second would be compiled again. -/
theorem compiled_run_twoEmbeds :
    ∃ ws w, WorkspacePlan.build { flavour := .pattern, embedLimit := 1 } = .ok ws ∧
      KeepsKeys twoEmbeds ws.world ∧ (run twoEmbeds ws.world).2 = w ∧
      w.registry.compiled.map (·.1) = ["__embed__:page#6867a141017db128085613c466e8b81e"] ∧
      (getTemplate "__embed__:page#ca6824452e5843a60edaefb560686d6f" []).compilations w.toLibrary =
        [⟨some "__embed__:page#ca6824452e5843a60edaefb560686d6f", []⟩] := by
  let p : WorkspacePlan := { flavour := .pattern, embedLimit := 1 }
  let ws := p.build.toOption.get rfl
  have hruns : KeepsKeys twoEmbeds ws.world ∧
      loads twoEmbeds ws.world = ["__embed__:page#6867a141017db128085613c466e8b81e",
        "__embed__:page#ca6824452e5843a60edaefb560686d6f",
        "__embed__:page#6867a141017db128085613c466e8b81e"] ∧
      (getTemplate "__embed__:page#ca6824452e5843a60edaefb560686d6f" []).loaded
        (run twoEmbeds ws.world).2 = some "__embed__:page#ca6824452e5843a60edaefb560686d6f" := by
    decide +kernel
  obtain ⟨hkeeps, hloads, hnext⟩ := hruns
  have hws : p.build = .ok ws := rfl
  have hempty : ws.world.registry.compiled = [] := rfl
  obtain ⟨hkept, hcompiles⟩ := compiled_run p rfl (.new hws) hempty twoEmbeds hkeeps rfl
  rw [hloads] at hkept hcompiles
  have hforgotten : Forgotten 1 ["__embed__:page#6867a141017db128085613c466e8b81e",
      "__embed__:page#ca6824452e5843a60edaefb560686d6f",
      "__embed__:page#6867a141017db128085613c466e8b81e"]
      "__embed__:page#ca6824452e5843a60edaefb560686d6f" :=
    .inr ⟨[_], [_], rfl, by decide, by decide⟩
  refine ⟨ws, _, hws, hkeeps, rfl, hkept.trans (by decide), ?_⟩
  obtain ⟨-, hcompiled, -⟩ | ⟨hno, -⟩ := hcompiles _ [] hnext
  · exact hcompiled
  · exact absurd hforgotten hno

end Visit

end Stencil
