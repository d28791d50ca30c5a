import Stencil.Tree.Parser
import Stencil.Proofs.Tree.Gather

/-!
# Trees as they are written

A parser keeps every embed in its place. So a tree that was read from a source holds no place of an
embed that was taken out. `Parser.Gives` says what all results of a parser have in common, with one
lemma for each way of putting parsers together.

## Key results

- `Parser.gives_statements`: statements that were read have no places of embeds
- `Language.keys_parseTree`: neither has a template
-/

namespace Stencil

namespace Stmt

/-- The key that stands in the place of an embed. -/
def place : Stmt → List String
  | embedded _ key => [key]
  | _ => []

/-- The keys of all places of embeds in some statements. -/
def keys (ss : List Stmt) : List String :=
  gatherAll place true ss

@[simp]
theorem keys_nil : keys [] = [] := by
  rw [keys, gatherAll]

@[simp]
theorem keys_cons (s : Stmt) (ss : List Stmt) : keys (s :: ss) = gather place true s ++ keys ss := by
  rw [keys, gatherAll, keys]

theorem keys_eq_nil_iff {ss : List Stmt} : keys ss = [] ↔ ∀ s ∈ ss, gather place true s = [] := by
  induction ss with
  | nil => simp
  | cons s ss ih => simp [ih]

theorem keys_reverse {ss : List Stmt} (h : keys ss = []) : keys ss.reverse = [] :=
  keys_eq_nil_iff.2 fun s hs => keys_eq_nil_iff.1 h s (List.mem_reverse.1 hs)

end Stmt

namespace Parser

variable {α β : Type} {Q : α → Prop} {R : β → Prop}

/-- All results of a parser have a property. -/
def Gives (p : P α) (Q : α → Prop) : Prop :=
  ∀ s a s', p.run s = .ok (a, s') → Q a

namespace Gives

theorem pure {a : α} (h : Q a) : Gives (Pure.pure a) Q := by
  intro s b s' hb
  cases hb
  exact h

theorem bind {x : P α} {f : α → P β} (hx : Gives x Q) (hf : ∀ a, Q a → Gives (f a) R) :
    Gives (x >>= f) R := by
  intro s b s' hb
  rw [StateT.run_bind] at hb
  cases hr : x.run s with
  | error e =>
    rw [hr] at hb
    exact nomatch hb
  | ok r =>
    rw [hr] at hb
    exact hf r.1 (hx s r.1 r.2 hr) r.2 b s' hb

/-- Nothing is asked of the first of two parsers. -/
theorem skip {x : P α} {f : α → P β} (hf : ∀ a, Gives (f a) R) : Gives (x >>= f) R :=
  bind (Q := fun _ => True) (fun _ _ _ _ => trivial) fun a _ => hf a

theorem failAt (line : Nat) (f : SyntaxFault) : Gives (Parser.failAt line f : P α) Q :=
  fun _ _ _ h => nomatch h

theorem fail (f : SyntaxFault) : Gives (Parser.fail f : P α) Q :=
  skip fun _ => failAt _ f

theorem ite {c : Prop} [Decidable c] {x y : P α} (hx : Gives x Q) (hy : Gives y Q) :
    Gives (if c then x else y) Q := by
  split
  · exact hx
  · exact hy

/-- Two parsers that go on in the same way. -/
theorem join {c : Prop} [Decidable c] {x y : P α} {f : α → P β} (hf : ∀ a, Gives (f a) R) :
    Gives (if c then x >>= f else y >>= f) R :=
  ite (skip hf) (skip hf)

/-- A parser that may come first. -/
theorem maybe {c : Prop} [Decidable c] {x : P α} {f : α → P β} (a : α)
    (hf : ∀ a, Gives (f a) R) : Gives (if c then x >>= f else f a) R :=
  ite (skip hf) (hf a)

/-- A step that keeps an invariant until it gives a result with a property. -/
theorem repeatUntil {step : α → P (α ⊕ β)} (hstep : ∀ a, Q a → Gives (step a) (Sum.elim Q R))
    {a : α} (ha : Q a) : Gives (Parser.repeatUntil step a) R := by
  have hiterate : ∀ fuel a, Q a → Gives (iterate step fuel a) R := by
    intro fuel
    induction fuel with
    | zero => exact fun _ _ => fail .tooDeep
    | succ fuel ih =>
      intro a ha
      refine bind (hstep a ha) fun r hr => ?_
      cases r with
      | inl a => exact ih a hr
      | inr b => exact pure hr
  exact skip fun _ => hiterate _ a ha

end Gives

/-! ## Statements -/

open Stmt

/-- A parser of a statement in which no embed was taken out. -/
abbrev Writes (p : P Stmt) : Prop :=
  Gives p fun s => s.gather place true = []

/-- A parser of statements in which no embed was taken out. -/
abbrev WritesAll (p : P (List Stmt)) : Prop :=
  Gives p fun ss => keys ss = []

theorem gather_branch {line : Nat} {test : Expr} {inner elifs orElse : List Stmt}
    (hinner : keys inner = []) (helifs : keys elifs = []) (horElse : keys orElse = []) :
    (branch line test inner elifs orElse).gather place true = [] := by
  simp only [gather, place, List.append_nil, List.append_eq_nil_iff]
  exact ⟨⟨hinner, helifs⟩, horElse⟩

theorem gives_includeTag (g : Grammar) : Writes (includeTag g) := by
  refine .skip fun t => .skip fun template => .skip fun isIgnore => ?_
  have hrest (ignoreMissing : Bool) :
      Writes (do
        return .inclusion t.line template ((← contextClause?).getD true) ignoreMissing) :=
    .skip fun _ => .pure rfl
  refine .ite (.skip fun _ => .ite ?_ (.skip hrest)) (.skip hrest)
  exact .skip fun _ => .skip fun _ => .skip hrest

section Tags

variable {g : Grammar} (hg : ∀ ends, WritesAll (g.statements ends))

include hg

theorem gives_body (ends : List String) (drop : Bool) : WritesAll (body g ends drop) := by
  unfold body closedBy
  refine .skip fun _ => .skip fun _ => ?_
  refine .bind (Q := fun ss => keys ss = []) ?_ fun stmts h => .skip fun found => ?_
  · exact .skip fun _ => .bind (hg _) fun stmts h => .skip fun _ => .pure h
  · dsimp only
    have hdrop : WritesAll (if drop = true then do discard next; return stmts else return stmts) :=
      .ite (.skip fun _ => .pure h) (.pure h)
    exact .ite (.skip fun _ => .skip fun _ => hdrop) hdrop

/-- A statement with one body that is read. -/
theorem gives_of_body {ends : List String} {make : List Stmt → Stmt}
    (hmake : ∀ inner, (make inner).gather place true = keys inner) :
    Writes (do return make (← body g ends true)) :=
  .bind (gives_body hg ends true) fun inner h => .pure ((hmake inner).trans h)

theorem gives_forTag : Writes (forTag g) := by
  refine .skip fun _ => .skip fun t => .skip fun _ => .skip fun iter => .skip fun _ => ?_
  refine .join fun test => .skip fun recursive => ?_
  refine .bind (gives_body hg _ _) fun inner hinner => .skip fun close => ?_
  refine .ite (.bind (Q := fun ss => keys ss = []) (.pure keys_nil) fun orElse horElse => .pure ?_)
    (.bind (gives_body hg _ _) fun orElse horElse => .pure ?_)
  all_goals
    simp only [gather, place, List.append_nil]
    exact List.append_eq_nil_iff.2 ⟨hinner, horElse⟩

theorem gives_branchPart : Gives (branchPart g) fun part => keys part.2.1 = [] :=
  .skip fun _ => .bind (gives_body hg _ _) fun _ h => .skip fun _ => .pure h

theorem gives_ifTag : Writes (ifTag g) := by
  refine .skip fun _ => .bind (gives_branchPart hg) fun part hpart => ?_
  obtain ⟨test, inner, close⟩ := part
  -- the branches read so far hold no places of embeds
  refine Gives.repeatUntil (Q := fun acc => keys acc.1 = []) (fun acc hacc => ?_) keys_nil
  have hreverse := keys_reverse hacc
  refine .ite ?_ (.ite ?_ (.pure (gather_branch hpart hreverse keys_nil)))
  · refine .skip fun line => .bind (gives_branchPart hg) fun part' hpart' => .pure ?_
    obtain ⟨test', inner', close'⟩ := part'
    change keys (_ :: acc.1) = []
    rw [keys_cons, gather_branch hpart' keys_nil keys_nil, hacc]
    rfl
  · exact .bind (gives_body hg _ _) fun orElse horElse =>
      .pure (gather_branch hpart hreverse horElse)

theorem gives_setTag : Writes (setTag g) := by
  refine .skip fun _ => .skip fun t => .skip fun isAssign => ?_
  refine .ite (.skip fun e => .pure rfl) (.skip fun filter => ?_)
  exact gives_of_body hg fun _ => List.append_nil _

theorem gives_withTag : Writes (withTag g) :=
  .skip fun _ => .skip fun _ => gives_of_body hg fun _ => List.append_nil _

theorem gives_autoescapeTag : Writes (autoescapeTag g) :=
  .skip fun _ => .skip fun _ => gives_of_body hg fun _ => List.append_nil _

theorem gives_blockTag : Writes (blockTag g) := by
  refine .skip fun _ => .skip fun named => .skip fun isScoped => .skip fun isRequired => ?_
  obtain ⟨name, line⟩ := named
  refine .skip fun hasHyphen => .maybe () fun _ => ?_
  refine .bind (gives_body hg _ _) fun inner h => .maybe () fun _ => .skip fun _ => .pure ?_
  exact (List.append_nil _).trans h

theorem gives_macroTag : Writes (macroTag g) :=
  .skip fun _ => .skip fun _ => .skip fun _ => gives_of_body hg fun _ => List.append_nil _

theorem gives_callTag : Writes (callTag g) := by
  refine .skip fun _ => .skip fun _ => ?_
  refine .join fun sig => .skip fun e => ?_
  split
  · exact gives_of_body hg fun _ => List.append_nil _
  · exact .failAt _ _

theorem gives_filterTag : Writes (filterTag g) :=
  .skip fun _ => .skip fun _ => .skip fun _ => gives_of_body hg fun _ => List.append_nil _

theorem gives_embedTag : Writes (embedTag g) :=
  .skip fun _ => .skip fun _ => gives_of_body hg fun _ => List.append_nil _

/-- Every tag gives a statement in which no embed was taken out. -/
theorem gives_tag {ext : Extensions} {name : String} {p : P Stmt} (h : tag? ext g name = some p) :
    Writes p := by
  unfold tag? at h
  split at h
  case h_1 => cases h; exact gives_forTag hg
  case h_2 => cases h; exact gives_ifTag hg
  case h_3 => cases h; exact gives_blockTag hg
  case h_4 => cases h; exact .skip fun _ => .skip fun _ => .pure rfl
  case h_5 => cases h; exact .skip fun _ => .skip fun _ => .pure rfl
  case h_6 => cases h; exact gives_macroTag hg
  case h_7 => cases h; exact gives_includeTag g
  case h_8 => cases h; exact .skip fun _ => .skip fun _ => .skip fun _ => .skip fun _ => .pure rfl
  case h_9 =>
    cases h
    exact .skip fun _ => .skip fun _ => .skip fun _ => .skip fun _ => .skip fun _ => .pure rfl
  case h_10 => cases h; exact gives_setTag hg
  case h_11 => cases h; exact gives_withTag hg
  case h_12 => cases h; exact gives_autoescapeTag hg
  case h_13 => cases h; exact gives_callTag hg
  case h_14 => cases h; exact gives_filterTag hg
  case h_15 =>
    split at h
    · cases h; exact .skip fun _ => .skip fun _ => .pure rfl
    · exact nomatch h
  case h_16 | h_17 =>
    split at h
    · cases h; exact .skip fun _ => .pure rfl
    · exact nomatch h
  case h_18 =>
    split at h
    · cases h; exact gives_embedTag hg
    · exact nomatch h
  case h_19 => exact nomatch h

end Tags

theorem gives_statement {ext : Extensions} {g : Grammar}
    (hg : ∀ ends, WritesAll (g.statements ends)) : Writes (statement ext g) := by
  refine .skip fun t => ?_
  obtain ⟨line, found⟩ := t
  dsimp only
  split
  · split
    · rename_i p hp
      exact .skip fun _ => .bind (gives_tag hg hp) fun s hs => .skip fun _ => .pure hs
    · exact .skip fun _ => .failAt _ _
  · exact .failAt _ _

theorem keys_flush {acc : Sequence} (h : keys acc.done = []) : keys acc.flush = [] := by
  unfold Sequence.flush
  split
  · exact h
  · rw [keys_cons, h]
    rfl

/-- Statements that were read have no places of embeds. -/
theorem gives_statements {ext : Extensions} {g : Grammar}
    (hg : ∀ ends, WritesAll (g.statements ends)) (ends : Option (List String)) :
    WritesAll (statements ext g ends) := by
  refine Gives.repeatUntil (Q := fun acc => keys acc.done = []) (fun acc hacc => ?_) keys_nil
  refine .skip fun t => ?_
  obtain ⟨line, found⟩ := t
  dsimp only
  split
  · exact .skip fun _ => .pure hacc
  · exact .skip fun _ => .skip fun _ => .skip fun _ => .pure hacc
  · refine .skip fun _ => .skip fun found => .ite (.pure (keys_reverse (keys_flush hacc))) ?_
    refine .bind (gives_statement hg) fun s hs => .skip fun _ => .pure ?_
    change keys (s :: acc.flush) = []
    rw [keys_cons, hs, keys_flush hacc]
    rfl
  · exact .pure (keys_reverse (keys_flush hacc))

theorem gives_grammar (ext : Extensions) (depth : Nat) (ends : Option (List String)) :
    WritesAll ((grammar ext depth).statements ends) := by
  induction depth generalizing ends with
  | zero => exact .fail .tooDeep
  | succ depth ih => exact gives_statements ih ends

end Parser

/-- A template that was read has no places of embeds. -/
theorem Language.keys_parseTree {lang : Language} {code : String} {t : Template}
    (h : lang.parseTree code = .ok t) : Stmt.keys t.body = [] := by
  rw [parseTree] at h
  generalize lang.delimiters.scan code = scanned at h
  obtain ⟨tokens, stop⟩ := scanned
  dsimp only at h
  cases hstart : Parser.start tokens stop with
  | error e =>
    rw [hstart] at h
    exact nomatch h
  | ok s =>
    rw [hstart] at h
    cases hrun : (Parser.statements lang.extensions
        (Parser.grammar lang.extensions (4 * tokens.length + 8)) none).run s with
    | error e =>
      simp only [hrun, bind, Except.bind] at h
      exact nomatch h
    | ok r =>
      simp only [hrun, bind, Except.bind] at h
      cases h
      exact Parser.gives_statements (Parser.gives_grammar _ _) none s r.1 r.2 hrun

end Stencil
