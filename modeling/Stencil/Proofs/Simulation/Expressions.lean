import Stencil.Proofs.Simulation.Filters
import Stencil.Render.Evaluate

/-!
# Expressions

Expressions that differ in lines have the same values on both sides. The lines are seen only where a
condition has no alternative, whose value remembers where it was missing.
-/

namespace Stencil

namespace Simulation

variable {α : Type} {S : Simulation} {eng eng' : Engine}

/-! ## Operators -/

theorem agree_binary (h : S.EngRel eng eng') (op : BinaryOp) (a b : Value) :
    S.Agree (Value.binary eng op a b) (Value.binary eng' op a b) := by
  cases op with
  | add => exact agree_add a b
  | sub => exact agree_sub a b
  | mul => exact agree_mul a b
  | div => exact agree_div a b
  | floorDiv => exact agree_floorDiv a b
  | mod =>
    unfold Value.binary
    dsimp only
    split
    · exact agree_format h _ _ b
    · exact agree_modulo a b
  | pow => exact agree_pow a b
  | and => exact (agree_truth h a).bind fun _ => .pure _
  | or => exact (agree_truth h a).bind fun _ => .pure _

theorem agree_unary (h : S.EngRel eng eng') (op : UnaryOp) (v : Value) :
    S.Agree (Value.unary eng op v) (Value.unary eng' op v) := by
  cases op with
  | not => exact (agree_truth h v).bind fun _ => .pure _
  | neg => exact agree_neg v
  | pos => exact agree_pos v

theorem agree_compares (h : S.EngRel eng eng') (op : Comparison) (a b : Value) :
    S.Agree (Value.compares eng op a b) (Value.compares eng' op a b) := by
  cases op with
  | eq => exact agree_equal a b
  | ne => exact (agree_equal a b).bind fun _ => .pure _
  | isIn => exact agree_contains h a b
  | notIn => exact (agree_contains h a b).bind fun _ => .pure _
  | _ => exact agree_ordered a b _

theorem agree_hasNonFinite (fuel : Nat) (v : Value) :
    S.Agree (Value.hasNonFinite fuel v) (Value.hasNonFinite fuel v) := by
  induction fuel generalizing v with
  | zero => exact .accident _
  | succ fuel ih =>
    unfold Value.hasNonFinite
    dsimp only
    split
    · exact .pure _
    · exact (Agree.mapM ih _).bind fun _ => .pure _
    · exact (agree_listItems _).bind fun items => (Agree.mapM ih items).bind fun _ => .pure _
    · refine (Agree.mapM (fun e => ?_) _).bind fun _ => .pure _
      exact (ih e.1).bind fun _ => (ih e.2).bind fun _ => .pure _
    · exact .pure _

theorem agree_spelledOut (v : Value) : S.Agree (Value.spelledOut v) (Value.spelledOut v) :=
  (agree_hasNonFinite _ v).bind fun _ => .ite (.accident _) (.pure _)

theorem agree_spreadItems (h : S.EngRel eng eng') (v : Option Value) :
    S.Agree (Run.spreadItems eng v) (Run.spreadItems eng' v) := by
  cases v with
  | none => exact .pure _
  | some v => exact agree_itemsOf h v

theorem agree_spreadNamed (v : Option Value) (named : Named) :
    S.Agree (Run.spreadNamed v named) (Run.spreadNamed v named) := by
  unfold Run.spreadNamed
  split
  · exact .pure _
  · refine Agree.foldlM (fun acc e => ?_) _ named
    dsimp only
    split
    · exact .ite .badType (.pure _)
    · exact .badType
  · exact agree_failUndefined _
  · exact .badType

/-! ## Values known beforehand -/

theorem agree_attempt {x x' : Run α} (hx : S.Agree x x') :
    S.Agree (Constant.attempt x) (Constant.attempt x') := by
  refine hx.handle (fun f f' hf => ?_) fun _ _ => rfl
  cases hf with
  | accident a =>
    cases a with
    | tooDeep => exact .accident _
    | _ => exact .throw .notConstant
  | _ => exact .throw .notConstant

theorem agree_ifKnown {x x' : Run α} (hx : S.Agree x x') :
    S.Agree (Constant.ifKnown x) (Constant.ifKnown x') := by
  refine Agree.handle (hx.bind fun _ => .pure _) (fun f f' hf => ?_) fun _ _ => rfl
  cases hf with
  | notConstant => exact .pure _
  | syntaxError hl f => exact .throw (.syntaxError hl f)
  | notFound hm d => exact .throw (.notFound hm d)
  | noneFound hm => exact .throw (.noneFound hm)
  | undefined hm => exact .throw (.undefined hm)
  | runtime hm => exact .throw (.runtime hm)
  | filterArgument m => exact .throw (.filterArgument m)
  | noLoader => exact .throw .noLoader
  | accident a => exact .throw (.accident a)

mutual

theorem agree_value (h : S.EngRel eng eng') (esc : Escaping) {e e' : Expr} :
    Expr.Alike S.line e e' → S.Agree (Constant.value eng esc e) (Constant.value eng' esc e')
  | .name _ _ => .throw .notConstant
  | .const _ d => agree_ofDatum _ d
  | .data _ s => .ite (.throw .notConstant) (.pure _)
  | .tuple _ hes => (agree_values h esc hes).bind fun _ => .pure _
  | .list _ hes => (agree_values h esc hes).bind fun _ => agree_newList _
  | .dict _ hps => (agree_pairs h esc hps).bind fun _ => agree_ofEntries _
  | .cond _ ht hv ho => by
    refine (agree_value h esc ht).bind fun v => (agree_truth h v).bind fun _ => .ite ?_ ?_
    · exact agree_value h esc hv
    · refine (agree_optional h esc ho).bind fun o => ?_
      cases o with
      | none => exact .throw .notConstant
      | some v => exact .pure v
  | .filter _ hs name hargs => by
    refine .ite (.throw .notConstant) ((agree_arguments h esc hargs).bind fun args => ?_)
    refine (agree_optional h esc hs).bind fun o => ?_
    cases o with
    | none => exact .throw .notConstant
    | some v => exact agree_attempt (h.filter _ name v _ _)
  | .test _ hs name hargs => by
    refine .ite (.throw .notConstant) ((agree_arguments h esc hargs).bind fun args => ?_)
    exact (agree_value h esc hs).bind fun v => agree_attempt (h.test _ name v _ _)
  | .call _ _ _ => .throw .notConstant
  | .item _ hs hi => agree_attempt ((agree_value h esc hs).bind fun v =>
      (agree_value h esc hi).bind fun key => agree_getItem h v key)
  | .member _ hs name => agree_attempt ((agree_value h esc hs).bind fun v =>
      agree_getMember h v name)
  | .slice _ ha hb hc => (agree_optional h esc ha).bind fun _ =>
      (agree_optional h esc hb).bind fun _ => (agree_optional h esc hc).bind fun _ => .pure _
  | .concat _ hes => (agree_values h esc hes).bind fun vs =>
      (Agree.mapM (agree_str h) vs).bind fun _ => .pure _
  | .compare _ hs hops => (agree_value h esc hs).bind fun a =>
      agree_attempt ((agree_comparison h esc hops a).bind fun _ => .pure _)
  -- the right side is looked at only if the left one leaves it open
  | .binary _ op ha hb => by
    cases op with
    | and =>
      refine (agree_value h esc ha).bind fun v => (agree_truth h v).bind fun _ => ?_
      exact .ite (agree_value h esc hb) (.pure _)
    | or =>
      refine (agree_value h esc ha).bind fun v => (agree_truth h v).bind fun _ => ?_
      exact .ite (.pure _) (agree_value h esc hb)
    | _ =>
      exact agree_attempt ((agree_value h esc ha).bind fun v =>
        (agree_value h esc hb).bind fun u => agree_binary h _ v u)
  | .unary _ op ha => agree_attempt ((agree_value h esc ha).bind fun v => agree_unary h op v)

theorem agree_values (h : S.EngRel eng eng') (esc : Escaping) {es es' : List Expr} :
    Expr.AlikeAll S.line es es' →
      S.Agree (Constant.values eng esc es) (Constant.values eng' esc es')
  | .nil => .pure _
  | .cons he hes => (agree_value h esc he).bind fun _ => (agree_values h esc hes).bind fun _ =>
      .pure _

theorem agree_optional (h : S.EngRel eng eng') (esc : Escaping) {o o' : Option Expr} :
    Expr.AlikeOption S.line o o' →
      S.Agree (Constant.optional eng esc o) (Constant.optional eng' esc o')
  | .none => .pure _
  | .some he => (agree_value h esc he).bind fun _ => .pure _

theorem agree_pairs (h : S.EngRel eng eng') (esc : Escaping) {ps ps' : List (Expr × Expr)} :
    Expr.AlikePairs S.line ps ps' →
      S.Agree (Constant.pairs eng esc ps) (Constant.pairs eng' esc ps')
  | .nil => .pure _
  | .cons hk hv hps => (agree_value h esc hk).bind fun _ => (agree_value h esc hv).bind fun _ =>
      (agree_pairs h esc hps).bind fun _ => .pure _

theorem agree_comparison (h : S.EngRel eng eng') (esc : Escaping)
    {ops ops' : List (Comparison × Expr)} :
    Expr.AlikeOperands S.line ops ops' → (a : Value) →
      S.Agree (Constant.comparison eng esc a ops) (Constant.comparison eng' esc a ops')
  | .nil, _ => .pure _
  | .cons op he hops, a => (agree_value h esc he).bind fun b =>
      (agree_compares h op a b).bind fun _ => .ite (agree_comparison h esc hops b) (.pure _)

theorem agree_namedValues (h : S.EngRel eng eng') (esc : Escaping) {ns ns' : List (String × Expr)} :
    Expr.AlikeNamed S.line ns ns' →
      S.Agree (Constant.namedValues eng esc ns) (Constant.namedValues eng' esc ns')
  | .nil => .pure _
  | .cons name he hns => (agree_value h esc he).bind fun _ =>
      (agree_namedValues h esc hns).bind fun _ => .pure _

theorem agree_arguments (h : S.EngRel eng eng') (esc : Escaping) {args args' : Args} :
    Args.Alike S.line args args' →
      S.Agree (Constant.arguments eng esc args) (Constant.arguments eng' esc args')
  | .mk hes hns hs hr => by
    refine (agree_values h esc hes).bind fun _ => (agree_namedValues h esc hns).bind fun named => ?_
    refine (agree_attempt ?_).bind fun _ => (agree_attempt ?_).bind fun _ => .pure _
    · exact (agree_optional h esc hs).bind fun o => agree_spreadItems h o
    · exact (agree_optional h esc hr).bind fun o => agree_spreadNamed o named

end

theorem agree_written (fuel : Nat) (v : Value) :
    S.Agree (Constant.written fuel v) (Constant.written fuel v) := by
  induction fuel generalizing v with
  | zero => exact .throw .notConstant
  | succ fuel ih =>
    unfold Constant.written
    dsimp only
    split
    case h_7 => exact (Agree.mapM ih _).bind fun _ => .pure _
    case h_8 => exact (agree_listItems _).bind fun items => (Agree.mapM ih items).bind fun _ =>
      agree_newList _
    case h_9 =>
      refine (Agree.mapM (fun e => ?_) _).bind fun _ => .pure _
      exact (ih e.1).bind fun _ => (ih e.2).bind fun _ => .pure _
    case h_10 => exact .throw .notConstant
    all_goals exact .pure _

theorem agree_folded (h : S.EngRel eng eng') (esc : Escaping) {e e' : Expr}
    (he : Expr.Alike S.line e e') :
    S.Agree (Constant.folded eng esc e) (Constant.folded eng' esc e') :=
  .ite (.pure _) (agree_ifKnown ((agree_value h esc he).bind fun v => agree_written _ v))

theorem agree_printed (h : S.EngRel eng eng') (esc : Escaping) {e e' : Expr}
    (he : Expr.Alike S.line e e') :
    S.Agree (Constant.printed eng esc e) (Constant.printed eng' esc e') := by
  refine (agree_ifKnown (agree_value h esc he)).bind fun o => ?_
  cases o with
  | none => exact .pure _
  | some v => exact (Agree.ite (agree_escaped h v) (agree_str h v)).map _

theorem agree_escapingIn (h : S.EngRel eng eng') (esc : Escaping) {e e' : Expr}
    (he : Expr.Alike S.line e e') :
    S.Agree (Constant.escapingIn eng esc e) (Constant.escapingIn eng' esc e') := by
  refine (agree_ifKnown (agree_value h esc he)).bind fun o => ?_
  cases o with
  | none => exact .pure _
  | some v => exact (agree_truth h v).bind fun _ => .pure _

/-! ## Evaluation -/

theorem agree_unlessFolded (h : S.EngRel eng eng') (f : Frame) (host : Option String)
    {e e' : Expr} (he : Expr.Alike S.line e e') {x x' : Run Value} (hx : S.Agree x x') :
    S.Agree (Run.unlessFolded eng f e x) (Run.unlessFolded eng' (S.frame f host) e' x') := by
  refine (agree_folded h f.escaping he).bind fun o => ?_
  cases o with
  | none => exact hx
  | some v => exact agree_spelledOut v

theorem agree_escapes (f : Frame) (host : Option String) :
    S.Agree (Run.escapes f) (Run.escapes (S.frame f host)) := by
  exact .ite (agree_context_bind f.context fun _ _ _ => .pure _) (.pure _)

theorem agree_concatenate (h : S.EngRel eng eng') (f : Frame) (host : Option String)
    (parts : List Value) :
    S.Agree (Run.concatenate eng f parts) (Run.concatenate eng' (S.frame f host) parts) := by
  refine .ite ((Agree.mapM (agree_soft h) parts).bind fun soft => .ite ?_ ?_) ?_
  · exact (Agree.mapM (agree_escaped h) soft).bind fun _ => .pure _
  · exact (Agree.mapM (agree_str h) soft).bind fun _ => .pure _
  · exact (Agree.mapM (agree_str h) parts).bind fun _ => .pure _

theorem agree_noAlternative (f : Frame) {host : Option String} {l l' : Nat}
    (hhost : S.host f.host host) (hl : S.line l l') :
    S.Agree (Run.noAlternative f l) (Run.noAlternative (S.frame f host) l') :=
  (agree_newNote (.noAlternative hhost hl)).bind fun _ => .pure _

theorem agree_applyNamed (f : Frame) (host : Option String) (kind : String) (known : List String)
    {apply apply' : Site → String → Value → List Value → Named → Run Value}
    (hap : ∀ site name v args named, S.Agree (apply site name v args named)
      (apply' site name v args named)) (name : String) (v : Value) (args : List Value)
    (named : Named) :
    S.Agree (Run.applyNamed f kind known apply name v args named)
      (Run.applyNamed (S.frame f host) kind known apply' name v args named) :=
  .ite ((agree_siteOf f.context).bind fun site => hap site name v args named)
    (.ite (.throw (.refl _ nofun)) .badType)

mutual

theorem agree_evaluate (h : S.EngRel eng eng') (f : Frame) {host : Option String}
    (hhost : S.host f.host host) {e e' : Expr} : Expr.Alike S.line e e' →
      S.Agree (Run.evaluate eng f e) (Run.evaluate eng' (S.frame f host) e')
  | .name _ id => agree_valueOf f host id
  | .const _ d => (agree_ofDatum _ d).bind fun v => agree_spelledOut v
  | .data _ s => (agree_escapes f host).bind fun _ => .pure _
  | .tuple _ hes => (agree_evaluateAll h f hhost hes).bind fun _ => .pure _
  | .list _ hes => (agree_evaluateAll h f hhost hes).bind fun _ => agree_newList _
  | .dict _ hps => (agree_evaluatePairs h f hhost hps).bind fun _ => agree_ofEntries _
  | .cond hl ht hv ho => by
    refine agree_unlessFolded h f host (.cond hl ht hv ho) ?_
    refine (agree_evaluate h f hhost ht).bind fun v => (agree_truth h v).bind fun _ => .ite ?_ ?_
    · exact agree_evaluate h f hhost hv
    · refine (agree_evaluateOption h f hhost ho).bind fun o => ?_
      cases o with
      | none => exact agree_noAlternative f hhost hl
      | some v => exact .pure v
  | .filter hl hs name hargs => agree_unlessFolded h f host (.filter hl hs name hargs) <|
      (agree_evaluateOption h f hhost hs).bind fun _ =>
        (agree_evaluateArgs h f hhost hargs).bind fun _ =>
          agree_applyNamed f host _ _ h.filter name _ _ _
  | .test hl hs name hargs => agree_unlessFolded h f host (.test hl hs name hargs) <|
      (agree_evaluate h f hhost hs).bind fun v =>
        (agree_evaluateArgs h f hhost hargs).bind fun _ =>
          agree_applyNamed f host _ _ h.test name v _ _
  | .call hl hs hargs => agree_unlessFolded h f host (.call hl hs hargs) <|
      (agree_evaluate h f hhost hs).bind fun v =>
        (agree_evaluateArgs h f hhost hargs).bind fun _ => h.call f.context v _ _
  | .item hl hs hi => by
    refine agree_unlessFolded h f host (.item hl hs hi) ?_
    refine (agree_evaluate h f hhost hs).bind fun v => (agree_evaluate h f hhost hi).bind fun i => ?_
    split
    · exact agree_sliceOf v _ _ _
    · exact agree_getItem h v i
  | .member hl hs name => agree_unlessFolded h f host (.member hl hs name) <|
      (agree_evaluate h f hhost hs).bind fun v => agree_getMember h v name
  | .slice _ ha hb hc => (agree_evaluateOption h f hhost ha).bind fun _ =>
      (agree_evaluateOption h f hhost hb).bind fun _ =>
        (agree_evaluateOption h f hhost hc).bind fun _ => .pure _
  | .concat hl hes => agree_unlessFolded h f host (.concat hl hes) <|
      (agree_evaluateAll h f hhost hes).bind fun vs => agree_concatenate h f host vs
  | .compare hl hs hops => agree_unlessFolded h f host (.compare hl hs hops) <|
      (agree_evaluate h f hhost hs).bind fun a =>
        (agree_evaluateComparison h f hhost hops a).bind fun _ => .pure _
  | .binary hl op ha hb => by
    refine agree_unlessFolded h f host (.binary hl op ha hb) ?_
    refine (agree_evaluate h f hhost ha).bind fun a => ?_
    -- as for constants, `and` and `or` may leave the right side alone
    cases op with
    | and => exact (agree_truth h a).bind fun _ => .ite (agree_evaluate h f hhost hb) (.pure _)
    | or => exact (agree_truth h a).bind fun _ => .ite (.pure _) (agree_evaluate h f hhost hb)
    | _ => exact (agree_evaluate h f hhost hb).bind fun b => agree_binary h _ a b
  | .unary hl op ha => agree_unlessFolded h f host (.unary hl op ha) <|
      (agree_evaluate h f hhost ha).bind fun v => agree_unary h op v

theorem agree_evaluateAll (h : S.EngRel eng eng') (f : Frame) {host : Option String}
    (hhost : S.host f.host host) {es es' : List Expr} : Expr.AlikeAll S.line es es' →
      S.Agree (Run.evaluateAll eng f es) (Run.evaluateAll eng' (S.frame f host) es')
  | .nil => .pure _
  | .cons he hes => (agree_evaluate h f hhost he).bind fun _ =>
      (agree_evaluateAll h f hhost hes).bind fun _ => .pure _

theorem agree_evaluateOption (h : S.EngRel eng eng') (f : Frame) {host : Option String}
    (hhost : S.host f.host host) {o o' : Option Expr} : Expr.AlikeOption S.line o o' →
      S.Agree (Run.evaluateOption eng f o) (Run.evaluateOption eng' (S.frame f host) o')
  | .none => .pure _
  | .some he => (agree_evaluate h f hhost he).bind fun _ => .pure _

theorem agree_evaluatePairs (h : S.EngRel eng eng') (f : Frame) {host : Option String}
    (hhost : S.host f.host host) {ps ps' : List (Expr × Expr)} : Expr.AlikePairs S.line ps ps' →
      S.Agree (Run.evaluatePairs eng f ps) (Run.evaluatePairs eng' (S.frame f host) ps')
  | .nil => .pure _
  | .cons hk hv hps => (agree_evaluate h f hhost hk).bind fun _ =>
      (agree_evaluate h f hhost hv).bind fun _ =>
        (agree_evaluatePairs h f hhost hps).bind fun _ => .pure _

theorem agree_evaluateComparison (h : S.EngRel eng eng') (f : Frame) {host : Option String}
    (hhost : S.host f.host host) {ops ops' : List (Comparison × Expr)} :
    Expr.AlikeOperands S.line ops ops' → (a : Value) →
      S.Agree (Run.evaluateComparison eng f a ops)
        (Run.evaluateComparison eng' (S.frame f host) a ops')
  | .nil, _ => .pure _
  | .cons op he hops, a => (agree_evaluate h f hhost he).bind fun b =>
      (agree_compares h op a b).bind fun _ =>
        .ite (agree_evaluateComparison h f hhost hops b) (.pure _)

theorem agree_evaluateNamed (h : S.EngRel eng eng') (f : Frame) {host : Option String}
    (hhost : S.host f.host host) {ns ns' : List (String × Expr)} : Expr.AlikeNamed S.line ns ns' →
      S.Agree (Run.evaluateNamed eng f ns) (Run.evaluateNamed eng' (S.frame f host) ns')
  | .nil => .pure _
  | .cons name he hns => (agree_evaluate h f hhost he).bind fun _ =>
      (agree_evaluateNamed h f hhost hns).bind fun _ => .pure _

theorem agree_evaluateArgs (h : S.EngRel eng eng') (f : Frame) {host : Option String}
    (hhost : S.host f.host host) {args args' : Args} : Args.Alike S.line args args' →
      S.Agree (Run.evaluateArgs eng f args) (Run.evaluateArgs eng' (S.frame f host) args')
  | .mk hes hns hs hr => by
    refine (agree_evaluateAll h f hhost hes).bind fun _ => ?_
    refine (agree_evaluateOption h f hhost hs).bind fun o => (agree_spreadItems h o).bind fun _ => ?_
    refine (agree_evaluateNamed h f hhost hns).bind fun named => ?_
    refine (agree_evaluateOption h f hhost hr).bind fun o => ?_
    exact (agree_spreadNamed o named).bind fun _ => .pure _

end

end Simulation

end Stencil
