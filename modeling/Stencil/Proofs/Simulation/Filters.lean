import Stencil.Proofs.Simulation.Frames
import Stencil.Filter.Test

/-!
# Filters and tests

Filters and tests work on values, so that they do the same on both sides.
-/

namespace Stencil

namespace Simulation

variable {S : Simulation} {eng eng' : Engine}

theorem agree_bindParams (params : List Param) (args : List Value) (named : Named) :
    S.Agree (Run.bindParams params args named) (Run.bindParams params args named) := by
  fun_induction Run.bindParams params args named with
  | case1 => exact .pure _
  | case2 => exact .badType
  | case3 => exact .badType
  | case4 p ps v vs named _ ih => exact ih.bind fun _ => .pure _
  | case5 p ps named v _ ih => exact ih.bind fun _ => .pure _
  | case6 p ps named d _ _ ih => exact ih.bind fun _ => .pure _
  | case7 => exact .badType

theorem agree_atPathOf (h : S.EngRel eng eng') (path : Value) (items : List Value) :
    S.Agree (Value.atPathOf eng path items) (Value.atPathOf eng' path items) := by
  unfold Value.atPathOf
  split
  · exact .pure _
  · exact .mapM (agree_atPath h _ _) items

/-! ## Filters on text -/

theorem agree_mapText (h : S.EngRel eng eng') (f : List Char → List Char) (v : Value) :
    S.Agree (Filter.mapText eng f v) (Filter.mapText eng' f v) := by
  refine (agree_soft h v).bind fun x => ?_
  split <;> exact .pure _

theorem agree_indentation (width : Value) :
    S.Agree (Filter.indentation width) (Filter.indentation width) := by
  unfold Filter.indentation
  split
  · exact .pure _
  · split
    · exact .pure _
    · exact .badType

theorem agree_indent (h : S.EngRel eng eng') (v width first blank : Value) :
    S.Agree (Filter.indent eng v width first blank) (Filter.indent eng' v width first blank) := by
  refine (agree_indentation width).bind fun step => ?_
  split
  · exact (agree_truth h first).bind fun _ => (agree_truth h blank).bind fun _ => .pure _
  · exact agree_failUndefined _
  · exact .badType

theorem agree_trim (h : S.EngRel eng eng') (v chars : Value) :
    S.Agree (Filter.trim eng v chars) (Filter.trim eng' v chars) := by
  unfold Filter.trim
  split
  · exact agree_mapText h _ v
  · exact agree_mapText h _ v
  · exact .badType

theorem agree_replaceLimit (count : Value) :
    S.Agree (Filter.replaceLimit count) (Filter.replaceLimit count) := by
  unfold Filter.replaceLimit
  split
  · exact .pure _
  · split
    · exact .pure _
    · exact .badType

theorem agree_replace (h : S.EngRel eng eng') (site : Site) (v old new count : Value) :
    S.Agree (Filter.replace eng site v old new count)
      (Filter.replace eng' site v old new count) := by
  refine (agree_replaceLimit count).bind fun limit => .ite ?_ ?_
  · exact (agree_str h v).bind fun _ => (agree_str h old).bind fun _ => (agree_str h new).bind fun _ =>
      .pure _
  · have hsubject : S.Agree (Filter.replaceSubject eng v old new)
        (Filter.replaceSubject eng' v old new) :=
      .ite ((agree_escaped h v).bind fun _ => .pure _) (agree_soft h v)
    refine hsubject.bind fun subject => (agree_soft h old).bind fun o => ?_
    refine (agree_str h o).bind fun _ => ?_
    split
    · exact (agree_soft h new).bind fun n => (agree_escaped h n).bind fun _ => .pure _
    · exact (agree_str h new).bind fun _ => .pure _
    · exact .badType

theorem agree_join (h : S.EngRel eng eng') (site : Site) (v separator path : Value) :
    S.Agree (Filter.join eng site v separator path) (Filter.join eng' site v separator path) := by
  refine (agree_itemsOf h v).bind fun items => (agree_atPathOf h path items).bind fun items => ?_
  refine .ite ?_ ?_
  · exact (agree_escaped h separator).bind fun _ => (Agree.mapM (agree_escaped h) items).bind fun _ =>
      .pure _
  · exact (agree_str h separator).bind fun _ => (Agree.mapM (agree_str h) items).bind fun _ =>
      .pure _

/-! ## Data notation -/

theorem agree_jsonKey (v : Value) : S.Agree (Json.key v) (Json.key v) := by
  unfold Json.key
  split
  case h_6 => exact .badType
  all_goals exact .pure _

theorem agree_jsonText (indent : Option String) (fuel depth : Nat) (v : Value) :
    S.Agree (Json.text indent fuel depth v) (Json.text indent fuel depth v) := by
  induction fuel generalizing depth v with
  | zero => exact .accident _
  | succ fuel ih =>
    unfold Json.text
    cases v with
    | tuple items => exact (Agree.mapM (ih _) items).bind fun _ => .pure _
    | list cell =>
      exact (agree_listItems cell).bind fun items => (Agree.mapM (ih _) items).bind fun _ => .pure _
    | dict entries =>
      have hsort := agree_sortBy (S := S) (fun a b => agree_less a.1 b.1) entries
      have hpart (e : Value × Value) : S.Agree
          (do return (← Json.key e.1) ++ ": " ++ (← Json.text indent fuel (depth + 1) e.2))
          (do return (← Json.key e.1) ++ ": " ++ (← Json.text indent fuel (depth + 1) e.2)) :=
        (agree_jsonKey e.1).bind fun _ => (ih _ e.2).bind fun _ => .pure _
      exact hsort.bind fun sorted => (Agree.mapM hpart sorted).bind fun _ => .pure _
    | none => exact .pure _
    | bool b => exact .pure _
    | int n => exact .pure _
    | float x => exact .pure _
    | text s safe => exact .pure _
    | _ => exact .badType

theorem agree_forMarkup (indent : Option String) (v : Value) :
    S.Agree (Json.forMarkup indent v) (Json.forMarkup indent v) :=
  (agree_jsonText indent _ 0 v).bind fun _ => .pure _

/-! ## Filters on sequences and numbers -/

/-- Faults of an iterator that is made ahead of time show up when it is asked for an item. -/
theorem agree_lazily {make : Nat → IteratorCell} (hmake : ∀ it k, S.IteratorRel k (make it) (make it))
    (v : Value) : S.Agree (Filter.lazily make v) (Filter.lazily make v) := by
  refine Agree.bind (fun k => Sim.handle_of_shallow ?_ (fun l _ f f' hf => ?_) fun w => ?_)
    fun cell => .pure _
  · exact (agree_iterate v).bind (fun it => agree_newIterator (hmake it)) k
  · exact agree_newIterator (fun _ => .failing hf) l
  · intro herr
    rw [Run.exec_bind] at herr
    have hne := iterate_shallow v w
    generalize Run.exec (Run.iterate v) w = r at herr hne
    obtain ⟨_ | _, w₁⟩ := r
    · exact hne herr
    · exact nomatch herr

theorem agree_length (h : S.EngRel eng eng') (v : Value) :
    S.Agree (Filter.length eng v) (Filter.length eng' v) := by
  unfold Filter.length
  split
  · exact (agree_measure h _).bind fun _ => .pure _
  · refine (agree_sizeOf _).bind fun o => ?_
    cases o with
    | some n => exact .pure _
    | none => exact .badType

theorem agree_backwards (v : Value) : S.Agree (Filter.backwards? v) (Filter.backwards? v) := by
  unfold Filter.backwards?
  split
  case h_2 => exact (agree_listItems _).bind fun _ => .pure _
  case h_7 => exact agree_failUndefined _
  all_goals exact .pure _

theorem agree_first (h : S.EngRel eng eng') (v : Value) :
    S.Agree (Filter.first eng v) (Filter.first eng' v) := by
  refine (agree_iterate v).bind fun it => (h.next it).bind fun o => ?_
  cases o with
  | some x => exact .pure x
  | none => exact agree_undefined _

theorem agree_last (v : Value) : S.Agree (Filter.last v) (Filter.last v) := by
  refine (agree_backwards v).bind fun o => ?_
  split
  · exact .pure _
  · exact agree_undefined _
  · exact .badType

theorem agree_reverse (h : S.EngRel eng eng') (v : Value) :
    S.Agree (Filter.reverse eng v) (Filter.reverse eng' v) := by
  unfold Filter.reverse
  split
  · exact .pure _
  · refine (agree_backwards _).bind fun o => ?_
    cases o with
    | some items => exact (agree_newIterator (fun _ => .items items)).bind fun _ => .pure _
    | none =>
      refine Agree.bind (Agree.handle (agree_itemsOf h _) (fun f f' hf => ?_) fun _ _ => rfl)
        fun items => agree_newList _
      cases hf with
      | accident a => cases a <;> exact .throw (.refl _ nofun)
      | syntaxError hl f => exact .throw (.syntaxError hl f)
      | notFound hm d => exact .throw (.notFound hm d)
      | noneFound hm => exact .throw (.noneFound hm)
      | undefined hm => exact .throw (.undefined hm)
      | runtime hm => exact .throw (.runtime hm)
      | filterArgument m => exact .throw (.filterArgument m)
      | noLoader => exact .throw .noLoader
      | notConstant => exact .throw .notConstant

theorem agree_toInt (v default base : Value) :
    S.Agree (Filter.toInt v default base) (Filter.toInt v default base) := by
  unfold Filter.toInt
  split
  · split
    · split <;> exact .pure _
    · exact .pure _
  · exact agree_failUndefined _
  · split
    · exact .pure _
    · exact .ite (.pure _) (.ite (.accident _) (.pure _))
    · exact .pure _

theorem agree_floatOf (v default : Value) :
    S.Agree (Filter.toFloat v default) (Filter.toFloat v default) := by
  unfold Filter.toFloat
  split
  · exact .pure _
  · exact agree_failUndefined _
  · split
    · exact (agree_toFloat _).bind fun _ => .pure _
    · exact .pure _
    · exact .pure _

theorem agree_sortKey (h : S.EngRel eng eng') (caseSensitive : Bool) (path : List Value) (v : Value) :
    S.Agree (Filter.sortKey eng caseSensitive path v) (Filter.sortKey eng' caseSensitive path v) :=
  (agree_atPath h _ path v).bind fun _ => .pure _

theorem agree_sortByKeys (keyed : List (Value × Value)) (backwards : Bool) :
    S.Agree (Filter.sortByKeys keyed backwards) (Filter.sortByKeys keyed backwards) :=
  (agree_sortBy (fun _ _ => .ite (agree_less _ _) (agree_less _ _)) keyed).bind fun _ => .pure _

theorem agree_sort (h : S.EngRel eng eng') (v backwards caseSensitive path : Value) :
    S.Agree (Filter.sort eng v backwards caseSensitive path)
      (Filter.sort eng' v backwards caseSensitive path) := by
  refine (agree_itemsOf h v).bind fun items => (agree_truth h caseSensitive).bind fun c => ?_
  refine (Agree.mapM (fun x => ?_) items).bind fun keyed => ?_
  · exact (Agree.mapM (fun p => agree_sortKey h c p x) _).bind fun _ => .pure _
  · exact (agree_truth h backwards).bind fun _ => (agree_sortByKeys keyed _).bind fun _ =>
      agree_newList _

theorem agree_dictsort (h : S.EngRel eng eng') (v caseSensitive sortedBy backwards : Value) :
    S.Agree (Filter.dictsort eng v caseSensitive sortedBy backwards)
      (Filter.dictsort eng' v caseSensitive sortedBy backwards) := by
  have hby : S.Agree (Filter.sortsByValue sortedBy) (Filter.sortsByValue sortedBy) := by
    unfold Filter.sortsByValue
    split
    · exact .pure _
    · exact .pure _
    · exact .throw (.refl _ nofun)
  refine hby.bind fun byValue => ?_
  split
  · exact (agree_truth h caseSensitive).bind fun _ => (agree_truth h backwards).bind fun _ =>
      (agree_sortByKeys _ _).bind fun _ => agree_newList _
  · exact agree_failUndefined _
  · exact agree_failUndefined _
  · exact .accident _

theorem agree_better (largest : Bool) (best other : Value × Value) :
    S.Agree (Filter.better largest best other) (Filter.better largest best other) := by
  cases largest <;> exact (agree_less _ _).bind fun _ => .pure _

theorem agree_extreme (h : S.EngRel eng eng') (largest : Bool) (v caseSensitive path : Value) :
    S.Agree (Filter.extreme eng largest v caseSensitive path)
      (Filter.extreme eng' largest v caseSensitive path) := by
  refine (agree_truth h caseSensitive).bind fun c => (agree_itemsOf h v).bind fun items => ?_
  cases items with
  | nil => exact agree_undefined _
  | cons x xs =>
    refine (agree_sortKey h c _ x).bind fun key => ?_
    refine (Agree.foldlM (fun best y => ?_) xs _).bind fun _ => .pure _
    exact (agree_sortKey h c _ y).bind fun _ => agree_better largest best _

theorem agree_sum (h : S.EngRel eng eng') (v path start : Value) :
    S.Agree (Filter.sum eng v path start) (Filter.sum eng' v path start) := by
  unfold Filter.sum
  split
  · exact .badType
  · exact (agree_itemsOf h v).bind fun items => (agree_atPathOf h path items).bind fun items =>
      .foldlM agree_add items _

theorem agree_items (v : Value) : S.Agree (Filter.items v) (Filter.items v) := by
  refine Agree.bind (agree_newIterator fun _ => ?_) fun _ => .pure _
  split
  · exact .items _
  · exact .items []
  · exact .failing (.accident _)

theorem howRel_mappingOf (args : List Value) (named : Named) :
    S.HowRel (Filter.mappingOf args named) (Filter.mappingOf args named) := by
  unfold Filter.mappingOf
  split
  · dsimp only
    split
    · exact .ok _
    · exact .error (.filterArgument _)
  · exact .error (.filterArgument _)
  · exact .ok _

theorem howRel_selectionOf (keep byAttribute : Bool) (args : List Value) (named : Named) :
    S.HowRel (Filter.selectionOf keep byAttribute args named)
      (Filter.selectionOf keep byAttribute args named) := by
  unfold Filter.selectionOf
  dsimp only
  split
  · split
    · exact .error (.filterArgument _)
    · exact .ok _
  · exact .ok _

/-! ## All filters -/

/-- A filter that takes no arguments. -/
theorem agree_alone {α : Type} (args : List Value) (named : Named) {x x' : Run α}
    (h : S.Agree x x') :
    S.Agree (do discard (Run.bindParams [] args named); x)
      (do discard (Run.bindParams [] args named); x') :=
  (agree_bindParams [] args named).discard.bind fun _ => h

theorem agree_applyFilter (h : S.EngRel eng eng') (site : Site) (name : String) (v : Value)
    (args : List Value) (named : Named) :
    S.Agree (Filter.apply eng site name v args named) (Filter.apply eng' site name v args named) := by
  unfold Filter.apply
  dsimp only
  split
  -- filters with parameters bind them first; what cannot be bound to them is refused alike
  case h_1 => exact agree_alone args named (agree_absolute v)
  case h_2 | h_18 | h_37 => exact agree_alone args named (agree_mapText h _ v)
  case h_3 | h_4 => exact agree_alone args named (agree_length h v)
  case h_5 | h_6 =>
    refine (agree_bindParams _ args named).bind fun vs => ?_
    split
    · refine .ite (.pure _) ((agree_truth h _).bind fun b => .ite ?_ (.pure _))
      exact (agree_truth h v).bind fun _ => .pure _
    · exact .badType
  case h_7 =>
    refine (agree_bindParams _ args named).bind fun vs => ?_
    split
    · exact agree_dictsort h v _ _ _
    · exact .badType
  case h_8 | h_9 => exact agree_alone args named ((agree_escaped h v).bind fun _ => .pure _)
  case h_10 => exact agree_alone args named (agree_first h v)
  case h_11 =>
    refine (agree_bindParams _ args named).bind fun vs => ?_
    split
    · exact agree_floatOf v _
    · exact .badType
  case h_12 =>
    refine (agree_bindParams _ args named).bind fun vs => ?_
    split
    · exact agree_indent h v _ _ _
    · exact .badType
  case h_13 =>
    refine (agree_bindParams _ args named).bind fun vs => ?_
    split
    · exact agree_toInt v _ _
    · exact .badType
  case h_14 => exact agree_alone args named (agree_items v)
  case h_15 =>
    refine (agree_bindParams _ args named).bind fun vs => ?_
    split
    · exact agree_join h site v _ _
    · exact .badType
  case h_16 => exact agree_alone args named (agree_last v)
  case h_17 => exact agree_alone args named ((agree_itemsOf h v).bind fun _ => agree_newList _)
  case h_19 =>
    split
    · exact .throw .notConstant
    · exact (agree_newIterator (fun _ => .mapNew v (howRel_mappingOf args named) _)).bind fun _ => .pure _
  case h_20 | h_21 =>
    refine (agree_bindParams _ args named).bind fun vs => ?_
    split
    · exact agree_extreme h _ v _ _
    · exact .badType
  -- the lazy filters make an iterator, which both sides advance in the same way
  case h_22 | h_23 | h_27 | h_28 =>
    split
    · exact .throw .notConstant
    · refine (agree_newIterator (fun _ => .selectNew v ?_ _)).bind fun _ => .pure _
      exact howRel_selectionOf _ _ args named
  case h_24 =>
    refine (agree_bindParams _ args named).bind fun vs => ?_
    split
    · exact agree_replace h site v _ _ _
    · exact .badType
  case h_25 => exact agree_alone args named (agree_reverse h v)
  case h_26 | h_31 | h_33 | h_38 =>
    exact agree_alone args named ((agree_str h v).bind fun _ => .pure _)
  case h_29 =>
    refine (agree_bindParams _ args named).bind fun vs => ?_
    split
    · exact agree_sort h v _ _ _
    · exact .badType
  case h_30 => exact agree_alone args named (agree_soft h v)
  case h_32 =>
    refine (agree_bindParams _ args named).bind fun vs => ?_
    split
    · exact agree_sum h v _ _
    · exact .badType
  case h_34 =>
    refine (agree_bindParams _ args named).bind fun vs => ?_
    split
    · exact agree_forMarkup none v
    · exact agree_forMarkup _ v
    · split
      · exact agree_forMarkup _ v
      · exact .badType
    · exact .badType
  case h_35 =>
    refine (agree_bindParams _ args named).bind fun vs => ?_
    split
    · exact agree_trim h v _
    · exact .badType
  case h_36 =>
    refine (agree_bindParams _ args named).bind fun vs => ?_
    split
    · exact (agree_truth h _).bind fun _ => agree_lazily (fun it _ => .unique it _ _ []) v
    · exact .badType
  case h_39 => exact .ite (.accident _) (.throw (.refl _ nofun))

/-! ## Tests -/

theorem agree_isIterable (v : Value) : S.Agree (Test.isIterable v) (Test.isIterable v) := by
  unfold Test.isIterable
  split
  case h_10 => exact agree_failUndefined _
  all_goals exact .pure _

theorem agree_contains (h : S.EngRel eng eng') (v container : Value) :
    S.Agree (Test.contains eng v container) (Test.contains eng' v container) := by
  unfold Test.contains
  split
  · split
    · exact .pure _
    · exact .badType
  · exact (agree_listItems _).bind fun _ => agree_member v _
  · exact agree_member v _
  · exact agree_member v _
  · exact (agree_lookup v _).bind fun _ => .pure _
  · exact agree_member v _
  · exact agree_failUndefined _
  · exact .pure _
  · exact (agree_nextKept h _ (fun x => agree_equal x v) _).bind fun _ => .pure _
  · exact (agree_newIterator (fun _ => .loopItems _)).bind fun it =>
      (agree_nextKept h it (fun x => agree_equal x v) _).bind fun _ => .pure _
  · exact .badType

theorem agree_ordered (a b : Value) (takes : Ordering → Bool) :
    S.Agree (Test.ordered a b takes) (Test.ordered a b takes) :=
  (agree_order a b).bind fun _ => .pure _

/-- A comparison with the one positional argument. -/
theorem agree_compared {f f' : Value → Run Bool} (args : List Value) (named : Named)
    (hf : ∀ w, S.Agree (f w) (f' w)) : S.Agree
      (match args, named with
        | [w], [] => do return .bool (← f w)
        | _, _ => Run.badType : Run Value)
      (match args, named with
        | [w], [] => do return .bool (← f' w)
        | _, _ => Run.badType) := by
  split
  · exact (hf _).bind fun _ => .pure _
  · exact .badType

theorem agree_against (args : List Value) (named : Named) {f f' : Value → Run Bool}
    (param : String) (hf : ∀ w, S.Agree (f w) (f' w)) :
    S.Agree
      (do
        match ← Run.bindParams [⟨param, none⟩] args named with
        | [w] => return .bool (← f w)
        | _ => Run.badType : Run Value)
      (do
        match ← Run.bindParams [⟨param, none⟩] args named with
        | [w] => return .bool (← f' w)
        | _ => Run.badType) := by
  refine (agree_bindParams _ args named).bind fun vs => ?_
  split
  · exact (hf _).bind fun _ => .pure _
  · exact .badType

theorem agree_applyTest (h : S.EngRel eng eng') (site : Site) (name : String) (v : Value)
    (args : List Value) (named : Named) :
    S.Agree (Test.apply eng site name v args named) (Test.apply eng' site name v args named) := by
  have halone {x x' : Run Bool} (hx : S.Agree x x') : S.Agree
      (do discard (Run.bindParams [] args named); return .bool (← x) : Run Value)
      (do discard (Run.bindParams [] args named); return .bool (← x')) :=
    agree_alone args named (hx.bind fun _ => .pure _)
  unfold Test.apply
  dsimp only
  split
  case h_1 | h_2 => exact halone ((agree_modulo v _).bind fun _ => agree_equal _ _)
  case h_3 => exact agree_against args named _ fun w => (agree_modulo v w).bind fun _ => agree_equal _ _
  case h_6 | h_7 =>
    refine halone ((agree_checkKey _ v).bind fun _ => ?_)
    split <;> exact .pure _
  case h_14 | h_15 => exact halone ((agree_str h v).bind fun _ => .pure _)
  case h_20 => exact halone (agree_isIterable v)
  case h_23 => exact agree_against args named _ fun w => agree_equal v w
  case h_24 => exact agree_against args named _ fun w => agree_contains h v w
  case h_25 | h_26 | h_27 => exact agree_compared args named fun w => agree_equal v w
  case h_28 | h_29 => exact agree_compared args named fun w => (agree_equal v w).bind fun _ => .pure _
  case h_40 => exact .throw (.refl _ nofun)
  case h_30 | h_31 | h_32 | h_33 | h_34 | h_35 | h_36 | h_37 | h_38 | h_39 =>
    exact agree_compared args named fun w => agree_ordered v w _
  all_goals exact halone (.pure _)

end Simulation

end Stencil
