import CodeTree.Proofs.Effects
import CodeTree.Proofs.Tree.Phrases
import CodeTree.Walk

namespace CodeTree

open Effects

variable {m : Type → Type} [Monad m]

/-- The walk enters every list of expressions, statements or parameters, and every
method. -/
structure Walk.EntersLists (w : Walk m) : Prop where
  exprs : ∀ es, w.enterExprs es = pure true
  stmts : ∀ ss, w.enterStmts ss = pure true
  params : ∀ params, w.enterParams params = pure true
  method : ∀ method, w.enterMethod method = pure true

def Phrase.walk (w : Walk m) : Phrase → m Unit
  | .ty t => t.walk w
  | .expr e => e.walk w
  | .stmt s => s.walk w

variable [LawfulMonad m]

@[simp] theorem Walk.goIf_pure_true (inside : m Unit) :
    goIf (pure true) inside = inside := by
  simp [goIf]

theorem Walk.goIf_pure (enter : m Bool) : goIf enter (pure ()) = discard enter := by
  simp [goIf, discard, LawfulFunctor.map_const]

@[simp] theorem Walk.visit_pure_into (inside leave : m Unit) :
    visit (pure .into) inside leave = (do
      inside
      leave) := by
  simp [visit]

namespace Tree

variable (w : Walk m)

theorem walkTyOption_eq_forM (o : Option Ty) :
    walkTyOption w o = forM (o.toList.map .ty) (Phrase.walk w) := by
  cases o <;> simp [walkTyOption, Phrase.walk]

theorem walkOption_eq_forM (o : Option Expr) :
    walkOption w o = forM (o.toList.map .expr) (Phrase.walk w) := by
  cases o <;> simp [walkOption, Phrase.walk]

theorem walkTys_eq_forM (ts : List Ty) :
    walkTys w ts = forM (ts.map .ty) (Phrase.walk w) := by
  rw [List.forM_map]
  exact eq_forM_of_cons (by rfl) (by intros; rfl) ts

theorem walkTypeArgs_eq_forM (typeArgs : Option (List Ty)) :
    walkTypeArgs w typeArgs = forM ((typeArgs.getD []).map .ty) (Phrase.walk w) := by
  cases typeArgs with
  | none => simp [walkTypeArgs]
  | some ts => simpa [walkTypeArgs] using walkTys_eq_forM w ts

theorem walkExprs_eq_forM (es : List Expr) :
    walkExprs w es = forM (es.map .expr) (Phrase.walk w) := by
  rw [List.forM_map]
  exact eq_forM_of_cons (by rfl) (by intros; rfl) es

theorem walkStmts_eq_forM (ss : List Stmt) :
    walkStmts w ss = forM (ss.map .stmt) (Phrase.walk w) := by
  rw [List.forM_map]
  exact eq_forM_of_cons (by rfl) (by intros; rfl) ss

theorem walkEntries_eq_forM (entries : List MapEntry) :
    walkEntries w entries =
      forM (entries.map fun entry => .expr entry.value) (Phrase.walk w) := by
  rw [List.forM_map]
  refine eq_forM_of_cons (by rfl) ?_ entries
  intro entry entries
  cases entry
  rfl

theorem walkParams_eq_forM (params : List Param) :
    walkParams w params = forM (params.flatMap Param.parts) (Phrase.walk w) := by
  rw [forM_flatMap]
  refine eq_forM_of_cons (by rfl) ?_ params
  intro param params
  cases param
  rw [walkParams, walkTyOption_eq_forM]
  rfl

theorem walkFields_eq_forM (fields : List Field) :
    walkFields w fields = forM (fields.flatMap Field.parts) (Phrase.walk w) := by
  rw [forM_flatMap]
  refine eq_forM_of_cons (by rfl) ?_ fields
  intro field fields
  cases field
  simp [walkFields, walkTyOption_eq_forM, walkOption_eq_forM, Field.parts]

variable {w}

theorem walkGetters_eq_forM (hw : w.EntersLists) (getters : List Getter) :
    walkGetters w getters = forM (getters.flatMap Getter.parts) (Phrase.walk w) := by
  rw [forM_flatMap]
  refine eq_forM_of_cons (by rfl) ?_ getters
  intro getter getters
  cases getter
  simp [walkGetters, hw.stmts, walkStmts_eq_forM, walkTyOption_eq_forM, Getter.parts]

end Tree

open CodeTree.Tree

variable {w : Walk m}

theorem Method.walk_eq (hw : w.EntersLists) (method : Method) :
    method.walk w = forM method.parts (Phrase.walk w) := by
  cases method
  simp [walk, parts, hw.method, hw.params, hw.stmts, walkParams_eq_forM,
    walkStmts_eq_forM, walkTyOption_eq_forM]

theorem Tree.walkMethods_eq_forM (hw : w.EntersLists) (methods : List Method) :
    walkMethods w methods = forM (methods.flatMap Method.parts) (Phrase.walk w) := by
  rw [forM_flatMap]
  refine eq_forM_of_cons (by rfl) ?_ methods
  intro method methods
  rw [walkMethods, Method.walk_eq hw]

theorem Ty.walk_eq (w : Walk m) (t : Ty) :
    t.walk w = w.atTy t (forM t.parts (Phrase.walk w)) := by
  cases t <;> simp [walk, parts, Phrase.walk, walkTyOption_eq_forM]

omit [LawfulMonad m] in
theorem Tree.walkLastType_eq {es : List Expr}
    (h : ∀ e ∈ es, e.walkType w = forM (e.type?.toList.map .ty) (Phrase.walk w)) :
    walkLastType w es = forM ((Expr.lastType? es).toList.map .ty) (Phrase.walk w) := by
  induction es with
  | nil => rfl
  | cons e es ih =>
      cases es with
      | nil => exact h e List.mem_cons_self
      | cons e' es => exact ih fun c hc => h c (List.mem_cons_of_mem e hc)

theorem Expr.walkType_eq (w : Walk m) (e : Expr) :
    e.walkType w = forM (e.type?.toList.map .ty) (Phrase.walk w) := by
  induction e using Expr.induction with
  | expr e ih =>
      cases e with
      | comma parts span =>
          rw [walkType, type?]
          exact walkLastType_eq fun c hc => ih c (List.mem_map_of_mem hc)
      | not condition span =>
          simp [walkType, type?, Phrase.walk, Ty.walk_eq, Ty.bool, Ty.parts]
      | _ => rw [walkType, type?, walkTyOption_eq_forM]

theorem Expr.walk_eq (hw : w.EntersLists) (e : Expr) :
    e.walk w = w.atExpr e (forM e.innerParts (Phrase.walk w))
      (forM (e.type?.toList.map .ty) (Phrase.walk w)) := by
  rw [← walkType_eq]
  cases e <;>
    simp [walk, walkType, innerParts, Phrase.walk, hw.exprs, hw.stmts, hw.params,
      walkExprs_eq_forM, walkOption_eq_forM, walkTypeArgs_eq_forM, walkEntries_eq_forM,
      walkParams_eq_forM, walkStmts_eq_forM]

theorem Stmt.walk_eq (hw : w.EntersLists) (s : Stmt) :
    s.walk w = Walk.goIf (w.enterStmt s) (forM s.parts (Phrase.walk w)) := by
  cases s <;>
    simp [walk, parts, Phrase.walk, hw.stmts, hw.params, walkOption_eq_forM,
      walkTyOption_eq_forM, walkParams_eq_forM, walkStmts_eq_forM, walkFields_eq_forM,
      walkGetters_eq_forM hw, Method.walk_eq hw, walkMethods_eq_forM hw]

theorem Walk.stmts_eq_forM (hw : w.EntersLists) (ss : List Stmt) :
    w.stmts ss = forM ss fun s => (Phrase.stmt s).walk w := by
  rw [stmts, hw.stmts, goIf_pure_true, walkStmts_eq_forM, List.forM_map]

end CodeTree
