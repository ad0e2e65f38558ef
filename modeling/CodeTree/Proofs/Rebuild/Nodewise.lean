import CodeTree.Proofs.Tree.Relabel
import CodeTree.Rebuild
import CodeTree.Trace
import CodeTree.Tree.Build

/-!
# Rebuilding node by node

A rebuild that enters everything is an equation at each node: the children are rebuilt,
the node is joined from them, and the hook is called on it.
-/

namespace CodeTree

open Effects
open Rebuild (rebuildIf everywhere)

section Lawful

variable {m : Type → Type} [Monad m] [LawfulMonad m]

@[simp] theorem Rebuild.rebuildIf_pure_true {α : Type} (kept : α) (rebuilt : m α) :
    rebuildIf (pure true) kept rebuilt = rebuilt := by
  simp [rebuildIf]

/-! ## Lists are rebuilt element by element -/

namespace Tree

variable (r : Rebuild m)

theorem rebuildExprs_eq_mapM (es : List Expr) :
    rebuildExprs r es = es.mapM (Expr.rebuild r) :=
  eq_mapM_of_cons (by rfl) (by intros; rfl) es

theorem rebuildOption_eq_mapM (o : Option Expr) :
    rebuildOption r o = o.mapM (Expr.rebuild r) := by
  cases o <;> simp [rebuildOption]

theorem rebuildEntries_eq_mapM (entries : List MapEntry) :
    rebuildEntries r entries = entries.mapM (MapEntry.mapValueM (Expr.rebuild r)) := by
  refine eq_mapM_of_cons (by rfl) ?_ entries
  intro entry entries
  cases entry
  simp [rebuildEntries, MapEntry.mapValueM]

theorem rebuildStmts_eq_mapM (ss : List Stmt) :
    rebuildStmts r ss = ss.mapM (Stmt.rebuild r) :=
  eq_mapM_of_cons (by rfl) (by intros; rfl) ss

theorem rebuildFields_eq_mapM (fields : List Field) :
    rebuildFields r fields = fields.mapM (Field.mapInitializerM (Expr.rebuild r)) := by
  refine eq_mapM_of_cons (by rfl) ?_ fields
  intro field fields
  cases field
  simp [rebuildFields, Field.mapInitializerM, rebuildOption_eq_mapM]

theorem rebuildMethods_eq_mapM (methods : List Method) :
    rebuildMethods r methods = methods.mapM (Method.rebuild r) :=
  eq_mapM_of_cons (by rfl) (by intros; rfl) methods

end Tree

structure Rebuild.EntersLists (r : Rebuild m) : Prop where
  exprs (es : List Expr) : r.enterExprs es = pure true
  stmts (ss : List Stmt) : r.enterStmts ss = pure true

section Entered

variable {r : Rebuild m}

theorem Tree.rebuildGetters_eq_mapM (hr : r.EntersLists) (getters : List Getter) :
    rebuildGetters r getters = getters.mapM (Getter.mapBodyM (Stmt.rebuild r)) := by
  refine eq_mapM_of_cons (by rfl) ?_ getters
  intro getter getters
  cases getter
  simp [rebuildGetters, hr.stmts, Getter.mapBodyM, rebuildStmts_eq_mapM]

theorem Method.rebuild_eq (hr : r.EntersLists) {method : Method}
    (hmethod : r.enterMethod method = pure true) :
    method.rebuild r = method.mapBodyM (Stmt.rebuild r) := by
  cases method
  simp [rebuild, hmethod, hr.stmts, mapBodyM, Tree.rebuildStmts_eq_mapM]

theorem Expr.rebuild_eq (hr : r.EntersLists) {e : Expr} (he : r.enterExpr e = pure true) :
    e.rebuild r = e.mapChildrenM (Expr.rebuild r) (Stmt.rebuild r) >>= r.expr := by
  cases e <;>
    simp [rebuild, he, hr.exprs, hr.stmts, mapChildrenM, Tree.rebuildExprs_eq_mapM,
      Tree.rebuildOption_eq_mapM, Tree.rebuildEntries_eq_mapM, Tree.rebuildStmts_eq_mapM]

theorem Stmt.rebuild_eq (hr : r.EntersLists) {s : Stmt} (hs : r.enterStmt s = pure true) :
    s.rebuild r =
      s.mapMembersM (Expr.rebuild r) (Stmt.rebuild r) (Method.rebuild r) >>= r.stmt := by
  cases s with
  | declareClass name parent fields getters ctor methods mods span =>
      rw [rebuild, Tree.rebuildOption_eq_mapM, Tree.rebuildFields_eq_mapM,
        Tree.rebuildGetters_eq_mapM hr, Tree.rebuildMethods_eq_mapM]
      simp [hs, mapMembersM]
  | _ =>
      simp [rebuild, hs, hr.stmts, mapMembersM, mapChildrenM, Tree.rebuildOption_eq_mapM,
        Tree.rebuildStmts_eq_mapM]

theorem Rebuild.exprs_eq_mapM (hr : r.EntersLists) (es : List Expr) :
    r.exprs es = es.mapM (Expr.rebuild r) := by
  rw [exprs, hr.exprs, rebuildIf_pure_true, Tree.rebuildExprs_eq_mapM]

theorem Rebuild.stmts_eq_mapM (hr : r.EntersLists) (ss : List Stmt) :
    r.stmts ss = ss.mapM (Stmt.rebuild r) := by
  rw [stmts, hr.stmts, rebuildIf_pure_true, Tree.rebuildStmts_eq_mapM]

end Entered

section Everywhere

variable (onExpr : Expr → m Expr) (onStmt : Stmt → m Stmt)

omit [LawfulMonad m] in
theorem Rebuild.entersLists_everywhere : (everywhere onExpr onStmt).EntersLists where
  exprs _ := rfl
  stmts _ := rfl

open Rebuild (entersLists_everywhere)

theorem Expr.rebuild_everywhere (e : Expr) :
    e.rebuild (everywhere onExpr onStmt) =
      e.mapChildrenM (Expr.rebuild (everywhere onExpr onStmt))
        (Stmt.rebuild (everywhere onExpr onStmt)) >>= onExpr :=
  rebuild_eq (entersLists_everywhere onExpr onStmt) rfl

theorem Stmt.rebuild_everywhere (s : Stmt) :
    s.rebuild (everywhere onExpr onStmt) =
      s.mapChildrenM (Expr.rebuild (everywhere onExpr onStmt))
        (Stmt.rebuild (everywhere onExpr onStmt)) >>= onStmt := by
  have hlists := entersLists_everywhere onExpr onStmt
  have hmethods : Method.rebuild (everywhere onExpr onStmt) =
      Method.mapBodyM (Stmt.rebuild (everywhere onExpr onStmt)) :=
    funext fun _ => Method.rebuild_eq hlists rfl
  rw [rebuild_eq hlists rfl, hmethods, mapMembersM_mapBodyM]
  rfl

theorem Rebuild.exprs_everywhere (es : List Expr) :
    (everywhere onExpr onStmt).exprs es =
      es.mapM (Expr.rebuild (everywhere onExpr onStmt)) :=
  exprs_eq_mapM (entersLists_everywhere onExpr onStmt) es

theorem Rebuild.stmts_everywhere (ss : List Stmt) :
    (everywhere onExpr onStmt).stmts ss =
      ss.mapM (Stmt.rebuild (everywhere onExpr onStmt)) :=
  stmts_eq_mapM (entersLists_everywhere onExpr onStmt) ss

end Everywhere

/-! ## Hooks without effects -/

namespace Rebuild

/-- Hooks that are functions of the node they are called on. -/
def stateless (onExpr : Expr → Expr) (onStmt : Stmt → Stmt) : Rebuild m :=
  everywhere (fun e => pure (onExpr e)) fun s => pure (onStmt s)

end Rebuild

open Rebuild (stateless)

section Stateless

variable {onExpr f : Expr → Expr} {onStmt f' : Stmt → Stmt}

theorem Tree.rebuild_stateless (hexpr : ∀ e, f e = onExpr (e.mapChildren f f'))
    (hstmt : ∀ s, f' s = onStmt (s.mapChildren f f')) :
    (∀ e : Expr, e.rebuild (stateless onExpr onStmt : Rebuild m) = pure (f e)) ∧
      ∀ s : Stmt, s.rebuild (stateless onExpr onStmt : Rebuild m) = pure (f' s) := by
  refine Tree.induction ?expr ?stmt
  case expr =>
    intro e hexprs hstmts
    have hchildren : e.mapChildrenM (Expr.rebuild (stateless onExpr onStmt : Rebuild m))
        (Stmt.rebuild (stateless onExpr onStmt : Rebuild m)) =
          pure (e.mapChildren f f') :=
      Expr.mapChildrenM_eq_pure hexprs hstmts
    unfold stateless at hchildren ⊢
    rw [Expr.rebuild_everywhere, hchildren, pure_bind, ← hexpr]
  case stmt =>
    intro s hexprs hstmts
    have hchildren : s.mapChildrenM (Expr.rebuild (stateless onExpr onStmt : Rebuild m))
        (Stmt.rebuild (stateless onExpr onStmt : Rebuild m)) =
          pure (s.mapChildren f f') :=
      Stmt.mapChildrenM_eq_pure hexprs hstmts
    unfold stateless at hchildren ⊢
    rw [Stmt.rebuild_everywhere, hchildren, pure_bind, ← hstmt]

end Stateless

def Expr.rewrite (onExpr : Expr → Expr) (onStmt : Stmt → Stmt) (e : Expr) : Expr :=
  Id.run (e.rebuild (stateless onExpr onStmt))

def Stmt.rewrite (onExpr : Expr → Expr) (onStmt : Stmt → Stmt) (s : Stmt) : Stmt :=
  Id.run (s.rebuild (stateless onExpr onStmt))

section Rewrite

variable (onExpr : Expr → Expr) (onStmt : Stmt → Stmt)

theorem Expr.rewrite_eq (e : Expr) :
    e.rewrite onExpr onStmt =
      onExpr (e.mapChildren (Expr.rewrite onExpr onStmt)
        (Stmt.rewrite onExpr onStmt)) := by
  have hchildren : e.mapChildrenM (m := Id) (Expr.rebuild (stateless onExpr onStmt))
      (Stmt.rebuild (stateless onExpr onStmt)) =
        pure (e.mapChildren (Expr.rewrite onExpr onStmt) (Stmt.rewrite onExpr onStmt)) :=
    mapChildrenM_eq_pure (fun _ _ => rfl) fun _ _ => rfl
  unfold stateless at hchildren
  rw [rewrite, stateless, rebuild_everywhere, hchildren]
  rfl

theorem Stmt.rewrite_eq (s : Stmt) :
    s.rewrite onExpr onStmt =
      onStmt (s.mapChildren (Expr.rewrite onExpr onStmt)
        (Stmt.rewrite onExpr onStmt)) := by
  have hchildren : s.mapChildrenM (m := Id) (Expr.rebuild (stateless onExpr onStmt))
      (Stmt.rebuild (stateless onExpr onStmt)) =
        pure (s.mapChildren (Expr.rewrite onExpr onStmt) (Stmt.rewrite onExpr onStmt)) :=
    mapChildrenM_eq_pure (fun _ _ => rfl) fun _ _ => rfl
  unfold stateless at hchildren
  rw [rewrite, stateless, rebuild_everywhere, hchildren]
  rfl

theorem Tree.rebuild_eq_pure_rewrite :
    (∀ e : Expr, e.rebuild (stateless onExpr onStmt : Rebuild m) =
      pure (e.rewrite onExpr onStmt)) ∧
    ∀ s : Stmt, s.rebuild (stateless onExpr onStmt : Rebuild m) =
      pure (s.rewrite onExpr onStmt) :=
  rebuild_stateless (Expr.rewrite_eq onExpr onStmt) (Stmt.rewrite_eq onExpr onStmt)

theorem Rebuild.exprs_stateless (es : List Expr) :
    (stateless onExpr onStmt : Rebuild m).exprs es =
      pure (es.map (Expr.rewrite onExpr onStmt)) := by
  rw [stateless, exprs_everywhere]
  exact mapM_eq_pure_map fun e _ => (Tree.rebuild_eq_pure_rewrite onExpr onStmt).1 e

theorem Rebuild.stmts_stateless (ss : List Stmt) :
    (stateless onExpr onStmt : Rebuild m).stmts ss =
      pure (ss.map (Stmt.rewrite onExpr onStmt)) := by
  rw [stateless, stmts_everywhere]
  exact mapM_eq_pure_map fun s _ => (Tree.rebuild_eq_pure_rewrite onExpr onStmt).2 s

end Rewrite

namespace Rebuild

def relabel (f : Relabel) : Rebuild m :=
  everywhere (fun e => pure (e.relabelNode f)) fun s => pure (s.relabelNode f)

end Rebuild

theorem Tree.rebuild_relabel (f : Relabel) :
    (∀ e : Expr, e.rebuild (Rebuild.relabel f : Rebuild m) = pure (e.relabel f)) ∧
      ∀ s : Stmt, s.rebuild (Rebuild.relabel f : Rebuild m) = pure (s.relabel f) :=
  rebuild_stateless (Expr.relabel_eq f) (Stmt.relabel_eq f)

theorem Rebuild.exprs_relabel (f : Relabel) (es : List Expr) :
    (relabel f : Rebuild m).exprs es = pure (es.map (Expr.relabel f)) := by
  rw [relabel, exprs_everywhere]
  exact mapM_eq_pure_map fun e _ => (Tree.rebuild_relabel f).1 e

theorem Rebuild.stmts_relabel (f : Relabel) (ss : List Stmt) :
    (relabel f : Rebuild m).stmts ss = pure (ss.map (Stmt.relabel f)) := by
  rw [relabel, stmts_everywhere]
  exact mapM_eq_pure_map fun s _ => (Tree.rebuild_relabel f).2 s

end Lawful

/-! ## The identity -/

namespace Rebuild

variable {m : Type → Type} [Monad m]

theorem identity_eq_relabel : (identity : Rebuild m) = relabel {} := by
  simp [identity, relabel]

/-- The identity rebuild returns what it is given and has no effect. -/
theorem rebuild_identity [LawfulMonad m] :
    (∀ e : Expr, e.rebuild (identity : Rebuild m) = pure e) ∧
      (∀ s : Stmt, s.rebuild (identity : Rebuild m) = pure s) ∧
      (∀ es : List Expr, (identity : Rebuild m).exprs es = pure es) ∧
      ∀ ss : List Stmt, (identity : Rebuild m).stmts ss = pure ss := by
  rw [identity_eq_relabel]
  obtain ⟨hexpr, hstmt⟩ := Tree.rebuild_relabel (m := m) {}
  obtain ⟨hexpr_id, hstmt_id⟩ := Tree.relabel_id
  refine ⟨?exprTree, ?stmtTree, ?exprList, ?stmtList⟩
  case exprTree =>
    intro e
    rw [hexpr, hexpr_id]
  case stmtTree =>
    intro s
    rw [hstmt, hstmt_id]
  case exprList =>
    intro es
    rw [exprs_relabel, funext hexpr_id, List.map_id']
  case stmtList =>
    intro ss
    rw [stmts_relabel, funext hstmt_id, List.map_id']

/-- A write without a type stays one, although its value has a type to offer. -/
theorem rebuild_identity_untyped_write :
    LawfulMonad Traced ∧
      (Expr.writeVar "x" .typedNull none none).rebuild (identity : Rebuild Traced) =
        pure (.writeVar "x" .typedNull none none) ∧
      Expr.writeVar "x" .typedNull none none ≠ .mkWriteVar "x" .typedNull none none := by
  refine ⟨inferInstance, ?_, ?_⟩
  · exact (rebuild_identity (m := Traced)).1 _
  · simp [Expr.mkWriteVar, Expr.typedNull, Expr.type?]

end Rebuild

/-! ## What the hooks keep -/

section Keep

variable {σ : Type} {onExpr : Expr → StateM σ Expr} {onStmt : Stmt → StateM σ Stmt}

/-- Let what is seen of a node depend on the node over what is seen of its children.
Each hook is called on a node that stands over rewritten children.  If these look as the
old ones did, so does the node, and so does what the hook puts in its place. -/
theorem Tree.view_rebuild_everywhere {view : Expr → Expr} {view' : Stmt → Stmt}
    (hnode : ∀ a b : Expr, a.mapChildren view view' = b.mapChildren view view' →
      view a = view b)
    (hnode' : ∀ a b : Stmt, a.mapChildren view view' = b.mapChildren view view' →
      view' a = view' b)
    (hexpr : ∀ e s, view (result (onExpr e) s) = view e)
    (hstmt : ∀ stmt s, view' (result (onStmt stmt) s) = view' stmt) :
    (∀ (e : Expr) s, view (result (e.rebuild (everywhere onExpr onStmt)) s) = view e) ∧
      ∀ (stmt : Stmt) s,
        view' (result (stmt.rebuild (everywhere onExpr onStmt)) s) = view' stmt := by
  refine Tree.induction ?expr ?stmt
  case expr =>
    intro e hexprs hstmts s
    let joined := e.mapChildrenM (Expr.rebuild (everywhere onExpr onStmt))
      (Stmt.rebuild (everywhere onExpr onStmt))
    have hchildren : (result joined s).mapChildren view view' =
        e.mapChildren view view' :=
      Expr.mapChildren_result_mapChildrenM hexprs hstmts s
    calc
      view (result (e.rebuild (everywhere onExpr onStmt)) s) =
          view (result (onExpr (result joined s)) (after joined s)) := by
          rw [Expr.rebuild_everywhere, result_bind]
      _ = view (result joined s) := hexpr _ _
      _ = view e := hnode _ _ hchildren
  case stmt =>
    intro stmt hexprs hstmts s
    let joined := stmt.mapChildrenM (Expr.rebuild (everywhere onExpr onStmt))
      (Stmt.rebuild (everywhere onExpr onStmt))
    have hchildren : (result joined s).mapChildren view view' =
        stmt.mapChildren view view' :=
      Stmt.mapChildren_result_mapChildrenM hexprs hstmts s
    calc
      view' (result (stmt.rebuild (everywhere onExpr onStmt)) s) =
          view' (result (onStmt (result joined s)) (after joined s)) := by
          rw [Stmt.rebuild_everywhere, result_bind]
      _ = view' (result joined s) := hstmt _ _
      _ = view' stmt := hnode' _ _ hchildren

theorem Tree.relabel_rebuild_everywhere {f : Relabel}
    (hexpr : ∀ e s, (result (onExpr e) s).relabel f = e.relabel f)
    (hstmt : ∀ stmt s, (result (onStmt stmt) s).relabel f = stmt.relabel f) :
    (∀ (e : Expr) s,
        (result (e.rebuild (everywhere onExpr onStmt)) s).relabel f = e.relabel f) ∧
      ∀ (stmt : Stmt) s,
        (result (stmt.rebuild (everywhere onExpr onStmt)) s).relabel f =
          stmt.relabel f := by
  refine view_rebuild_everywhere ?_ ?_ hexpr hstmt
  · intro a b h
    rw [Expr.relabel_eq, h, ← Expr.relabel_eq]
  · intro a b h
    rw [Stmt.relabel_eq, h, ← Stmt.relabel_eq]

end Keep

end CodeTree
