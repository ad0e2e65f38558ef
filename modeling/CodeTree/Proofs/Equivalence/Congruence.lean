import CodeTree.Proofs.Equivalence.Rebuild
import CodeTree.Proofs.Tree.Shells

/-!
# Rebuilding equivalent trees

Take hooks without effects that send equivalent nodes to equivalent nodes.  At each
place the two rebuilds join a node from children that are equivalent by then.
-/

namespace CodeTree

open Rebuild (stateless)

/-! ## Two rebuilds side by side -/

section SideBySide

variable {f : Relabel} {onExpr : Expr → Expr} {onStmt : Stmt → Stmt}

theorem Expr.relabel_mapChildren_eq {g : Expr → Expr} {g' : Stmt → Stmt} {a b : Expr}
    (hexprs : ∀ c, .expr c ∈ a.children → ∀ d, c.relabel f = d.relabel f →
      (g c).relabel f = (g d).relabel f)
    (hstmts : ∀ c, .stmt c ∈ a.children → ∀ d, c.relabel f = d.relabel f →
      (g' c).relabel f = (g' d).relabel f)
    (h : a.relabel f = b.relabel f) :
    (a.mapChildren g g').relabel f = (b.mapChildren g g').relabel f := by
  have hnodes : (a.relabelNode f).mapChildren (Expr.relabel f) (Stmt.relabel f) =
      (b.relabelNode f).mapChildren (Expr.relabel f) (Stmt.relabel f) := by
    rw [mapChildren_relabelNode, mapChildren_relabelNode, ← relabel_eq, ← relabel_eq, h]
  rw [relabel_mapChildren, relabel_mapChildren]
  apply mapChildren_eq_of_mapChildren_eq _ _ hnodes
  · rw [children_relabelNode]
    exact hexprs
  · rw [children_relabelNode]
    exact hstmts

theorem Stmt.relabel_mapChildren_eq {g : Expr → Expr} {g' : Stmt → Stmt} {a b : Stmt}
    (hexprs : ∀ c, .expr c ∈ a.children → ∀ d, c.relabel f = d.relabel f →
      (g c).relabel f = (g d).relabel f)
    (hstmts : ∀ c, .stmt c ∈ a.children → ∀ d, c.relabel f = d.relabel f →
      (g' c).relabel f = (g' d).relabel f)
    (h : a.relabel f = b.relabel f) :
    (a.mapChildren g g').relabel f = (b.mapChildren g g').relabel f := by
  have hnodes : (a.relabelNode f).mapChildren (Expr.relabel f) (Stmt.relabel f) =
      (b.relabelNode f).mapChildren (Expr.relabel f) (Stmt.relabel f) := by
    rw [mapChildren_relabelNode, mapChildren_relabelNode, ← relabel_eq, ← relabel_eq, h]
  rw [relabel_mapChildren, relabel_mapChildren]
  apply mapChildren_eq_of_mapChildren_eq _ _ hnodes
  · intro c hc
    exact hexprs c (mem_children_of_mem_relabelNode hc)
  · intro c hc
    exact hstmts c (mem_children_of_mem_relabelNode hc)

/-- Hooks that cannot tell two nodes apart, where a relabelling does not, make a rebuild
that cannot tell two trees apart either. -/
theorem Tree.relabel_rewrite_eq
    (hexpr : ∀ a b : Expr, a.relabel f = b.relabel f →
      (onExpr a).relabel f = (onExpr b).relabel f)
    (hstmt : ∀ a b : Stmt, a.relabel f = b.relabel f →
      (onStmt a).relabel f = (onStmt b).relabel f) :
    (∀ a b : Expr, a.relabel f = b.relabel f →
      (a.rewrite onExpr onStmt).relabel f = (b.rewrite onExpr onStmt).relabel f) ∧
    ∀ a b : Stmt, a.relabel f = b.relabel f →
      (a.rewrite onExpr onStmt).relabel f = (b.rewrite onExpr onStmt).relabel f := by
  refine Tree.induction ?expr ?stmt
  case expr =>
    intro a hexprs hstmts b h
    rw [Expr.rewrite_eq, Expr.rewrite_eq]
    apply hexpr
    exact Expr.relabel_mapChildren_eq hexprs hstmts h
  case stmt =>
    intro a hexprs hstmts b h
    rw [Stmt.rewrite_eq, Stmt.rewrite_eq]
    apply hstmt
    exact Stmt.relabel_mapChildren_eq hexprs hstmts h

end SideBySide

namespace Rebuild

/-- Equivalent trees are rebuilt as equivalent trees. -/
structure RespectsEquivalence (r : Rebuild Id) : Prop where
  expr : ∀ a b : Expr, a.equiv b = true →
    (Id.run (a.rebuild r)).equiv (Id.run (b.rebuild r)) = true
  stmt : ∀ a b : Stmt, a.equiv b = true →
    (Id.run (a.rebuild r)).equiv (Id.run (b.rebuild r)) = true
  exprs : ∀ as bs, Tree.exprsEquiv as bs = true →
    Tree.exprsEquiv (Id.run (r.exprs as)) (Id.run (r.exprs bs)) = true
  stmts : ∀ as bs, Tree.stmtsEquiv as bs = true →
    Tree.stmtsEquiv (Id.run (r.stmts as)) (Id.run (r.stmts bs)) = true

theorem respectsEquivalence_stateless {onExpr : Expr → Expr} {onStmt : Stmt → Stmt}
    (hexpr : ∀ a b : Expr, a.equiv b = true → (onExpr a).equiv (onExpr b) = true)
    (hstmt : ∀ a b : Stmt, a.equiv b = true → (onStmt a).equiv (onStmt b) = true) :
    RespectsEquivalence (stateless onExpr onStmt) := by
  simp only [Expr.equiv_iff] at hexpr
  simp only [Stmt.equiv_iff] at hstmt
  obtain ⟨hexprCore, hstmtCore⟩ := Tree.relabel_rewrite_eq hexpr hstmt
  refine ⟨?expr, ?stmt, ?exprs, ?stmts⟩
  case expr =>
    intro a b h
    exact Expr.equiv_iff.2 (hexprCore a b (Expr.equiv_iff.1 h))
  case stmt =>
    intro a b h
    exact Stmt.equiv_iff.2 (hstmtCore a b (Stmt.equiv_iff.1 h))
  case exprs =>
    intro as bs h
    have hlists : as.map (Expr.core ∘ Expr.rewrite onExpr onStmt) =
        bs.map (Expr.core ∘ Expr.rewrite onExpr onStmt) :=
      Effects.map_eq_map_of_map_eq_map (fun a _ => hexprCore a) (Tree.exprsEquiv_iff.1 h)
    rw [exprs_stateless, exprs_stateless, Tree.exprsEquiv_iff]
    simpa using hlists
  case stmts =>
    intro as bs h
    have hlists : as.map (Stmt.core ∘ Stmt.rewrite onExpr onStmt) =
        bs.map (Stmt.core ∘ Stmt.rewrite onExpr onStmt) :=
      Effects.map_eq_map_of_map_eq_map (fun a _ => hstmtCore a) (Tree.stmtsEquiv_iff.1 h)
    rw [stmts_stateless, stmts_stateless, Tree.stmtsEquiv_iff]
    simpa using hlists

end Rebuild

/-! ## Edits -/

section Edits

variable {a b : Expr} {s t : Stmt}

theorem Expr.core_renameRead (r : Renaming) (e : Expr) :
    (e.renameRead r).core = e.core.renameRead r := by
  cases e with
  | readVar name type span => cases name <;> rfl
  | _ => rfl

theorem Expr.equiv_renameRead (r : Renaming) (h : a.equiv b = true) :
    (a.renameRead r).equiv (b.renameRead r) = true := by
  rw [equiv_iff] at h ⊢
  rw [core_renameRead, core_renameRead, h]

theorem Expr.equiv_withSpan_of_equiv (span : Option Span) (h : a.equiv b = true) :
    (a.withSpan span).equiv (b.withSpan span) = true := by
  have ha := equiv_iff.1 (a.equiv_withSpan span)
  have hb := equiv_iff.1 (b.equiv_withSpan span)
  rw [equiv_iff] at h ⊢
  rw [ha, hb, h]

theorem Stmt.equiv_withSpan_of_equiv (span : Option Span) (h : s.equiv t = true) :
    (s.withSpan span).equiv (t.withSpan span) = true := by
  have hs := equiv_iff.1 (s.equiv_withSpan span)
  have ht := equiv_iff.1 (t.equiv_withSpan span)
  rw [equiv_iff] at h ⊢
  rw [hs, ht, h]

theorem Expr.equiv_negateKind (kind : ExprKind) (h : a.equiv b = true) :
    (a.negateKind kind).equiv (b.negateKind kind) = true := by
  have hkind : a.kind = b.kind := kind_eq_of_equiv h
  unfold negateKind
  by_cases hb : b.kind = kind
  · rw [if_pos (hkind.trans hb), if_pos hb]
    exact h
  · rw [if_neg (hkind ▸ hb), if_neg hb]
    exact h

/-- A comment says which kind of statement it replaces, but plain comments are all
equivalent. -/
theorem Stmt.equiv_commentOutKind (kind : StmtKind) (h : s.equiv t = true) :
    (s.commentOutKind kind).equiv (t.commentOutKind kind) = true := by
  have hkind : s.kind = t.kind := kind_eq_of_equiv h
  unfold commentOutKind
  by_cases ht : t.kind = kind
  · rw [if_pos (hkind.trans ht), if_pos ht]
    rfl
  · rw [if_neg (hkind ▸ ht), if_neg ht]
    exact h

namespace Edits

theorem equiv_onExpr (d : Edits) (h : a.equiv b = true) :
    (d.onExpr a).equiv (d.onExpr b) = true := by
  obtain ⟨rename, dropSpans, negate, commentOut⟩ := d
  have hspan : ∀ a b : Expr, a.equiv b = true →
      (if dropSpans then a.withSpan .none else a).equiv
        (if dropSpans then b.withSpan .none else b) = true := by
    intro a b h
    cases dropSpans with
    | false => exact h
    | true => exact Expr.equiv_withSpan_of_equiv .none h
  cases rename with
  | none =>
      have hkept := hspan a b h
      cases negate with
      | none => exact hkept
      | some kind => exact Expr.equiv_negateKind kind hkept
  | some r =>
      have hrenamed := hspan _ _ (Expr.equiv_renameRead r h)
      cases negate with
      | none => exact hrenamed
      | some kind => exact Expr.equiv_negateKind kind hrenamed

theorem equiv_onStmt (d : Edits) (h : s.equiv t = true) :
    (d.onStmt s).equiv (d.onStmt t) = true := by
  obtain ⟨rename, dropSpans, negate, commentOut⟩ := d
  have hspan : (if dropSpans then s.withSpan .none else s).equiv
      (if dropSpans then t.withSpan .none else t) = true := by
    cases dropSpans with
    | false => exact h
    | true => exact Stmt.equiv_withSpan_of_equiv .none h
  cases commentOut with
  | none => exact hspan
  | some kind => exact Stmt.equiv_commentOutKind kind hspan

end Edits

end Edits

namespace Rebuild

def uncast : Expr → Expr
  | .cast value _ _ => value
  | e => e

theorem core_uncast (e : Expr) : (uncast e).core = uncast e.core := by
  cases e <;> rfl

theorem equiv_uncast {a b : Expr} (h : a.equiv b = true) :
    (uncast a).equiv (uncast b) = true := by
  rw [Expr.equiv_iff] at h ⊢
  rw [core_uncast, core_uncast, h]

/-- Hooks without effects that respect equivalence make rebuilds that do.  Renaming,
dropping spans, negating the expressions of a kind and commenting out the statements of
a kind are of this sort. -/
theorem respectsEquivalence_of_hooks :
    (∀ (onExpr : Expr → Expr) (onStmt : Stmt → Stmt),
      (∀ a b, a.equiv b = true → (onExpr a).equiv (onExpr b) = true) →
      (∀ a b, a.equiv b = true → (onStmt a).equiv (onStmt b) = true) →
      RespectsEquivalence (stateless onExpr onStmt)) ∧
    (∀ r : Renaming, RespectsEquivalence (rename r)) ∧
    ∀ d : Edits, RespectsEquivalence (edit d) := by
  refine ⟨?hooks, ?renames, ?edits⟩
  case hooks =>
    intro onExpr onStmt hexpr hstmt
    exact respectsEquivalence_stateless hexpr hstmt
  case renames =>
    intro r
    exact respectsEquivalence_stateless (fun _ _ h => Expr.equiv_renameRead r h)
      fun _ _ h => h
  case edits =>
    intro d
    exact respectsEquivalence_stateless (fun _ _ h => d.equiv_onExpr h)
      fun _ _ h => d.equiv_onStmt h

/-- A class whose constructor returns `x` cast to a type. -/
def castingClass (type : Option Ty) (initial : Option Expr) (span : Option Span) : Stmt :=
  let ctor : Method :=
    { name := none
      params := []
      body := [.ret (.cast (.readVar (.named "x") none none) type span) none]
      type := none
      mods := .none }
  .declareClass "A" none [⟨"f", type, .none, initial⟩] [] ctor [] .none span

/-- The casts go, and a field that starts with `null` still passes for one that starts
with nothing. -/
theorem respectsEquivalence_uncast :
    (∀ a b, a.equiv b = true → (uncast a).equiv (uncast b) = true) ∧
      (∀ a b : Stmt, a.equiv b = true → (id a).equiv (id b) = true) ∧
      RespectsEquivalence (stateless uncast id) ∧
      (castingClass (some Ty.dynamic) (some .null) (some sampleSpan)).equiv
        (castingClass none none none) = true ∧
      (Id.run ((castingClass (some Ty.dynamic) (some .null) (some sampleSpan)).rebuild
        (stateless uncast id))).equiv
          (Id.run ((castingClass none none none).rebuild (stateless uncast id))) =
            true := by
  have hexpr : ∀ a b, a.equiv b = true → (uncast a).equiv (uncast b) = true :=
    fun _ _ => equiv_uncast
  have hstmt : ∀ a b : Stmt, a.equiv b = true → (id a).equiv (id b) = true :=
    fun _ _ h => h
  have hrespects : RespectsEquivalence (stateless uncast id) :=
    respectsEquivalence_of_hooks.1 uncast id hexpr hstmt
  have hequiv : (castingClass (some Ty.dynamic) (some .null) (some sampleSpan)).equiv
      (castingClass none none none) = true := by rfl
  exact ⟨hexpr, hstmt, hrespects, hequiv, hrespects.stmt _ _ hequiv⟩

end Rebuild
end CodeTree
