import CodeTree.Proofs.Equivalence.Core
import CodeTree.Proofs.Rebuild.Backfill
import CodeTree.Rebuild.Traced

namespace CodeTree

open Effects
open Rebuild (everywhere)

namespace Rebuild

/-- Everything that is rebuilt, from whatever state, is equivalent to what stood
there. -/
structure KeepsEquivalence {σ : Type} (r : Rebuild (StateM σ)) : Prop where
  expr : ∀ (e : Expr) s, (result (e.rebuild r) s).equiv e = true
  stmt : ∀ (stmt : Stmt) s, (result (stmt.rebuild r) s).equiv stmt = true
  exprs : ∀ es s, Tree.exprsEquiv (result (r.exprs es) s) es = true
  stmts : ∀ ss s, Tree.stmtsEquiv (result (r.stmts ss) s) ss = true

theorem keepsEquivalence_everywhere {σ : Type} {onExpr : Expr → StateM σ Expr}
    {onStmt : Stmt → StateM σ Stmt} (hexpr : ∀ e s, (result (onExpr e) s).equiv e = true)
    (hstmt : ∀ stmt s, (result (onStmt stmt) s).equiv stmt = true) :
    KeepsEquivalence (everywhere onExpr onStmt) := by
  obtain ⟨hexprCore, hstmtCore⟩ := Tree.relabel_rebuild_everywhere
    (fun e s => Expr.equiv_iff.1 (hexpr e s))
    (fun stmt s => Stmt.equiv_iff.1 (hstmt stmt s))
  refine ⟨?expr, ?stmt, ?exprs, ?stmts⟩
  case expr =>
    intro e s
    exact Expr.equiv_iff.2 (hexprCore e s)
  case stmt =>
    intro stmt s
    exact Stmt.equiv_iff.2 (hstmtCore stmt s)
  case exprs =>
    intro es s
    rw [exprs_everywhere]
    exact Tree.exprsEquiv_iff.2 (map_result_mapM (fun e _ => hexprCore e) s)
  case stmts =>
    intro ss s
    rw [stmts_everywhere]
    exact Tree.stmtsEquiv_iff.2 (map_result_mapM (fun stmt _ => hstmtCore stmt) s)

end Rebuild

theorem Expr.equiv_withSpan (e : Expr) (span : Option Span) :
    (e.withSpan span).equiv e = true := by
  rw [equiv_iff]
  cases e <;> rfl

theorem Stmt.equiv_withSpan (s : Stmt) (span : Option Span) :
    (s.withSpan span).equiv s = true := by
  rw [equiv_iff]
  cases s <;> rfl

theorem Expr.equiv_mapSpans (e : Expr) (f : Option Span → Option Span) :
    (e.mapSpans f).equiv e = true := by
  rw [equiv_iff, core, mapSpans, relabel_relabel]
  rfl

theorem Stmt.equiv_mapSpans (s : Stmt) (f : Option Span → Option Span) :
    (s.mapSpans f).equiv s = true := by
  rw [equiv_iff, core, mapSpans, relabel_relabel]
  rfl

theorem Expr.equiv_backfill (e : Expr) (span : Option Span) :
    (e.backfill span).equiv e = true := by
  cases span with
  | none => exact equiv_iff.2 rfl
  | some span =>
      rw [backfill_eq_mapSpans]
      exact e.equiv_mapSpans _

theorem Stmt.equiv_backfill (s : Stmt) (span : Option Span) :
    (s.backfill span).equiv s = true := by
  cases span with
  | none => exact equiv_iff.2 rfl
  | some span =>
      rw [backfill_eq_mapSpans]
      exact s.equiv_mapSpans _

namespace Edits

def dropAllSpans : Edits :=
  { none with dropSpans := true }

end Edits

theorem Rebuild.keepsEquivalence_dropAllSpans {σ : Type} :
    KeepsEquivalence (edit .dropAllSpans : Rebuild (StateM σ)) :=
  keepsEquivalence_everywhere (fun e _ => e.equiv_withSpan none)
    fun s _ => s.equiv_withSpan none

namespace Rebuild

/-- Counts expressions and takes the span of every other one. -/
def stripAlternate (e : Expr) : StateM Nat Expr := do
  let count ← get
  set (count + 1)
  return if count % 2 = 0 then e.withSpan none else e

def sampleSpan : Span :=
  let start : Location := { file := ⟨"a b", "sample"⟩, offset := 0, line := 0, col := 0 }
  { start, stop := { start with offset := 1, col := 1 }, details := none }

theorem result_stripAlternate_equiv (e : Expr) (count : Nat) :
    (result (stripAlternate e) count).equiv e = true := by
  have hresult : result (stripAlternate e) count =
      if count % 2 = 0 then e.withSpan none else e :=
    rfl
  rw [hresult]
  split
  · exact e.equiv_withSpan none
  · exact Expr.equiv_iff.2 rfl

/-- Hooks that return equivalent nodes make a rebuild that returns equivalent trees.
Stripping spans and backfilling them are of this sort. -/
theorem equivalence_of_equivalent_hooks :
    (∀ (σ : Type) (onExpr : Expr → StateM σ Expr) (onStmt : Stmt → StateM σ Stmt),
      (∀ e s, (result (onExpr e) s).equiv e = true) →
      (∀ stmt s, (result (onStmt stmt) s).equiv stmt = true) →
      KeepsEquivalence (everywhere onExpr onStmt)) ∧
    (∀ σ : Type, KeepsEquivalence (edit .dropAllSpans : Rebuild (StateM σ))) ∧
    ∀ span : Option Span, (∀ e : Expr, (e.backfill span).equiv e = true) ∧
      ∀ s : Stmt, (s.backfill span).equiv s = true := by
  refine ⟨?hooks, ?stripping, ?backfilling⟩
  case hooks =>
    intro σ onExpr onStmt hexpr hstmt
    exact keepsEquivalence_everywhere hexpr hstmt
  case stripping =>
    intro σ
    exact keepsEquivalence_dropAllSpans
  case backfilling =>
    intro span
    exact ⟨fun e => e.equiv_backfill span, fun s => s.equiv_backfill span⟩

/-- The operand is met before its negation and is the one that loses its span. -/
theorem equivalence_of_counting_hooks :
    (∀ e count, (result (stripAlternate e) count).equiv e = true) ∧
      (∀ stmt count, (result (pure stmt : StateM Nat Stmt) count).equiv stmt = true) ∧
      KeepsEquivalence (everywhere stripAlternate pure) ∧
      result ((Expr.not (.readVar (.builtin .this) none (some sampleSpan))
        (some sampleSpan)).rebuild (everywhere stripAlternate pure)) 0 =
          .not .this (some sampleSpan) := by
  have hpure : ∀ stmt count,
      (result (pure stmt : StateM Nat Stmt) count).equiv stmt = true :=
    fun _ _ => Stmt.equiv_iff.2 rfl
  refine ⟨result_stripAlternate_equiv, hpure, ?_, by rfl⟩
  exact equivalence_of_equivalent_hooks.1 Nat stripAlternate pure
    result_stripAlternate_equiv hpure

end Rebuild
end CodeTree
