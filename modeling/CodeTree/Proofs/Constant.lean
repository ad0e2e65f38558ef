import CodeTree.Proofs.Equivalence.Rebuild
import CodeTree.Proofs.Tree.Spans
import CodeTree.Proofs.Walk.Agreement
import CodeTree.Tree.Constant

/-!
# Constant expressions

Outside types a constant is made of literals, array literals and map literals only.  No
relabelling changes this, so equivalent expressions are constant together.
-/

namespace CodeTree

open Effects
open Rebuild (everywhere stripAlternate)

theorem Expr.isConstant_relabel (f : Relabel) (e : Expr) :
    (e.relabel f).isConstant = e.isConstant := by
  induction e using Expr.induction with
  | expr e ih =>
      cases e with
      | array entries type span =>
          have hentries : ∀ c ∈ entries, (c.relabel f).isConstant = c.isConstant :=
            fun c hc => ih c (List.mem_map_of_mem hc)
          rw [relabel, isConstant, isConstant, Tree.relabelExprs_eq_map, Bool.eq_iff_iff,
            Tree.allConstant_iff, Tree.allConstant_iff, List.forall_mem_map]
          exact forall₂_congr fun c hc => by rw [hentries c hc]
      | map entries type span =>
          have hvalues : ∀ entry ∈ entries,
              (entry.relabel f).value.isConstant = entry.value.isConstant := by
            intro entry hentry
            rw [MapEntry.value_relabel]
            exact ih entry.value (List.mem_map_of_mem hentry)
          rw [relabel, isConstant, isConstant, Tree.relabelEntries_eq_map,
            Bool.eq_iff_iff, Tree.entriesConstant_iff, Tree.entriesConstant_iff,
            List.forall_mem_map]
          exact forall₂_congr fun entry hentry => by rw [hvalues entry hentry]
      | _ => rfl

/-! ## The expressions in a constant -/

theorem Expr.isConstant_iff_children {e : Expr} (h : e.IsLiteral) :
    e.isConstant = true ↔ ∀ c, .expr c ∈ e.children → c.isConstant = true := by
  cases e with
  | literal value type span => simp [isConstant, children]
  | array entries type span => simp [isConstant, Tree.allConstant_iff, children]
  | map entries type span => simp [isConstant, Tree.entriesConstant_iff, children]
  | _ => simp [IsLiteral, kind] at h

theorem Expr.child_of_isLiteral {e : Expr} {n : Node} (h : e.IsLiteral)
    (hn : n ∈ e.children) : ∃ c, n = .expr c := by
  cases e with
  | literal value type span => cases hn
  | array entries type span =>
      obtain ⟨c, -, hc⟩ := List.mem_map.1 hn
      exact ⟨c, hc.symm⟩
  | map entries type span =>
      obtain ⟨entry, -, hentry⟩ := List.mem_map.1 hn
      exact ⟨entry.value, hentry.symm⟩
  | _ => simp [IsLiteral, kind] at h

theorem Expr.isConstant_iff_forall_isLiteral (e : Expr) :
    e.isConstant = true ↔ ∀ c, .expr c ∈ (Node.expr e).postorder → c.IsLiteral := by
  induction e using Expr.induction with
  | expr e ih =>
      constructor
      · intro hconstant c hc
        have hliteral : e.IsLiteral := isLiteral_of_isConstant hconstant
        rcases Node.mem_postorder_iff.1 hc with hself | ⟨n, hn, hbelow⟩
        · rw [Node.expr.inj hself]
          exact hliteral
        · obtain ⟨d, rfl⟩ := child_of_isLiteral hliteral hn
          have hd : d.isConstant = true :=
            (isConstant_iff_children hliteral).1 hconstant d hn
          exact (ih d hn).1 hd c hbelow
      · intro hall
        have hliteral : e.IsLiteral := hall e (Node.mem_postorder_iff.2 (.inl rfl))
        refine (isConstant_iff_children hliteral).2 ?_
        intro d hd
        refine (ih d hd).2 ?_
        intro c hc
        exact hall c (Node.mem_postorder_iff.2 (.inr ⟨.expr d, hd, hc⟩))

/-! ## What a rebuild meets -/

/-- The kinds that do more than spell out a value: reads, writes, calls, references to
other modules and functions. -/
def ExprKind.acting : List ExprKind :=
  [.readVar, .readProp, .readKey, .writeVar, .writeProp, .writeKey, .call, .callMethod,
    .instantiate, .external, .function]

theorem Expr.IsLiteral.kind_not_mem_acting {e : Expr} (h : e.IsLiteral) :
    e.kind ∉ ExprKind.acting := by
  rcases h with hkind | hkind | hkind <;> rw [hkind] <;> decide

namespace Rebuild

variable {σ : Type} {onExpr : Expr → StateM σ Expr} {onStmt : Stmt → StateM σ Stmt}

/-- Constants are the expressions in which a rebuild that keeps every node meets
literals, array literals and map literals only. -/
theorem isConstant_iff_meets_literals (hexpr : ∀ e s, result (onExpr e) s = e)
    (hstmt : ∀ stmt s, result (onStmt stmt) s = stmt) (e : Expr) (s : σ) :
    let met := exprArguments (after (e.rebuild (recorded onExpr onStmt)) (s, [])).2
    met = (Node.expr e).postorder.filterMap Node.expr? ∧
      (e.isConstant = true ↔ ∀ c ∈ met, c.IsLiteral) ∧
      (e.isConstant = true → ∀ c ∈ met, c.kind ∉ ExprKind.acting) := by
  intro met
  have hmet : met = (Node.expr e).postorder.filterMap Node.expr? := by
    have hnodes := exprArguments_rebuild hexpr hstmt [.expr e] s
    rw [List.flatMap_singleton] at hnodes
    exact hnodes
  have hmem : ∀ c, c ∈ met ↔ .expr c ∈ (Node.expr e).postorder := by
    intro c
    rw [hmet]
    exact Node.mem_filterMap_expr?_iff
  have hiff : e.isConstant = true ↔ ∀ c ∈ met, c.IsLiteral := by
    rw [e.isConstant_iff_forall_isLiteral]
    exact forall_congr' fun c => by rw [hmem]
  refine ⟨hmet, hiff, ?_⟩
  intro hconstant c hc
  exact (hiff.1 hconstant c hc).kind_not_mem_acting

/-- The map holds a function that returns a constant.  The function is met after the
literal in its body, and the two arrays around them do not make up for it. -/
theorem isConstant_iff_meets_literals_nested :
    let null : Expr := .null
    let function : Expr := .function [] [.ret (.arrayOf [null]) none] none none none
    let constant : Expr := .map [⟨"k", .arrayOf [null, .arrayOf []], true⟩] none none
    let other : Expr := .map [⟨"k", .arrayOf [null, function], true⟩] none none
    let met (e : Expr) :=
      exprArguments (after (e.rebuild (recorded countExpr pure)) (0, [])).2
    (∀ e s, result (countExpr e) s = e) ∧
      (∀ stmt s, result (pure stmt : StateM Nat Stmt) s = stmt) ∧
      (constant.isConstant = true ∧ ∀ c ∈ met constant, c.IsLiteral) ∧
      (other.isConstant = false ∧ ¬ ∀ c ∈ met other, c.IsLiteral) ∧
      met other = [null, null, .arrayOf [null], function, .arrayOf [null, function],
        other] := by
  intro null function constant other met
  have hkeeps : ∀ e s, result (countExpr e) s = e := fun _ _ => rfl
  have hkeeps' : ∀ stmt s, result (pure stmt : StateM Nat Stmt) s = stmt := fun _ _ => rfl
  have hconstant := (isConstant_iff_meets_literals hkeeps hkeeps' constant 0).2.1
  have hother := (isConstant_iff_meets_literals hkeeps hkeeps' other 0).2.1
  have hfails : other.isConstant = false := by rfl
  refine ⟨hkeeps, hkeeps', ⟨rfl, hconstant.1 rfl⟩, ⟨hfails, ?_⟩, by rfl⟩
  intro hall
  cases hfails.symm.trans (hother.2 hall)

end Rebuild

/-! ## Constants up to equivalence -/

theorem Expr.isConstant_core (e : Expr) : e.core.isConstant = e.isConstant :=
  e.isConstant_relabel .core

theorem Expr.isConstant_eq_of_equiv {a b : Expr} (h : a.equiv b = true) :
    a.isConstant = b.isConstant := by
  have hcore : a.core = b.core := equiv_iff.1 h
  rw [← isConstant_core, hcore, isConstant_core]

theorem Expr.isConstant_backfill (span : Option Span) (e : Expr) :
    (e.backfill span).isConstant = e.isConstant :=
  isConstant_eq_of_equiv (e.equiv_backfill span)

/-- Of two equivalent expressions both are constant or neither is.  Rebuilding with
hooks that return equivalent nodes and backfilling spans change nothing about it. -/
theorem Tree.constants_respect_equivalence :
    (∀ a b : Expr, a.equiv b = true → a.isConstant = b.isConstant) ∧
    (∀ (σ : Type) (onExpr : Expr → StateM σ Expr) (onStmt : Stmt → StateM σ Stmt),
      (∀ e s, (result (onExpr e) s).equiv e = true) →
      (∀ stmt s, (result (onStmt stmt) s).equiv stmt = true) →
      ∀ (e : Expr) s, (result (e.rebuild (everywhere onExpr onStmt)) s).isConstant =
        e.isConstant) ∧
    ∀ (e : Expr) (span : Option Span), (e.backfill span).isConstant = e.isConstant := by
  refine ⟨?equivalent, ?rebuilt, ?backfilled⟩
  case equivalent =>
    intro a b h
    exact Expr.isConstant_eq_of_equiv h
  case rebuilt =>
    intro σ onExpr onStmt hexpr hstmt e s
    have hkeeps := Rebuild.keepsEquivalence_everywhere hexpr hstmt
    exact Expr.isConstant_eq_of_equiv (hkeeps.expr e s)
  case backfilled =>
    intro e span
    exact e.isConstant_backfill span

/-- Two maps of arrays with different quotes, types, NaNs and zeros, and a rebuild that
takes some of their spans.  A read in the place of the zero is not constant in
either. -/
theorem Tree.constants_of_quotedNumbers :
    let number (bits : UInt64) : Expr := .literal (.number ⟨bits⟩) none none
    let entries (quoted : Bool) (type : Option Ty) (values : List Expr) : Expr :=
      .map [⟨"k", .array values type none, quoted⟩] none none
    let a := entries true none [number 0x7ff8000000000000, number 0]
    let b :=
      entries false (some Ty.int) [number 0xfff8000000000001, number 0x8000000000000000]
    let c := entries true none [number 0x7ff8000000000000, .this]
    let d := entries false (some Ty.int) [number 0xfff8000000000001, .this]
    (a.equiv b = true ∧ a.isConstant = b.isConstant ∧ b.isConstant = true) ∧
      (c.equiv d = true ∧ c.isConstant = d.isConstant ∧ d.isConstant = false) ∧
      (∀ e count, (result (stripAlternate e) count).equiv e = true) ∧
      (∀ stmt count, (result (pure stmt : StateM Nat Stmt) count).equiv stmt = true) ∧
      (result (b.rebuild (everywhere stripAlternate pure)) 0).isConstant = true := by
  intro number entries a b c d
  have hab : a.equiv b = true := by rfl
  have hcd : c.equiv d = true := by rfl
  have hb : b.isConstant = true := by rfl
  have hpure : ∀ stmt count,
      (result (pure stmt : StateM Nat Stmt) count).equiv stmt = true :=
    fun _ _ => Stmt.equiv_iff.2 rfl
  obtain ⟨hequivalent, hrebuilt, -⟩ := constants_respect_equivalence
  have hkept :
      (result (b.rebuild (everywhere stripAlternate pure)) 0).isConstant = b.isConstant :=
    hrebuilt Nat stripAlternate pure Rebuild.result_stripAlternate_equiv hpure b 0
  exact ⟨⟨hab, hequivalent a b hab, hb⟩, ⟨hcd, hequivalent c d hcd, by rfl⟩,
    Rebuild.result_stripAlternate_equiv, hpure, hkept.trans hb⟩

end CodeTree
