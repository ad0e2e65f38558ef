import CodeTree.Proofs.Rebuild.Nodewise
import CodeTree.Proofs.Tree.Shells

namespace CodeTree

open Effects
open Rebuild (everywhere)

namespace Expr

/-- An expression of the same type that shows nothing else. -/
def stub (e : Expr) : Expr :=
  .literal .null e.type? none

@[simp] theorem type?_stub (e : Expr) : e.stub.type? = e.type? := rfl

theorem stub_eq_stub {a b : Expr} (h : a.type? = b.type?) : a.stub = b.stub := by
  rw [stub, stub, h]

theorem type?_mapChildren_stub (e : Expr) :
    (e.mapChildren stub fun _ => .blank).type? = e.type? := by
  cases e with
  | comma parts span =>
      have hparts : ∀ c ∈ parts, c.stub.type? = c.type? := fun c _ => c.type?_stub
      exact lastType?_map (g := id) rfl hparts
  | _ => rfl

section Hooks

variable {σ : Type} {onExpr : Expr → StateM σ Expr} {onStmt : Stmt → StateM σ Stmt}

/-- Where a hook keeps the type of whatever it is called on, a rebuild keeps the type of
every expression, in whatever state it starts. -/
theorem type?_rebuild_everywhere
    (hexpr : ∀ e s, (result (onExpr e) s).type? = e.type?) (e : Expr) (s : σ) :
    (result (e.rebuild (everywhere onExpr onStmt)) s).type? = e.type? := by
  have hnode : ∀ a b : Expr,
      a.mapChildren stub (fun _ => .blank) = b.mapChildren stub (fun _ => .blank) →
        a.stub = b.stub := by
    intro a b h
    apply stub_eq_stub
    calc
      a.type? = (a.mapChildren stub fun _ => .blank).type? :=
        a.type?_mapChildren_stub.symm
      _ = (b.mapChildren stub fun _ => .blank).type? := by
          rw [h]
      _ = b.type? := b.type?_mapChildren_stub
  have hstub : ∀ e s, (result (onExpr e) s).stub = e.stub :=
    fun e s => stub_eq_stub (hexpr e s)
  have hkept : (result (e.rebuild (everywhere onExpr onStmt)) s).stub = e.stub :=
    (Tree.view_rebuild_everywhere hnode (fun _ _ _ => rfl) hstub fun _ _ => rfl).1 e s
  rw [← type?_stub, hkept, type?_stub]

end Hooks

/-- Casts an expression to the type that it has anyway, and counts the casts. -/
def castToOwnType (e : Expr) : StateM Nat Expr := do
  modify (· + 1)
  return .cast e e.type? none

/-- Six casts are made, one of them in the last place of each sequence. -/
theorem type?_rebuild_castToOwnType :
    let x : Expr := .readVar (.named "x") (some Ty.string) none
    let e : Expr := .comma [x, .comma [x, .not x none] none] none
    (∀ e s, (result (castToOwnType e) s).type? = e.type?) ∧
      (result (e.rebuild (everywhere castToOwnType pure)) 0).type? = some Ty.bool ∧
      after (e.rebuild (everywhere castToOwnType pure)) 0 = 6 := by
  intro x e
  have hkeep : ∀ e s, (result (castToOwnType e) s).type? = e.type? := fun _ _ => rfl
  refine ⟨hkeep, ?_, rfl⟩
  calc
    (result (e.rebuild (everywhere castToOwnType pure)) 0).type? = e.type? :=
      type?_rebuild_everywhere hkeep e 0
    _ = some Ty.bool := rfl

end Expr
end CodeTree
