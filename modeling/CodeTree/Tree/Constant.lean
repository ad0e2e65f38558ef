import CodeTree.Tree.Parts

namespace CodeTree

mutual

/-- Whether an expression is a literal, or an array or a map of constant expressions. -/
def Expr.isConstant : Expr → Bool
  | .literal .. => true
  | .array entries _ _ => Tree.allConstant entries
  | .map entries _ _ => Tree.entriesConstant entries
  | _ => false

def Tree.allConstant : List Expr → Bool
  | [] => true
  | e :: es => e.isConstant && Tree.allConstant es

def Tree.entriesConstant : List MapEntry → Bool
  | [] => true
  | ⟨_, value, _⟩ :: entries => value.isConstant && Tree.entriesConstant entries

end

namespace Tree

theorem allConstant_iff {es : List Expr} :
    allConstant es = true ↔ ∀ e ∈ es, e.isConstant = true := by
  induction es with
  | nil => simp [allConstant]
  | cons e es ih => simp [allConstant, ih]

theorem entriesConstant_iff {entries : List MapEntry} :
    entriesConstant entries = true ↔
      ∀ entry ∈ entries, entry.value.isConstant = true := by
  induction entries with
  | nil => simp [entriesConstant]
  | cons entry entries ih =>
      cases entry
      simp [entriesConstant, ih]

end Tree

/-- A literal, an array literal or a map literal. -/
def Expr.IsLiteral (e : Expr) : Prop :=
  e.kind = .literal ∨ e.kind = .array ∨ e.kind = .map

theorem Expr.isLiteral_of_isConstant {e : Expr} (h : e.isConstant = true) :
    e.IsLiteral := by
  cases e with
  | literal value type span => exact .inl rfl
  | array entries type span => exact .inr (.inl rfl)
  | map entries type span => exact .inr (.inr rfl)
  | _ => cases h

end CodeTree
