import CodeTree.Walk

namespace CodeTree

def Expr.reference? : Expr → Option ExternalRef
  | .external ref _ _ _ => some ref
  | _ => none

theorem Expr.reference?_eq_some_iff {e : Expr} {ref : ExternalRef} :
    e.reference? = some ref ↔
      ∃ typeArgs type span, e = .external ref typeArgs type span := by
  constructor
  · intro h
    cases e with
    | external found typeArgs type span =>
        exact ⟨typeArgs, type, span, by rw [Option.some.inj h]⟩
    | _ => cases h
  · rintro ⟨typeArgs, type, span, rfl⟩
    rfl

namespace References

def note (e : Expr) : StateM (List ExternalRef) Unit :=
  match e.reference? with
  | some ref => modify fun refs => refs ++ [ref]
  | none => pure ()

def walk : Walk (StateM (List ExternalRef)) :=
  { Walk.everywhere with
    enterExpr := fun e => do
      note e
      return .into }

end References

/-- Every reference to an external symbol, in the order of the walk and as often as the
walk meets it.  A reference comes before those in its type arguments. -/
def externalRefs (ss : List Stmt) : List ExternalRef :=
  ((References.walk.stmts ss).run []).2

end CodeTree
