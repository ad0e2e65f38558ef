import CodeTree.Tree.Parts

namespace CodeTree

inductive Site where
  | anyExpr
  | anyStmt
  | anyTy
  | expr (kind : ExprKind)
  | stmt (kind : StmtKind)
  | ty (kind : TyKind)
  | exprs
  | stmts
  | params
  | method
deriving DecidableEq

/-- What an expression is called in a trace: its kind, and the variable, property or
external symbol that it reads, if it is a read of one. -/
def Expr.label (e : Expr) : String :=
  match e with
  | .readVar (.named name) _ _ => e.kind.name ++ " " ++ name
  | .readVar (.builtin b) _ _ => e.kind.name ++ " @" ++ b.name
  | .readProp _ name _ _ => e.kind.name ++ " " ++ name
  | .external ref _ _ _ => e.kind.name ++ " " ++ ref.name.getD "-"
  | _ => e.kind.name

inductive Event where
  | expr (node : Expr)
  | stmt (node : Stmt)
  | ty (node : Ty)
  | pruned (site : Site)
  /-- A builtin type, met on the way in. -/
  | builtin (name : BuiltinTy)
  | read (name : VarName)
  | literal
  | comment (text : String)
  | docComment (count : Nat)

abbrev Traced : Type → Type :=
  StateM (Array Event)

namespace Traced

def record (event : Event) : Traced Unit :=
  modify fun events => events.push event

/-- Whether to go on at a place that counts as a site of the given sort. -/
def enter (stop : Option Site) (site : Site) : Traced Bool :=
  if stop = some site then do
    record (.pruned site)
    return false
  else return true

end Traced
end CodeTree
