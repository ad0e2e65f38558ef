import CodeTree.Trace
import CodeTree.Walk

/-!
# Traced walks

Stopped at one kind, a walk passes over the children and still leaves the node; stopped
at any node of the sort, it passes the node by.
-/

namespace CodeTree
namespace Walk

/-- How to go on at a node, when stopping at any node of its sort and when stopping at
its kind. -/
def descent (stop : Option Site) (anyNode ofKind : Site) : Traced Descent := do
  if ← Traced.enter stop anyNode then
    if ← Traced.enter stop ofKind then return .into else return .over
  else return .past

/-- The walk goes on into the types of expressions only if it is told to. -/
def traced (stop : Option Site) (intoTypes : Bool) : Walk Traced where
  enterExpr e := descent stop .anyExpr (.expr e.kind)
  leaveExpr e := do
    Traced.record (.expr e)
    return intoTypes
  enterTy t := descent stop .anyTy (.ty t.kind)
  leaveTy t := Traced.record (.ty t)
  enterStmt s := do
    if ← Traced.enter stop .anyStmt then Traced.enter stop (.stmt s.kind)
    else return false
  enterExprs _ := Traced.enter stop .exprs
  enterStmts _ := Traced.enter stop .stmts
  enterParams _ := Traced.enter stop .params
  enterMethod _ := Traced.enter stop .method

/-- The walk that records types, and of all other nodes the leaves only. -/
def leaves : Walk Traced :=
  { everywhere with
    enterExpr := fun e => do
      match e with
      | .readVar name _ _ => Traced.record (.read name)
      | .literal .. => Traced.record .literal
      | _ => pure ()
      return .into
    enterTy := fun t => do
      match t with
      | .builtin name _ => Traced.record (.builtin name)
      | _ => pure ()
      return .into
    leaveTy := fun t => Traced.record (.ty t)
    enterStmt := fun s => do
      match s with
      | .comment text _ _ => Traced.record (.comment text)
      | .docComment tags _ => Traced.record (.docComment tags.length)
      | _ => pure ()
      return true }

end Walk
end CodeTree
