import CodeTree.Rebuild
import CodeTree.Trace
import CodeTree.Tree.Build

/-!
# Edits and their traces

Small changes to a node: reading another variable, dropping the span, negating an
expression of a kind, commenting out a statement of a kind.  They apply in this order.
-/

namespace CodeTree

structure Renaming where
  old : String
  new : String

/-- A read of the old name becomes a read of the new one, with the same type and
span. -/
def Expr.renameRead (r : Renaming) : Expr → Expr
  | .readVar (.named name) type span =>
      .readVar (.named (if name = r.old then r.new else name)) type span
  | e => e

def Expr.negateKind (kind : ExprKind) (e : Expr) : Expr :=
  if e.kind = kind then .not e none else e

/-- A comment in place of a statement of the given kind.  It says what kind of statement
stood there. -/
def Stmt.commentOutKind (kind : StmtKind) (s : Stmt) : Stmt :=
  if s.kind = kind then .comment kind.name false s.span? else s

structure Edits where
  rename : Option Renaming
  dropSpans : Bool
  negate : Option ExprKind
  commentOut : Option StmtKind

namespace Edits

def none : Edits :=
  { rename := .none, dropSpans := false, negate := .none, commentOut := .none }

def onExpr (d : Edits) (e : Expr) : Expr :=
  let e := match d.rename with
    | some r => e.renameRead r
    | .none => e
  let e := if d.dropSpans then e.withSpan .none else e
  match d.negate with
  | some kind => e.negateKind kind
  | .none => e

def onStmt (d : Edits) (s : Stmt) : Stmt :=
  let s := if d.dropSpans then s.withSpan .none else s
  match d.commentOut with
  | some kind => s.commentOutKind kind
  | .none => s

end Edits

namespace Rebuild

variable {m : Type → Type} [Monad m]

def rename (r : Renaming) : Rebuild m :=
  everywhere (fun e => pure (e.renameRead r)) pure

def edit (d : Edits) : Rebuild m :=
  everywhere (fun e => pure (d.onExpr e)) (fun s => pure (d.onStmt s))

end Rebuild

namespace Rebuild

def traced (d : Edits) (stop : Option Site) : Rebuild Traced where
  enterExpr e := do
    if ← Traced.enter stop .anyExpr then Traced.enter stop (.expr e.kind)
    else return false
  enterStmt s := do
    if ← Traced.enter stop .anyStmt then Traced.enter stop (.stmt s.kind)
    else return false
  enterExprs _ := Traced.enter stop .exprs
  enterStmts _ := Traced.enter stop .stmts
  enterMethod _ := Traced.enter stop .method
  expr e := do
    Traced.record (.expr e)
    return d.onExpr e
  stmt s := do
    Traced.record (.stmt s)
    return d.onStmt s

end Rebuild

end CodeTree
