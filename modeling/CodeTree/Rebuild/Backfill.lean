import CodeTree.Rebuild

namespace CodeTree

def Expr.defaultSpan (span : Span) (e : Expr) : Expr :=
  match e.span? with
  | some _ => e
  | none => e.withSpan (some span)

def Stmt.defaultSpan (span : Span) (s : Stmt) : Stmt :=
  match s.span? with
  | some _ => s
  | none => s.withSpan (some span)

namespace Rebuild

/-- A node keeps the span it has, and what lies below it is still filled in. -/
def backfill (span : Span) : Rebuild Id :=
  everywhere (fun e => pure (e.defaultSpan span)) (fun s => pure (s.defaultSpan span))

end Rebuild

def Expr.backfill (e : Expr) : Option Span → Expr
  | some span => Id.run (e.rebuild (Rebuild.backfill span))
  | none => e

def Stmt.backfill (s : Stmt) : Option Span → Stmt
  | some span => Id.run (s.rebuild (Rebuild.backfill span))
  | none => s

end CodeTree
