import CodeTree.Tree.Parts

/-!
# Rebuilding trees

Each node is put together again from its rebuilt children and then handed to a hook,
which says what stands in its place.  Types are left alone.  Before a node or a list is
entered, another hook may keep it as it stands.
-/

namespace CodeTree

/-- What to do at the nodes of a tree that is rebuilt. -/
structure Rebuild (m : Type → Type) where
  enterExpr : Expr → m Bool
  enterStmt : Stmt → m Bool
  enterExprs : List Expr → m Bool
  enterStmts : List Stmt → m Bool
  enterMethod : Method → m Bool
  expr : Expr → m Expr
  stmt : Stmt → m Stmt

variable {m : Type → Type} [Monad m]

namespace Rebuild

def everywhere (expr : Expr → m Expr) (stmt : Stmt → m Stmt) : Rebuild m where
  enterExpr _ := pure true
  enterStmt _ := pure true
  enterExprs _ := pure true
  enterStmts _ := pure true
  enterMethod _ := pure true
  expr := expr
  stmt := stmt

/-- Puts every node back in its place. -/
def identity : Rebuild m :=
  everywhere pure pure

/-- What is rebuilt, if it is entered, and what stood there otherwise. -/
def rebuildIf {α : Type} (enter : m Bool) (kept : α) (rebuilt : m α) : m α := do
  if ← enter then rebuilt else pure kept

end Rebuild

open Rebuild (rebuildIf)

mutual

def Expr.rebuild (r : Rebuild m) (e : Expr) : m Expr :=
  rebuildIf (r.enterExpr e) e <| do
    match e with
    | .readVar name type span => r.expr (.readVar name type span)
    | .writeVar name value type span => do
        let value ← value.rebuild r
        r.expr (.writeVar name value type span)
    | .writeKey receiver index value type span => do
        let receiver ← receiver.rebuild r
        let index ← index.rebuild r
        let value ← value.rebuild r
        r.expr (.writeKey receiver index value type span)
    | .writeProp receiver name value type span => do
        let receiver ← receiver.rebuild r
        let value ← value.rebuild r
        r.expr (.writeProp receiver name value type span)
    | .callMethod receiver method args type span => do
        let receiver ← receiver.rebuild r
        let args ← rebuildIf (r.enterExprs args) args (Tree.rebuildExprs r args)
        r.expr (.callMethod receiver method args type span)
    | .call callee args type span => do
        let callee ← callee.rebuild r
        let args ← rebuildIf (r.enterExprs args) args (Tree.rebuildExprs r args)
        r.expr (.call callee args type span)
    | .instantiate cls args type span => do
        let cls ← cls.rebuild r
        let args ← rebuildIf (r.enterExprs args) args (Tree.rebuildExprs r args)
        r.expr (.instantiate cls args type span)
    | .literal value type span => r.expr (.literal value type span)
    | .external ref typeArgs type span => r.expr (.external ref typeArgs type span)
    | .conditional condition trueCase falseCase type span => do
        let condition ← condition.rebuild r
        let trueCase ← trueCase.rebuild r
        let falseCase ← Tree.rebuildOption r falseCase
        r.expr (.conditional condition trueCase falseCase type span)
    | .not condition span => do
        let condition ← condition.rebuild r
        r.expr (.not condition span)
    | .assertNotNull condition type span => do
        let condition ← condition.rebuild r
        r.expr (.assertNotNull condition type span)
    | .cast value type span => do
        let value ← value.rebuild r
        r.expr (.cast value type span)
    | .function params body name type span => do
        let body ← rebuildIf (r.enterStmts body) body (Tree.rebuildStmts r body)
        r.expr (.function params body name type span)
    | .binary op lhs rhs type span => do
        let lhs ← lhs.rebuild r
        let rhs ← rhs.rebuild r
        r.expr (.binary op lhs rhs type span)
    | .readProp receiver name type span => do
        let receiver ← receiver.rebuild r
        r.expr (.readProp receiver name type span)
    | .readKey receiver index type span => do
        let receiver ← receiver.rebuild r
        let index ← index.rebuild r
        r.expr (.readKey receiver index type span)
    | .array entries type span => do
        let entries ← rebuildIf (r.enterExprs entries) entries
          (Tree.rebuildExprs r entries)
        r.expr (.array entries type span)
    | .map entries type span => do
        let entries ← Tree.rebuildEntries r entries
        r.expr (.map entries type span)
    | .comma parts span => do
        let parts ← rebuildIf (r.enterExprs parts) parts (Tree.rebuildExprs r parts)
        r.expr (.comma parts span)

def Tree.rebuildExprs (r : Rebuild m) : List Expr → m (List Expr)
  | [] => pure []
  | e :: es => do
      let e ← e.rebuild r
      let es ← Tree.rebuildExprs r es
      return e :: es

def Tree.rebuildOption (r : Rebuild m) : Option Expr → m (Option Expr)
  | none => pure none
  | some e => do
      let e ← e.rebuild r
      return some e

/-- The values of a map literal are entered one by one, not as a list. -/
def Tree.rebuildEntries (r : Rebuild m) : List MapEntry → m (List MapEntry)
  | [] => pure []
  | ⟨key, value, quoted⟩ :: entries => do
      let value ← value.rebuild r
      let entries ← Tree.rebuildEntries r entries
      return ⟨key, value, quoted⟩ :: entries

def Stmt.rebuild (r : Rebuild m) (s : Stmt) : m Stmt :=
  rebuildIf (r.enterStmt s) s <| do
    match s with
    | .declareVar name value type mods span => do
        let value ← Tree.rebuildOption r value
        r.stmt (.declareVar name value type mods span)
    | .declareFunction name params body type mods span => do
        let body ← rebuildIf (r.enterStmts body) body (Tree.rebuildStmts r body)
        r.stmt (.declareFunction name params body type mods span)
    | .expr value span => do
        let value ← value.rebuild r
        r.stmt (.expr value span)
    | .ret value span => do
        let value ← value.rebuild r
        r.stmt (.ret value span)
    | .declareClass name parent fields getters ctor methods mods span => do
        let parent ← Tree.rebuildOption r parent
        let fields ← Tree.rebuildFields r fields
        let getters ← Tree.rebuildGetters r getters
        let ctor ← ctor.rebuild r
        let methods ← Tree.rebuildMethods r methods
        r.stmt (.declareClass name parent fields getters ctor methods mods span)
    | .ifElse condition trueCase falseCase span => do
        let condition ← condition.rebuild r
        let trueCase ← rebuildIf (r.enterStmts trueCase) trueCase
          (Tree.rebuildStmts r trueCase)
        let falseCase ← rebuildIf (r.enterStmts falseCase) falseCase
          (Tree.rebuildStmts r falseCase)
        r.stmt (.ifElse condition trueCase falseCase span)
    | .tryCatch body handler span => do
        let body ← rebuildIf (r.enterStmts body) body (Tree.rebuildStmts r body)
        let handler ← rebuildIf (r.enterStmts handler) handler
          (Tree.rebuildStmts r handler)
        r.stmt (.tryCatch body handler span)
    | .throw error span => do
        let error ← error.rebuild r
        r.stmt (.throw error span)
    | .comment text multiline span => r.stmt (.comment text multiline span)
    | .docComment tags span => r.stmt (.docComment tags span)

def Tree.rebuildStmts (r : Rebuild m) : List Stmt → m (List Stmt)
  | [] => pure []
  | s :: ss => do
      let s ← s.rebuild r
      let ss ← Tree.rebuildStmts r ss
      return s :: ss

def Tree.rebuildFields (r : Rebuild m) : List Field → m (List Field)
  | [] => pure []
  | ⟨name, type, mods, initializer⟩ :: fields => do
      let initializer ← Tree.rebuildOption r initializer
      let fields ← Tree.rebuildFields r fields
      return ⟨name, type, mods, initializer⟩ :: fields

def Tree.rebuildGetters (r : Rebuild m) : List Getter → m (List Getter)
  | [] => pure []
  | ⟨name, body, type, mods⟩ :: getters => do
      let body ← rebuildIf (r.enterStmts body) body (Tree.rebuildStmts r body)
      let getters ← Tree.rebuildGetters r getters
      return ⟨name, body, type, mods⟩ :: getters

def Method.rebuild (r : Rebuild m) (f : Method) : m Method :=
  rebuildIf (r.enterMethod f) f <| do
    match f with
    | ⟨name, params, body, type, mods⟩ => do
        let body ← rebuildIf (r.enterStmts body) body (Tree.rebuildStmts r body)
        return ⟨name, params, body, type, mods⟩

def Tree.rebuildMethods (r : Rebuild m) : List Method → m (List Method)
  | [] => pure []
  | f :: fs => do
      let f ← f.rebuild r
      let fs ← Tree.rebuildMethods r fs
      return f :: fs

end

namespace Rebuild

def exprs (r : Rebuild m) (es : List Expr) : m (List Expr) :=
  rebuildIf (r.enterExprs es) es (Tree.rebuildExprs r es)

def stmts (r : Rebuild m) (ss : List Stmt) : m (List Stmt) :=
  rebuildIf (r.enterStmts ss) ss (Tree.rebuildStmts r ss)

end Rebuild
end CodeTree
