import CodeTree.Tree.Parts

/-!
# Walking over trees

A walk goes into the children of a node, from left to right, and then into the type that
an expression answers for.  For a comma sequence this is the type of its last part,
which is walked twice.
-/

namespace CodeTree

/-- What a walk does with a node it has come to. -/
inductive Descent where
  /-- Walk over the children, then leave the node. -/
  | into
  /-- Leave the node at once. -/
  | over
  /-- Pass the node by, without leaving it. -/
  | past
deriving DecidableEq

structure Walk (m : Type → Type) where
  enterExpr : Expr → m Descent
  /-- Whether to go on into the type of an expression that is left. -/
  leaveExpr : Expr → m Bool
  enterTy : Ty → m Descent
  leaveTy : Ty → m Unit
  enterStmt : Stmt → m Bool
  enterExprs : List Expr → m Bool
  enterStmts : List Stmt → m Bool
  enterParams : List Param → m Bool
  enterMethod : Method → m Bool

variable {m : Type → Type} [Monad m]

namespace Walk

/-- The walk that goes everywhere and does nothing. -/
def everywhere : Walk m where
  enterExpr _ := pure .into
  leaveExpr _ := pure true
  enterTy _ := pure .into
  leaveTy _ := pure ()
  enterStmt _ := pure true
  enterExprs _ := pure true
  enterStmts _ := pure true
  enterParams _ := pure true
  enterMethod _ := pure true

def goIf (enter : m Bool) (inside : m Unit) : m Unit := do
  if ← enter then inside else pure ()

def visit (enter : m Descent) (inside leave : m Unit) : m Unit := do
  match ← enter with
  | .into => do
      inside
      leave
  | .over => leave
  | .past => pure ()

def atExpr (w : Walk m) (e : Expr) (inside type : m Unit) : m Unit :=
  visit (w.enterExpr e) inside (goIf (w.leaveExpr e) type)

def atTy (w : Walk m) (t : Ty) (inside : m Unit) : m Unit :=
  visit (w.enterTy t) inside (w.leaveTy t)

end Walk

mutual

def Ty.walk (w : Walk m) (t : Ty) : m Unit :=
  w.atTy t <|
    match t with
    | .builtin _ _ => pure ()
    | .expr value _ => value.walk w
    | .array elem _ => elem.walk w
    | .map value _ => Tree.walkTyOption w value

def Tree.walkTyOption (w : Walk m) : Option Ty → m Unit
  | none => pure ()
  | some t => t.walk w

def Tree.walkTys (w : Walk m) : List Ty → m Unit
  | [] => pure ()
  | t :: ts => do
      t.walk w
      Tree.walkTys w ts

def Tree.walkTypeArgs (w : Walk m) : Option (List Ty) → m Unit
  | none => pure ()
  | some ts => Tree.walkTys w ts

def Expr.walk (w : Walk m) (e : Expr) : m Unit :=
  match e with
  | .readVar _ type _ => w.atExpr e (pure ()) (Tree.walkTyOption w type)
  | .writeVar _ value type _ => w.atExpr e (value.walk w) (Tree.walkTyOption w type)
  | .writeKey receiver index value type _ =>
      w.atExpr e
        (do
          receiver.walk w
          index.walk w
          value.walk w)
        (Tree.walkTyOption w type)
  | .writeProp receiver _ value type _ =>
      w.atExpr e
        (do
          receiver.walk w
          value.walk w)
        (Tree.walkTyOption w type)
  | .callMethod receiver _ args type _ =>
      w.atExpr e
        (do
          receiver.walk w
          Walk.goIf (w.enterExprs args) (Tree.walkExprs w args))
        (Tree.walkTyOption w type)
  | .call callee args type _ =>
      w.atExpr e
        (do
          callee.walk w
          Walk.goIf (w.enterExprs args) (Tree.walkExprs w args))
        (Tree.walkTyOption w type)
  | .instantiate cls args type _ =>
      w.atExpr e
        (do
          cls.walk w
          Walk.goIf (w.enterExprs args) (Tree.walkExprs w args))
        (Tree.walkTyOption w type)
  | .literal _ type _ => w.atExpr e (pure ()) (Tree.walkTyOption w type)
  | .external _ typeArgs type _ =>
      w.atExpr e (Tree.walkTypeArgs w typeArgs) (Tree.walkTyOption w type)
  | .conditional condition trueCase falseCase type _ =>
      w.atExpr e
        (do
          condition.walk w
          trueCase.walk w
          Tree.walkOption w falseCase)
        (Tree.walkTyOption w type)
  | .not condition _ => w.atExpr e (condition.walk w) (w.atTy Ty.bool (pure ()))
  | .assertNotNull condition type _ =>
      w.atExpr e (condition.walk w) (Tree.walkTyOption w type)
  | .cast value type _ => w.atExpr e (value.walk w) (Tree.walkTyOption w type)
  | .function params body _ type _ =>
      w.atExpr e
        (do
          Walk.goIf (w.enterParams params) (Tree.walkParams w params)
          Walk.goIf (w.enterStmts body) (Tree.walkStmts w body))
        (Tree.walkTyOption w type)
  | .binary _ lhs rhs type _ =>
      w.atExpr e
        (do
          lhs.walk w
          rhs.walk w)
        (Tree.walkTyOption w type)
  | .readProp receiver _ type _ => w.atExpr e (receiver.walk w) (Tree.walkTyOption w type)
  | .readKey receiver index type _ =>
      w.atExpr e
        (do
          receiver.walk w
          index.walk w)
        (Tree.walkTyOption w type)
  | .array entries type _ =>
      w.atExpr e (Walk.goIf (w.enterExprs entries) (Tree.walkExprs w entries))
        (Tree.walkTyOption w type)
  | .map entries type _ =>
      w.atExpr e (Tree.walkEntries w entries) (Tree.walkTyOption w type)
  | .comma parts _ =>
      w.atExpr e (Walk.goIf (w.enterExprs parts) (Tree.walkExprs w parts))
        (Tree.walkLastType w parts)

def Expr.walkType (w : Walk m) : Expr → m Unit
  | .readVar _ type _ => Tree.walkTyOption w type
  | .writeVar _ _ type _ => Tree.walkTyOption w type
  | .writeKey _ _ _ type _ => Tree.walkTyOption w type
  | .writeProp _ _ _ type _ => Tree.walkTyOption w type
  | .callMethod _ _ _ type _ => Tree.walkTyOption w type
  | .call _ _ type _ => Tree.walkTyOption w type
  | .instantiate _ _ type _ => Tree.walkTyOption w type
  | .literal _ type _ => Tree.walkTyOption w type
  | .external _ _ type _ => Tree.walkTyOption w type
  | .conditional _ _ _ type _ => Tree.walkTyOption w type
  | .not _ _ => w.atTy Ty.bool (pure ())
  | .assertNotNull _ type _ => Tree.walkTyOption w type
  | .cast _ type _ => Tree.walkTyOption w type
  | .function _ _ _ type _ => Tree.walkTyOption w type
  | .binary _ _ _ type _ => Tree.walkTyOption w type
  | .readProp _ _ type _ => Tree.walkTyOption w type
  | .readKey _ _ type _ => Tree.walkTyOption w type
  | .array _ type _ => Tree.walkTyOption w type
  | .map _ type _ => Tree.walkTyOption w type
  | .comma parts _ => Tree.walkLastType w parts

def Tree.walkLastType (w : Walk m) : List Expr → m Unit
  | [] => pure ()
  | [e] => e.walkType w
  | _ :: e :: es => Tree.walkLastType w (e :: es)

def Tree.walkExprs (w : Walk m) : List Expr → m Unit
  | [] => pure ()
  | e :: es => do
      e.walk w
      Tree.walkExprs w es

def Tree.walkOption (w : Walk m) : Option Expr → m Unit
  | none => pure ()
  | some e => e.walk w

def Tree.walkEntries (w : Walk m) : List MapEntry → m Unit
  | [] => pure ()
  | ⟨_, value, _⟩ :: entries => do
      value.walk w
      Tree.walkEntries w entries

def Tree.walkParams (w : Walk m) : List Param → m Unit
  | [] => pure ()
  | ⟨_, type⟩ :: params => do
      Tree.walkTyOption w type
      Tree.walkParams w params

def Stmt.walk (w : Walk m) (s : Stmt) : m Unit :=
  Walk.goIf (w.enterStmt s) <|
    match s with
    | .declareVar _ value type _ _ => do
        Tree.walkOption w value
        Tree.walkTyOption w type
    | .declareFunction _ params body type _ _ => do
        Walk.goIf (w.enterParams params) (Tree.walkParams w params)
        Walk.goIf (w.enterStmts body) (Tree.walkStmts w body)
        Tree.walkTyOption w type
    | .expr value _ => value.walk w
    | .ret value _ => value.walk w
    | .declareClass _ parent fields getters ctor methods _ _ => do
        Tree.walkOption w parent
        Tree.walkFields w fields
        Tree.walkGetters w getters
        ctor.walk w
        Tree.walkMethods w methods
    | .ifElse condition trueCase falseCase _ => do
        condition.walk w
        Walk.goIf (w.enterStmts trueCase) (Tree.walkStmts w trueCase)
        Walk.goIf (w.enterStmts falseCase) (Tree.walkStmts w falseCase)
    | .tryCatch body handler _ => do
        Walk.goIf (w.enterStmts body) (Tree.walkStmts w body)
        Walk.goIf (w.enterStmts handler) (Tree.walkStmts w handler)
    | .throw error _ => error.walk w
    | .comment .. => pure ()
    | .docComment .. => pure ()

def Tree.walkStmts (w : Walk m) : List Stmt → m Unit
  | [] => pure ()
  | s :: ss => do
      s.walk w
      Tree.walkStmts w ss

def Tree.walkFields (w : Walk m) : List Field → m Unit
  | [] => pure ()
  | ⟨_, type, _, initializer⟩ :: fields => do
      Tree.walkTyOption w type
      Tree.walkOption w initializer
      Tree.walkFields w fields

def Tree.walkGetters (w : Walk m) : List Getter → m Unit
  | [] => pure ()
  | ⟨_, body, type, _⟩ :: getters => do
      Walk.goIf (w.enterStmts body) (Tree.walkStmts w body)
      Tree.walkTyOption w type
      Tree.walkGetters w getters

def Method.walk (w : Walk m) (f : Method) : m Unit :=
  Walk.goIf (w.enterMethod f) <|
    match f with
    | ⟨_, params, body, type, _⟩ => do
        Walk.goIf (w.enterParams params) (Tree.walkParams w params)
        Walk.goIf (w.enterStmts body) (Tree.walkStmts w body)
        Tree.walkTyOption w type

def Tree.walkMethods (w : Walk m) : List Method → m Unit
  | [] => pure ()
  | f :: fs => do
      f.walk w
      Tree.walkMethods w fs

end

namespace Walk

def exprs (w : Walk m) (es : List Expr) : m Unit :=
  goIf (w.enterExprs es) (Tree.walkExprs w es)

def stmts (w : Walk m) (ss : List Stmt) : m Unit :=
  goIf (w.enterStmts ss) (Tree.walkStmts w ss)

end Walk
end CodeTree
