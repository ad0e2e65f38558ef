import CodeTree.Tree.Parts

/-!
# Building trees

Seven kinds of node take a missing type from one of their parts.  Every function that
makes such a node goes through the one that does so.
-/

namespace CodeTree

/-- A map type apart from other types. -/
structure MapTy where
  value : Option Ty
  mods : TyModifiers

def MapTy.toTy (t : MapTy) : Ty :=
  .map t.value t.mods

namespace Expr

def mkWriteVar (name : String) (value : Expr) (type : Option Ty)
    (span : Option Span) : Expr :=
  .writeVar name value (type.or value.type?) span

def mkWriteKey (receiver index value : Expr) (type : Option Ty)
    (span : Option Span) : Expr :=
  .writeKey receiver index value (type.or value.type?) span

def mkWriteProp (receiver : Expr) (name : String) (value : Expr) (type : Option Ty)
    (span : Option Span) : Expr :=
  .writeProp receiver name value (type.or value.type?) span

def mkConditional (condition trueCase : Expr) (falseCase : Option Expr) (type : Option Ty)
    (span : Option Span) : Expr :=
  .conditional condition trueCase falseCase (type.or trueCase.type?) span

def mkAssertNotNull (condition : Expr) (span : Option Span) : Expr :=
  .assertNotNull condition condition.type? span

def mkBinary (op : Operator) (lhs rhs : Expr) (type : Option Ty)
    (span : Option Span) : Expr :=
  .binary op lhs rhs (type.or lhs.type?) span

/-- A map literal is annotated with a map type or not at all. -/
def mkMap (entries : List MapEntry) (type : Option MapTy) (span : Option Span) : Expr :=
  .map entries (type.map MapTy.toTy) span

def this : Expr := .readVar (.builtin .this) none none
def super : Expr := .readVar (.builtin .super) none none
def catchError : Expr := .readVar (.builtin .catchError) none none
def catchStack : Expr := .readVar (.builtin .catchStack) none none
def null : Expr := .literal .null none none

/-- The null whose type is inferred, so that a strict check for null can narrow the
other side. -/
def typedNull : Expr := .literal .null (some Ty.inferred) none

def var (name : String) (type : Option Ty) (span : Option Span) : Expr :=
  .readVar (.named name) type span

def arrayOf (entries : List Expr) : Expr :=
  .array entries none none

def mapOf (entries : List MapEntry) (type : Option MapTy) : Expr :=
  mkMap entries type none

def imported (ref : ExternalRef) (typeArgs : Option (List Ty))
    (span : Option Span) : Expr :=
  .external ref typeArgs none span

def prop (e : Expr) (name : String) (span : Option Span) : Expr :=
  .readProp e name none span

def key (e index : Expr) (type : Option Ty) (span : Option Span) : Expr :=
  .readKey e index type span

def invoke (e : Expr) (method : MethodName) (args : List Expr)
    (span : Option Span) : Expr :=
  .callMethod e method args none span

def apply (e : Expr) (args : List Expr) (span : Option Span) : Expr :=
  .call e args none span

def construct (e : Expr) (args : List Expr) (type : Option Ty)
    (span : Option Span) : Expr :=
  .instantiate e args type span

def choose (e trueCase : Expr) (falseCase : Option Expr) (span : Option Span) : Expr :=
  mkConditional e trueCase falseCase none span

def operate (e : Expr) (op : Operator) (rhs : Expr) (span : Option Span) : Expr :=
  mkBinary op e rhs none span

/-- Comparison with null, which `undefined` satisfies too. -/
def isBlank (e : Expr) (span : Option Span) : Expr :=
  e.operate .equals typedNull span

def castTo (e : Expr) (type : Ty) (span : Option Span) : Expr :=
  .cast e (some type) span

/-- The write that goes with a read of a variable, a property or a key. -/
def assign (target value : Expr) : Except TreeError Expr :=
  match target with
  | .readVar (.named name) _ span => .ok (mkWriteVar name value none span)
  | .readVar (.builtin b) _ _ => .error (.builtinAssigned b)
  | .readProp receiver name _ span => .ok (mkWriteProp receiver name value none span)
  | .readKey receiver index _ span => .ok (mkWriteKey receiver index value none span)
  | other => .error (.notAssignable other.kind)

end Expr

def Ty.imported (ref : ExternalRef) (typeArgs : Option (List Ty))
    (mods : TyModifiers) : Ty :=
  .expr (Expr.imported ref typeArgs none) mods

namespace Stmt

def mkDeclareVar (name : String) (value : Option Expr) (type : Option Ty)
    (mods : Modifiers) (span : Option Span) : Stmt :=
  .declareVar name value (type.or (value.bind Expr.type?)) mods span

def branch (condition : Expr) (trueCase : List Stmt)
    (falseCase : Option (List Stmt)) : Stmt :=
  .ifElse condition trueCase (falseCase.getD []) none

end Stmt

namespace Expr

def toStmt (e : Expr) : Stmt :=
  .expr e none

/-- A write to a variable as the declaration of that variable. -/
def toVarDecl? (e : Expr) (type : Option Ty) (mods : Modifiers) : Option Stmt :=
  match e with
  | .writeVar name value _ span => some (.mkDeclareVar name (some value) type mods span)
  | _ => none

/-- A function expression as the declaration of a function. -/
def toFunctionDecl? (e : Expr) (name : String) (mods : Modifiers) : Option Stmt :=
  match e with
  | .function params body _ type span =>
      some (.declareFunction name params body type mods span)
  | _ => none

end Expr
end CodeTree
