import CodeTree.DocComment
import CodeTree.Literal
import CodeTree.Source

/-!
# Trees of generated code

The constructors store any parts whatever.  `CodeTree.Tree.Build` has the functions that
fill in a missing type.
-/

namespace CodeTree

structure TyModifiers where
  isConst : Bool
deriving DecidableEq

namespace TyModifiers

def none : TyModifiers :=
  { isConst := false }

def contains (m flags : TyModifiers) : Bool :=
  !flags.isConst || m.isConst

end TyModifiers

structure Modifiers where
  isFinal : Bool
  isPrivate : Bool
  isExported : Bool
  isStatic : Bool
deriving DecidableEq

namespace Modifiers

def none : Modifiers :=
  { isFinal := false, isPrivate := false, isExported := false, isStatic := false }

def contains (m flags : Modifiers) : Bool :=
  (!flags.isFinal || m.isFinal) && (!flags.isPrivate || m.isPrivate) &&
    (!flags.isExported || m.isExported) && (!flags.isStatic || m.isStatic)

end Modifiers

inductive BuiltinTy where
  | dynamic
  | bool
  | string
  | int
  | number
  | function
  | inferred
deriving DecidableEq

def BuiltinTy.name : BuiltinTy → String
  | .dynamic => "Dynamic"
  | .bool => "Bool"
  | .string => "String"
  | .int => "Int"
  | .number => "Number"
  | .function => "Function"
  | .inferred => "Inferred"

mutual

inductive Ty where
  | builtin (name : BuiltinTy) (mods : TyModifiers)
  | expr (value : Expr) (mods : TyModifiers)
  | array (elem : Ty) (mods : TyModifiers)
  /-- A map from strings. -/
  | map (value : Option Ty) (mods : TyModifiers)

inductive Expr where
  | readVar (name : VarName) (type : Option Ty) (span : Option Span)
  | writeVar (name : String) (value : Expr) (type : Option Ty) (span : Option Span)
  | writeKey (receiver index value : Expr) (type : Option Ty) (span : Option Span)
  | writeProp (receiver : Expr) (name : String) (value : Expr) (type : Option Ty)
      (span : Option Span)
  | callMethod (receiver : Expr) (method : MethodName) (args : List Expr)
      (type : Option Ty) (span : Option Span)
  | call (callee : Expr) (args : List Expr) (type : Option Ty) (span : Option Span)
  | instantiate (cls : Expr) (args : List Expr) (type : Option Ty) (span : Option Span)
  | literal (value : Literal) (type : Option Ty) (span : Option Span)
  | external (ref : ExternalRef) (typeArgs : Option (List Ty)) (type : Option Ty)
      (span : Option Span)
  | conditional (condition trueCase : Expr) (falseCase : Option Expr) (type : Option Ty)
      (span : Option Span)
  | not (condition : Expr) (span : Option Span)
  | assertNotNull (condition : Expr) (type : Option Ty) (span : Option Span)
  | cast (value : Expr) (type : Option Ty) (span : Option Span)
  | function (params : List Param) (body : List Stmt) (name : Option String)
      (type : Option Ty) (span : Option Span)
  | binary (op : Operator) (lhs rhs : Expr) (type : Option Ty) (span : Option Span)
  | readProp (receiver : Expr) (name : String) (type : Option Ty) (span : Option Span)
  | readKey (receiver index : Expr) (type : Option Ty) (span : Option Span)
  | array (entries : List Expr) (type : Option Ty) (span : Option Span)
  | map (entries : List MapEntry) (type : Option Ty) (span : Option Span)
  | comma (parts : List Expr) (span : Option Span)

structure Param where
  name : String
  type : Option Ty

/-- One entry of a map literal.  A quoted key has to be printed between quotes. -/
structure MapEntry where
  key : String
  value : Expr
  quoted : Bool

inductive Stmt where
  | declareVar (name : String) (value : Option Expr) (type : Option Ty) (mods : Modifiers)
      (span : Option Span)
  | declareFunction (name : String) (params : List Param) (body : List Stmt)
      (type : Option Ty) (mods : Modifiers) (span : Option Span)
  | expr (value : Expr) (span : Option Span)
  | ret (value : Expr) (span : Option Span)
  | declareClass (name : String) (parent : Option Expr) (fields : List Field)
      (getters : List Getter) (ctor : Method) (methods : List Method) (mods : Modifiers)
      (span : Option Span)
  | ifElse (condition : Expr) (trueCase falseCase : List Stmt) (span : Option Span)
  | tryCatch (body handler : List Stmt) (span : Option Span)
  | throw (error : Expr) (span : Option Span)
  | comment (text : String) (multiline : Bool) (span : Option Span)
  | docComment (tags : List DocTag) (span : Option Span)

structure Field where
  name : String
  type : Option Ty
  mods : Modifiers
  initializer : Option Expr

structure Getter where
  name : String
  body : List Stmt
  type : Option Ty
  mods : Modifiers

/-- A method of a class.  Its constructor has no name. -/
structure Method where
  name : Option String
  params : List Param
  body : List Stmt
  type : Option Ty
  mods : Modifiers

end

end CodeTree
