import CodeTree.Reference

namespace CodeTree

inductive TyKind where
  | builtin
  | expr
  | array
  | map
deriving DecidableEq

inductive ExprKind where
  | readVar
  | writeVar
  | writeKey
  | writeProp
  | callMethod
  | call
  | instantiate
  | literal
  | external
  | conditional
  | not
  | assertNotNull
  | cast
  | function
  | binary
  | readProp
  | readKey
  | array
  | map
  | comma
deriving DecidableEq

def ExprKind.name : ExprKind → String
  | .readVar => "ReadVarExpr"
  | .writeVar => "WriteVarExpr"
  | .writeKey => "WriteKeyExpr"
  | .writeProp => "WritePropExpr"
  | .callMethod => "InvokeMethodExpr"
  | .call => "InvokeFunctionExpr"
  | .instantiate => "InstantiateExpr"
  | .literal => "LiteralExpr"
  | .external => "ExternalExpr"
  | .conditional => "ConditionalExpr"
  | .not => "NotExpr"
  | .assertNotNull => "AssertNotNull"
  | .cast => "CastExpr"
  | .function => "FunctionExpr"
  | .binary => "BinaryOperatorExpr"
  | .readProp => "ReadPropExpr"
  | .readKey => "ReadKeyExpr"
  | .array => "LiteralArrayExpr"
  | .map => "LiteralMapExpr"
  | .comma => "CommaExpr"

def ExprKind.all : List ExprKind :=
  [.readVar, .writeVar, .writeKey, .writeProp, .callMethod, .call, .instantiate,
    .literal, .external, .conditional, .not, .assertNotNull, .cast, .function, .binary,
    .readProp, .readKey, .array, .map, .comma]

def ExprKind.ofName? (name : String) : Option ExprKind :=
  all.find? fun kind => kind.name == name

inductive StmtKind where
  | declareVar
  | declareFunction
  | expr
  | ret
  | declareClass
  | ifElse
  | tryCatch
  | throw
  | comment
  | docComment
deriving DecidableEq

def StmtKind.name : StmtKind → String
  | .declareVar => "DeclareVarStmt"
  | .declareFunction => "DeclareFunctionStmt"
  | .expr => "ExpressionStatement"
  | .ret => "ReturnStatement"
  | .declareClass => "ClassStmt"
  | .ifElse => "IfStmt"
  | .tryCatch => "TryCatchStmt"
  | .throw => "ThrowStmt"
  | .comment => "CommentStmt"
  | .docComment => "JSDocCommentStmt"

def StmtKind.all : List StmtKind :=
  [.declareVar, .declareFunction, .expr, .ret, .declareClass, .ifElse, .tryCatch,
    .throw, .comment, .docComment]

def StmtKind.ofName? (name : String) : Option StmtKind :=
  all.find? fun kind => kind.name == name

inductive Operator where
  | equals
  | notEquals
  | identical
  | notIdentical
  | minus
  | plus
  | divide
  | multiply
  | modulo
  | and
  | or
  | lower
  | lowerEquals
  | bigger
  | biggerEquals
deriving DecidableEq

def Operator.name : Operator → String
  | .equals => "Equals"
  | .notEquals => "NotEquals"
  | .identical => "Identical"
  | .notIdentical => "NotIdentical"
  | .minus => "Minus"
  | .plus => "Plus"
  | .divide => "Divide"
  | .multiply => "Multiply"
  | .modulo => "Modulo"
  | .and => "And"
  | .or => "Or"
  | .lower => "Lower"
  | .lowerEquals => "LowerEquals"
  | .bigger => "Bigger"
  | .biggerEquals => "BiggerEquals"

def Operator.all : List Operator :=
  [.equals, .notEquals, .identical, .notIdentical, .minus, .plus, .divide, .multiply,
    .modulo, .and, .or, .lower, .lowerEquals, .bigger, .biggerEquals]

inductive TreeError where
  | builtinAssigned (target : BuiltinVar)
  | notAssignable (kind : ExprKind)
  | delimiterInDocText (text : String)
deriving DecidableEq

def TreeError.message : TreeError → String
  | .builtinAssigned target =>
      "Built in variable " ++ target.name ++ " can not be assigned to."
  | .notAssignable kind => kind.name ++ " can not be used as an assignment target"
  | .delimiterInDocText text =>
      "JSDoc text cannot contain \"/*\" and \"*/\": " ++ Text.quote text

end CodeTree
