import CodeTree.Tree.Parts

/-!
# Equivalence of trees

Types, spans and modifiers never take part.  Nor do the text of a plain comment, the
quotes around a key, a runtime value, the name of a function expression, the initial
value of a field and the parameters of a method.
-/

namespace CodeTree

def Tree.presentEquiv {α : Type} (equiv : α → α → Bool) : Option α → Option α → Bool
  | none, none => true
  | some a, some b => equiv a b
  | _, _ => false

def Param.equiv (a b : Param) : Bool :=
  a.name == b.name

def Field.equiv (a b : Field) : Bool :=
  a.name == b.name

namespace Tree

def paramsEquiv : List Param → List Param → Bool
  | [], [] => true
  | a :: as, b :: bs => a.equiv b && paramsEquiv as bs
  | _, _ => false

def fieldsEquiv : List Field → List Field → Bool
  | [], [] => true
  | a :: as, b :: bs => a.equiv b && fieldsEquiv as bs
  | _, _ => false

end Tree

mutual

def Expr.equiv : Expr → Expr → Bool
  | .readVar name _ _, .readVar name' _ _ => name == name'
  | .writeVar name value _ _, .writeVar name' value' _ _ =>
      name == name' && value.equiv value'
  | .writeKey receiver index value _ _, .writeKey receiver' index' value' _ _ =>
      receiver.equiv receiver' && index.equiv index' && value.equiv value'
  | .writeProp receiver name value _ _, .writeProp receiver' name' value' _ _ =>
      receiver.equiv receiver' && name == name' && value.equiv value'
  | .callMethod receiver method args _ _, .callMethod receiver' method' args' _ _ =>
      receiver.equiv receiver' && method == method' && Tree.exprsEquiv args args'
  | .call callee args _ _, .call callee' args' _ _ =>
      callee.equiv callee' && Tree.exprsEquiv args args'
  | .instantiate cls args _ _, .instantiate cls' args' _ _ =>
      cls.equiv cls' && Tree.exprsEquiv args args'
  | .literal value _ _, .literal value' _ _ => value.equiv value'
  | .external ref _ _ _, .external ref' _ _ _ =>
      ref.moduleName == ref'.moduleName && ref.name == ref'.name
  | .conditional condition trueCase falseCase _ _,
      .conditional condition' trueCase' falseCase' _ _ =>
      condition.equiv condition' && trueCase.equiv trueCase' &&
        Tree.optionEquiv falseCase falseCase'
  | .not condition _, .not condition' _ => condition.equiv condition'
  | .assertNotNull condition _ _, .assertNotNull condition' _ _ =>
      condition.equiv condition'
  | .cast value _ _, .cast value' _ _ => value.equiv value'
  | .function params body _ _ _, .function params' body' _ _ _ =>
      Tree.paramsEquiv params params' && Tree.stmtsEquiv body body'
  | .binary op lhs rhs _ _, .binary op' lhs' rhs' _ _ =>
      op == op' && lhs.equiv lhs' && rhs.equiv rhs'
  | .readProp receiver name _ _, .readProp receiver' name' _ _ =>
      receiver.equiv receiver' && name == name'
  | .readKey receiver index _ _, .readKey receiver' index' _ _ =>
      receiver.equiv receiver' && index.equiv index'
  | .array entries _ _, .array entries' _ _ => Tree.exprsEquiv entries entries'
  | .map entries _ _, .map entries' _ _ => Tree.entriesEquiv entries entries'
  | .comma parts _, .comma parts' _ => Tree.exprsEquiv parts parts'
  | _, _ => false
termination_by structural a => a

def Tree.exprsEquiv : List Expr → List Expr → Bool
  | [], [] => true
  | a :: as, b :: bs => a.equiv b && Tree.exprsEquiv as bs
  | _, _ => false
termination_by structural a => a

def Tree.optionEquiv : Option Expr → Option Expr → Bool
  | none, none => true
  | some a, some b => a.equiv b
  | _, _ => false
termination_by structural a => a

def MapEntry.equiv : MapEntry → MapEntry → Bool
  | ⟨key, value, _⟩, ⟨key', value', _⟩ => key == key' && value.equiv value'
termination_by structural a => a

def Tree.entriesEquiv : List MapEntry → List MapEntry → Bool
  | [], [] => true
  | a :: as, b :: bs => a.equiv b && Tree.entriesEquiv as bs
  | _, _ => false
termination_by structural a => a

def Stmt.equiv : Stmt → Stmt → Bool
  | .declareVar name value _ _ _, .declareVar name' value' _ _ _ =>
      name == name' && Tree.optionEquiv value value'
  | .declareFunction name params body _ _ _, .declareFunction name' params' body' _ _ _ =>
      name == name' && Tree.paramsEquiv params params' && Tree.stmtsEquiv body body'
  | .expr value _, .expr value' _ => value.equiv value'
  | .ret value _, .ret value' _ => value.equiv value'
  | .declareClass name parent fields getters ctor methods _ _,
      .declareClass name' parent' fields' getters' ctor' methods' _ _ =>
      name == name' && Tree.optionEquiv parent parent' &&
        Tree.fieldsEquiv fields fields' &&
        Tree.gettersEquiv getters getters' && ctor.equiv ctor' &&
        Tree.methodsEquiv methods methods'
  | .ifElse condition trueCase falseCase _, .ifElse condition' trueCase' falseCase' _ =>
      condition.equiv condition' && Tree.stmtsEquiv trueCase trueCase' &&
        Tree.stmtsEquiv falseCase falseCase'
  | .tryCatch body handler _, .tryCatch body' handler' _ =>
      Tree.stmtsEquiv body body' && Tree.stmtsEquiv handler handler'
  | .throw error _, .throw error' _ => error.equiv error'
  | .comment .., .comment .. => true
  | .docComment tags _, .docComment tags' _ => DocComment.equiv tags tags'
  | _, _ => false
termination_by structural a => a

def Tree.stmtsEquiv : List Stmt → List Stmt → Bool
  | [], [] => true
  | a :: as, b :: bs => a.equiv b && Tree.stmtsEquiv as bs
  | _, _ => false
termination_by structural a => a

def Getter.equiv : Getter → Getter → Bool
  | ⟨name, body, _, _⟩, ⟨name', body', _, _⟩ =>
      name == name' && Tree.stmtsEquiv body body'
termination_by structural a => a

def Tree.gettersEquiv : List Getter → List Getter → Bool
  | [], [] => true
  | a :: as, b :: bs => a.equiv b && Tree.gettersEquiv as bs
  | _, _ => false
termination_by structural a => a

def Method.equiv : Method → Method → Bool
  | ⟨name, _, body, _, _⟩, ⟨name', _, body', _, _⟩ =>
      name == name' && Tree.stmtsEquiv body body'
termination_by structural a => a

def Tree.methodsEquiv : List Method → List Method → Bool
  | [], [] => true
  | a :: as, b :: bs => a.equiv b && Tree.methodsEquiv as bs
  | _, _ => false
termination_by structural a => a

end

end CodeTree
