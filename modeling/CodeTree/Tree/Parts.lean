import CodeTree.Tree.TyFold

namespace CodeTree

namespace Expr

def kind : Expr → ExprKind
  | .readVar .. => .readVar
  | .writeVar .. => .writeVar
  | .writeKey .. => .writeKey
  | .writeProp .. => .writeProp
  | .callMethod .. => .callMethod
  | .call .. => .call
  | .instantiate .. => .instantiate
  | .literal .. => .literal
  | .external .. => .external
  | .conditional .. => .conditional
  | .not .. => .not
  | .assertNotNull .. => .assertNotNull
  | .cast .. => .cast
  | .function .. => .function
  | .binary .. => .binary
  | .readProp .. => .readProp
  | .readKey .. => .readKey
  | .array .. => .array
  | .map .. => .map
  | .comma .. => .comma

mutual

/-- The type an expression answers for: the stored one, except that a negation is always
a `bool` and a comma sequence has the type of its last part. -/
def type? : Expr → Option Ty
  | .readVar _ type _ => type
  | .writeVar _ _ type _ => type
  | .writeKey _ _ _ type _ => type
  | .writeProp _ _ _ type _ => type
  | .callMethod _ _ _ type _ => type
  | .call _ _ type _ => type
  | .instantiate _ _ type _ => type
  | .literal _ type _ => type
  | .external _ _ type _ => type
  | .conditional _ _ _ type _ => type
  | .not _ _ => some Ty.bool
  | .assertNotNull _ type _ => type
  | .cast _ type _ => type
  | .function _ _ _ type _ => type
  | .binary _ _ _ type _ => type
  | .readProp _ _ type _ => type
  | .readKey _ _ type _ => type
  | .array _ type _ => type
  | .map _ type _ => type
  | .comma parts _ => lastType? parts

def lastType? : List Expr → Option Ty
  | [] => none
  | [e] => e.type?
  | _ :: e :: es => lastType? (e :: es)

end

theorem lastType?_eq_getLast? (es : List Expr) :
    lastType? es = es.getLast?.bind type? := by
  induction es with
  | nil => rfl
  | cons e es ih =>
      cases es with
      | nil => rfl
      | cons e' es => rw [lastType?, ih, List.getLast?_cons_cons]

theorem lastType?_map {f : Expr → Expr} {g : Option Ty → Option Ty} {es : List Expr}
    (habsent : g none = none) (h : ∀ e ∈ es, (f e).type? = g e.type?) :
    lastType? (es.map f) = g (lastType? es) := by
  rw [lastType?_eq_getLast?, lastType?_eq_getLast?, List.getLast?_map]
  cases hlast : es.getLast? with
  | none => exact habsent.symm
  | some last => exact h last (List.mem_of_getLast? hlast)

def span? : Expr → Option Span
  | .readVar _ _ span => span
  | .writeVar _ _ _ span => span
  | .writeKey _ _ _ _ span => span
  | .writeProp _ _ _ _ span => span
  | .callMethod _ _ _ _ span => span
  | .call _ _ _ span => span
  | .instantiate _ _ _ span => span
  | .literal _ _ span => span
  | .external _ _ _ span => span
  | .conditional _ _ _ _ span => span
  | .not _ span => span
  | .assertNotNull _ _ span => span
  | .cast _ _ span => span
  | .function _ _ _ _ span => span
  | .binary _ _ _ _ span => span
  | .readProp _ _ _ span => span
  | .readKey _ _ _ span => span
  | .array _ _ span => span
  | .map _ _ span => span
  | .comma _ span => span

def withSpan (e : Expr) (span : Option Span) : Expr :=
  match e with
  | .readVar name type _ => .readVar name type span
  | .writeVar name value type _ => .writeVar name value type span
  | .writeKey receiver index value type _ => .writeKey receiver index value type span
  | .writeProp receiver name value type _ => .writeProp receiver name value type span
  | .callMethod receiver method args type _ => .callMethod receiver method args type span
  | .call callee args type _ => .call callee args type span
  | .instantiate cls args type _ => .instantiate cls args type span
  | .literal value type _ => .literal value type span
  | .external ref typeArgs type _ => .external ref typeArgs type span
  | .conditional condition trueCase falseCase type _ =>
      .conditional condition trueCase falseCase type span
  | .not condition _ => .not condition span
  | .assertNotNull condition type _ => .assertNotNull condition type span
  | .cast value type _ => .cast value type span
  | .function params body name type _ => .function params body name type span
  | .binary op lhs rhs type _ => .binary op lhs rhs type span
  | .readProp receiver name type _ => .readProp receiver name type span
  | .readKey receiver index type _ => .readKey receiver index type span
  | .array entries type _ => .array entries type span
  | .map entries type _ => .map entries type span
  | .comma parts _ => .comma parts span

@[simp] theorem span?_withSpan (e : Expr) (span : Option Span) :
    (e.withSpan span).span? = span := by
  cases e <;> rfl

def valueType? : Expr → Option Ty
  | .map _ (some type) _ => type.mapValue?
  | _ => none

end Expr

namespace Stmt

def kind : Stmt → StmtKind
  | .declareVar .. => .declareVar
  | .declareFunction .. => .declareFunction
  | .expr .. => .expr
  | .ret .. => .ret
  | .declareClass .. => .declareClass
  | .ifElse .. => .ifElse
  | .tryCatch .. => .tryCatch
  | .throw .. => .throw
  | .comment .. => .comment
  | .docComment .. => .docComment

def span? : Stmt → Option Span
  | .declareVar _ _ _ _ span => span
  | .declareFunction _ _ _ _ _ span => span
  | .expr _ span => span
  | .ret _ span => span
  | .declareClass _ _ _ _ _ _ _ span => span
  | .ifElse _ _ _ span => span
  | .tryCatch _ _ span => span
  | .throw _ span => span
  | .comment _ _ span => span
  | .docComment _ span => span

def withSpan (s : Stmt) (span : Option Span) : Stmt :=
  match s with
  | .declareVar name value type mods _ => .declareVar name value type mods span
  | .declareFunction name params body type mods _ =>
      .declareFunction name params body type mods span
  | .expr value _ => .expr value span
  | .ret value _ => .ret value span
  | .declareClass name parent fields getters ctor methods mods _ =>
      .declareClass name parent fields getters ctor methods mods span
  | .ifElse condition trueCase falseCase _ => .ifElse condition trueCase falseCase span
  | .tryCatch body handler _ => .tryCatch body handler span
  | .throw error _ => .throw error span
  | .comment text multiline _ => .comment text multiline span
  | .docComment tags _ => .docComment tags span

@[simp] theorem span?_withSpan (s : Stmt) (span : Option Span) :
    (s.withSpan span).span? = span := by
  cases s <;> rfl

/-- Only declarations carry modifiers; every other statement answers none. -/
def mods : Stmt → Modifiers
  | .declareVar _ _ _ mods _ => mods
  | .declareFunction _ _ _ _ mods _ => mods
  | .declareClass _ _ _ _ _ _ mods _ => mods
  | _ => .none

def hasModifiers (s : Stmt) (flags : Modifiers) : Bool :=
  s.mods.contains flags

def docBody? : Stmt → Option (Except TreeError String)
  | .docComment tags _ => some (DocComment.body tags)
  | _ => none

end Stmt

end CodeTree
