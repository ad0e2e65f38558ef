import CodeTree.Tree

namespace CodeTree

namespace Ty

def kind : Ty → TyKind
  | .builtin .. => .builtin
  | .expr .. => .expr
  | .array .. => .array
  | .map .. => .map

def mods : Ty → TyModifiers
  | .builtin _ m => m
  | .expr _ m => m
  | .array _ m => m
  | .map _ m => m

def hasModifiers (t : Ty) (flags : TyModifiers) : Bool :=
  t.mods.contains flags

def mapValue? : Ty → Option Ty
  | .map value _ => value
  | _ => none

def dynamic : Ty := .builtin .dynamic .none
def inferred : Ty := .builtin .inferred .none
def bool : Ty := .builtin .bool .none
def int : Ty := .builtin .int .none
def number : Ty := .builtin .number .none
def string : Ty := .builtin .string .none
def function : Ty := .builtin .function .none

end Ty

/-- What each form of type becomes. -/
structure TyFold (α : Type) where
  builtin : BuiltinTy → α
  expr : Expr → α
  array : α → α
  map : Option α → α

mutual

def Ty.fold {α : Type} (f : TyFold α) : Ty → α
  | .builtin name _ => f.builtin name
  | .expr value _ => f.expr value
  | .array elem _ => f.array (elem.fold f)
  | .map value _ => f.map (Tree.foldTyOption f value)

def Tree.foldTyOption {α : Type} (f : TyFold α) : Option Ty → Option α
  | none => none
  | some t => some (t.fold f)

end

end CodeTree
