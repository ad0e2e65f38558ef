import CodeTree.Tree.Build

namespace CodeTree
namespace Expr

variable {target value write e : Expr} {decl : Stmt} {type : Option Ty} {mods : Modifiers}

/-- What keeps an expression from being assigned to. -/
def assignError? : Expr → Option TreeError
  | .readVar (.named _) _ _ => none
  | .readVar (.builtin b) _ _ => some (.builtinAssigned b)
  | .readProp .. => none
  | .readKey .. => none
  | other => some (.notAssignable other.kind)

theorem assign_eq_error_iff {error : TreeError} :
    target.assign value = .error error ↔ target.assignError? = some error := by
  cases target with
  | readVar name type span => cases name <;> simp [assign, assignError?]
  | _ => simp [assign, assignError?]

theorem exists_assign_eq_ok_iff :
    (∃ write, target.assign value = .ok write) ↔ target.assignError? = none := by
  cases target with
  | readVar name type span => cases name <;> simp [assign, assignError?]
  | _ => simp [assign, assignError?]

theorem assign_eq_ok (h : target.assign value = .ok write) :
    (∃ name type span, target = .readVar (.named name) type span ∧
      write = .mkWriteVar name value none span) ∨
    (∃ receiver name type span, target = .readProp receiver name type span ∧
      write = .mkWriteProp receiver name value none span) ∨
    ∃ receiver index type span, target = .readKey receiver index type span ∧
      write = .mkWriteKey receiver index value none span := by
  cases target with
  | readVar name type span =>
      cases name with
      | named name => exact .inl ⟨name, type, span, rfl, (Except.ok.inj h).symm⟩
      | builtin b => cases h
  | readProp receiver name type span =>
      exact .inr (.inl ⟨receiver, name, type, span, rfl, (Except.ok.inj h).symm⟩)
  | readKey receiver index type span =>
      exact .inr (.inr ⟨receiver, index, type, span, rfl, (Except.ok.inj h).symm⟩)
  | _ => cases h

theorem exists_toVarDecl?_iff :
    (∃ decl, e.toVarDecl? type mods = some decl) ↔ e.kind = .writeVar := by
  cases e <;> simp [toVarDecl?, kind]

theorem toVarDecl?_eq_some (h : e.toVarDecl? type mods = some decl) :
    ∃ name value own span, e = .writeVar name value own span ∧
      decl = .mkDeclareVar name (some value) type mods span := by
  cases e with
  | writeVar name value own span =>
      exact ⟨name, value, own, span, rfl, (Option.some.inj h).symm⟩
  | _ => cases h

theorem exists_toFunctionDecl?_iff {name : String} :
    (∃ decl, e.toFunctionDecl? name mods = some decl) ↔ e.kind = .function := by
  cases e <;> simp [toFunctionDecl?, kind]

theorem toFunctionDecl?_eq_some {name : String}
    (h : e.toFunctionDecl? name mods = some decl) :
    ∃ params body own type span, e = .function params body own type span ∧
      decl = .declareFunction name params body type mods span := by
  cases e with
  | function params body own type span =>
      exact ⟨params, body, own, type, span, rfl, (Option.some.inj h).symm⟩
  | _ => cases h

end Expr
end CodeTree
