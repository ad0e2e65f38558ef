import CodeTree.Proofs.Equivalence.Core
import CodeTree.Proofs.Tree.Conversions

namespace CodeTree
namespace Expr

variable {t t' v v' w w' a b : Expr} {d d' : Stmt}

theorem assignError?_core (e : Expr) : e.core.assignError? = e.assignError? := by
  cases e with
  | readVar name type span => cases name <;> rfl
  | _ => rfl

theorem assignError?_eq_of_equiv (h : t.equiv t' = true) :
    t.assignError? = t'.assignError? := by
  have hcore : t.core = t'.core := equiv_iff.1 h
  rw [← assignError?_core, hcore, assignError?_core]

/-- Both assignments fail, with one and the same error, or both succeed. -/
def AssignAlike (t t' v v' : Expr) : Prop :=
  (∃ error, t.assign v = .error error ∧ t'.assign v' = .error error) ∨
    ∃ w w', t.assign v = .ok w ∧ t'.assign v' = .ok w'

theorem assignAlike_of_equiv (h : t.equiv t' = true) (v v' : Expr) :
    AssignAlike t t' v v' := by
  have herror : t.assignError? = t'.assignError? := assignError?_eq_of_equiv h
  cases hfails : t.assignError? with
  | some error =>
      rw [hfails] at herror
      exact .inl ⟨error, assign_eq_error_iff.2 hfails, assign_eq_error_iff.2 herror.symm⟩
  | none =>
      rw [hfails] at herror
      obtain ⟨w, hw⟩ := exists_assign_eq_ok_iff.2 hfails
      obtain ⟨w', hw'⟩ := exists_assign_eq_ok_iff.2 herror.symm
      exact .inr ⟨w, w', hw, hw'⟩

/-- The write has the kind that goes with the kind of its target, so writes to targets
of different kinds are no more equivalent than these targets. -/
theorem equiv_assign_iff (h : t.assign v = .ok w) (h' : t'.assign v' = .ok w') :
    w.equiv w' = true ↔ t.equiv t' = true ∧ v.equiv v' = true := by
  rcases assign_eq_ok h with ⟨name, type, span, rfl, rfl⟩ |
    ⟨receiver, name, type, span, rfl, rfl⟩ | ⟨receiver, index, type, span, rfl, rfl⟩
  · rcases assign_eq_ok h' with ⟨name', type', span', rfl, rfl⟩ |
      ⟨receiver', name', type', span', rfl, rfl⟩ |
      ⟨receiver', index', type', span', rfl, rfl⟩ <;>
    simp [mkWriteVar, mkWriteProp, mkWriteKey, equiv]
  · rcases assign_eq_ok h' with ⟨name', type', span', rfl, rfl⟩ |
      ⟨receiver', name', type', span', rfl, rfl⟩ |
      ⟨receiver', index', type', span', rfl, rfl⟩ <;>
    simp [mkWriteVar, mkWriteProp, mkWriteKey, equiv]
  · rcases assign_eq_ok h' with ⟨name', type', span', rfl, rfl⟩ |
      ⟨receiver', name', type', span', rfl, rfl⟩ |
      ⟨receiver', index', type', span', rfl, rfl⟩ <;>
    simp [mkWriteVar, mkWriteProp, mkWriteKey, equiv]

section Declarations

variable {type type' : Option Ty} {mods mods' : Modifiers}

theorem equiv_toVarDecl?_iff (h : a.toVarDecl? type mods = some d)
    (h' : b.toVarDecl? type' mods' = some d') : d.equiv d' = true ↔ a.equiv b = true := by
  obtain ⟨name, value, own, span, rfl, rfl⟩ := toVarDecl?_eq_some h
  obtain ⟨name', value', own', span', rfl, rfl⟩ := toVarDecl?_eq_some h'
  simp [Stmt.mkDeclareVar, Stmt.equiv, equiv, Tree.optionEquiv]

theorem equiv_toFunctionDecl?_iff {name name' : String}
    (h : a.toFunctionDecl? name mods = some d)
    (h' : b.toFunctionDecl? name' mods' = some d') :
    d.equiv d' = true ↔ name = name' ∧ a.equiv b = true := by
  obtain ⟨params, body, own, type, span, rfl, rfl⟩ := toFunctionDecl?_eq_some h
  obtain ⟨params', body', own', type', span', rfl, rfl⟩ := toFunctionDecl?_eq_some h'
  simp [Stmt.equiv, equiv, and_assoc]

end Declarations

/-- Conversions keep equivalence, and what they make of two expressions is equivalent
only where the expressions are. -/
theorem conversions_reflect_equivalence :
    (∀ t t' v v' : Expr, t.equiv t' = true → AssignAlike t t' v v') ∧
    (∀ t t' v v' w w' : Expr, t.assign v = .ok w → t'.assign v' = .ok w' →
      (w.equiv w' = true ↔ t.equiv t' = true ∧ v.equiv v' = true)) ∧
    (∀ a b : Expr, a.kind = .writeVar → b.kind = .writeVar → ∀ type mods type' mods',
      ∃ d d', a.toVarDecl? type mods = some d ∧ b.toVarDecl? type' mods' = some d' ∧
        (a.equiv b = true ↔ d.equiv d' = true)) ∧
    ∀ f g : Expr, f.kind = .function → g.kind = .function → ∀ name mods name' mods',
      ∃ d d', f.toFunctionDecl? name mods = some d ∧
        g.toFunctionDecl? name' mods' = some d' ∧
        (d.equiv d' = true ↔ name = name' ∧ f.equiv g = true) := by
  refine ⟨?alike, ?writes, ?varDecls, ?functionDecls⟩
  case alike =>
    intro t t' v v' h
    exact assignAlike_of_equiv h v v'
  case writes =>
    intro t t' v v' w w' h h'
    exact equiv_assign_iff h h'
  case varDecls =>
    intro a b ha hb type mods type' mods'
    obtain ⟨d, hd⟩ := exists_toVarDecl?_iff.2 ha
    obtain ⟨d', hd'⟩ := exists_toVarDecl?_iff.2 hb
    exact ⟨d, d', hd, hd', (equiv_toVarDecl?_iff hd hd').symm⟩
  case functionDecls =>
    intro f g hf hg name mods name' mods'
    obtain ⟨d, hd⟩ := exists_toFunctionDecl?_iff.2 hf
    obtain ⟨d', hd'⟩ := exists_toFunctionDecl?_iff.2 hg
    exact ⟨d, d', hd, hd', equiv_toFunctionDecl?_iff hd hd'⟩

/-- Elements of an array at the two zeros are assigned a function with and without a
name.  The function is then the value of a variable, and declared under two names. -/
theorem conversions_of_indexed_function :
    let target (sign : UInt64) : Expr :=
      .readKey .this (.literal (.number ⟨sign⟩) none none) (some Ty.int) none
    let function (name : Option String) : Expr :=
      .function [] [.ret .this none] name none none
    let write (sign : UInt64) (name : Option String) : Expr :=
      .writeKey .this (.literal (.number ⟨sign⟩) none none) (function name) none none
    let held (name : Option String) : Expr := .writeVar "x" (function name) none none
    (target 0).equiv (target 0x8000000000000000) = true ∧
      AssignAlike (target 0) (target 0x8000000000000000) (function none)
        (function (some "f")) ∧
      (target 0).assign (function none) = .ok (write 0 none) ∧
      (target 0x8000000000000000).assign (function (some "f")) =
        .ok (write 0x8000000000000000 (some "f")) ∧
      (write 0 none).equiv (write 0x8000000000000000 (some "f")) = true ∧
      (∃ d d', (held none).toVarDecl? none .none = some d ∧
        (held (some "f")).toVarDecl? (some Ty.function) .none = some d' ∧
        d.equiv d' = true) ∧
      ∃ d d', (function none).toFunctionDecl? "f" .none = some d ∧
        (function (some "f")).toFunctionDecl? "g" .none = some d' ∧
        ¬ d.equiv d' = true := by
  intro target function write held
  have htargets : (target 0).equiv (target 0x8000000000000000) = true := by rfl
  have hvalues : (function none).equiv (function (some "f")) = true := by rfl
  have hheld : (held none).equiv (held (some "f")) = true := by rfl
  obtain ⟨halike, hwrites, hvars, hfunctions⟩ := conversions_reflect_equivalence
  refine ⟨htargets, halike _ _ _ _ htargets, rfl, rfl, ?_, ?_, ?_⟩
  · exact (hwrites _ _ _ _ _ _ rfl rfl).2 ⟨htargets, hvalues⟩
  · obtain ⟨d, d', hd, hd', hiff⟩ :=
      hvars (held none) (held (some "f")) rfl rfl none .none (some Ty.function) .none
    exact ⟨d, d', hd, hd', hiff.1 hheld⟩
  · obtain ⟨d, d', hd, hd', hiff⟩ :=
      hfunctions (function none) (function (some "f")) rfl rfl "f" .none "g" .none
    refine ⟨d, d', hd, hd', ?_⟩
    intro hequiv
    exact absurd (hiff.1 hequiv).1 (by decide)

end Expr
end CodeTree
