import CodeTree.Proofs.Equivalence.Core
import CodeTree.Tree.Build
import Mathlib.Logic.Relation

namespace CodeTree

/-! ## An equivalence relation -/

/-- A comparison, that of lists and that of parts that may be absent are equivalence
relations. -/
structure LawfulEquiv {α : Type} (equiv : α → α → Bool)
    (allEquiv : List α → List α → Bool) : Prop where
  one : Equivalence fun a b => equiv a b = true
  all : Equivalence fun as bs => allEquiv as bs = true
  present : Equivalence fun o o' => Tree.presentEquiv equiv o o' = true

theorem equivalence_of_core {α β : Type} {equiv : α → α → Bool} {core : α → β}
    (h : ∀ a b, equiv a b = true ↔ core a = core b) :
    Equivalence fun a b => equiv a b = true := by
  simp only [h]
  exact Equivalence.comap eq_equivalence core

theorem LawfulEquiv.of_core {α β : Type} {equiv : α → α → Bool}
    {allEquiv : List α → List α → Bool} {core : α → β}
    (hone : ∀ a b, equiv a b = true ↔ core a = core b)
    (hall : ∀ as bs, allEquiv as bs = as.isEqv bs equiv) :
    LawfulEquiv equiv allEquiv where
  one := equivalence_of_core hone
  all := equivalence_of_core (Tree.allEquiv_iff_map_eq hone hall)
  present := by
    have hmap : ∀ o o', Tree.presentEquiv equiv o o' = true ↔
        o.map core = o'.map core := by
      intro o o'
      exact Tree.presentEquiv_iff_map_eq (fun a _ => hone a) o'
    exact equivalence_of_core hmap

/-- Trees and their members, the literals in them and the comments on them are all
compared by equivalence relations.  Number literals are equivalent when they are the
same bits, both a NaN or both a zero. -/
theorem Tree.lawfulEquiv :
    LawfulEquiv Expr.equiv exprsEquiv ∧ LawfulEquiv Stmt.equiv stmtsEquiv ∧
      LawfulEquiv Param.equiv paramsEquiv ∧ LawfulEquiv MapEntry.equiv entriesEquiv ∧
      LawfulEquiv Field.equiv fieldsEquiv ∧ LawfulEquiv Getter.equiv gettersEquiv ∧
      LawfulEquiv Method.equiv methodsEquiv ∧
      (Equivalence fun a b : Literal => a.equiv b = true) ∧
      (Equivalence fun a b : List DocTag => DocComment.equiv a b = true) ∧
      ∀ x y, Literal.equiv (.number x) (.number y) = true ↔
        x = y ∨ (x.isNaN = true ∧ y.isNaN = true) ∨
          (x.isZero = true ∧ y.isZero = true) := by
  refine ⟨?exprs, ?stmts, ?params, ?entries, ?fields, ?getters, ?methods, ?literals,
    ?comments, ?numbers⟩
  case exprs => exact .of_core (fun _ _ => Expr.equiv_iff) exprsEquiv_eq
  case stmts => exact .of_core (fun _ _ => Stmt.equiv_iff) stmtsEquiv_eq
  case params => exact .of_core (fun _ _ => Param.equiv_iff) paramsEquiv_eq
  case entries => exact .of_core (fun _ _ => MapEntry.equiv_iff) entriesEquiv_eq
  case fields => exact .of_core (fun _ _ => Field.equiv_iff) fieldsEquiv_eq
  case getters => exact .of_core (fun _ _ => Getter.equiv_iff) gettersEquiv_eq
  case methods => exact .of_core (fun _ _ => Method.equiv_iff) methodsEquiv_eq
  case literals => exact equivalence_of_core fun _ _ => Literal.equiv_iff
  case comments => exact equivalence_of_core fun _ _ => DocComment.equiv_iff
  case numbers =>
    intro x y
    exact Number.sameValue_iff

/-! ## What is told apart -/

namespace Relabel

/-- Forgets what is no part of the value that a tree stands for. -/
def value : Relabel :=
  { core with functionName := id, keepInitializers := true, keepMethodParams := true }

/-- Forgets what matters to the value and is not compared all the same. -/
def overlook : Relabel where
  functionName _ := none
  keepInitializers := false
  keepMethodParams := false

theorem value_andThen_overlook : value.andThen overlook = core := rfl

theorem overlook_andThen_value : overlook.andThen value = core := rfl

end Relabel

section Trees

variable {a b : Expr} {s t : Stmt}

theorem Expr.overlook_relabel_value (e : Expr) :
    (e.relabel .value).relabel .overlook = e.core := by
  rw [relabel_relabel, Relabel.value_andThen_overlook, relabel_core]

theorem Stmt.overlook_relabel_value (s : Stmt) :
    (s.relabel .value).relabel .overlook = s.core := by
  rw [relabel_relabel, Relabel.value_andThen_overlook, relabel_core]

theorem Expr.core_eq_relabel_value (h : a.relabel .overlook = a) :
    a.core = a.relabel .value := by
  rw [← relabel_core, ← Relabel.overlook_andThen_value, ← relabel_relabel, h]

theorem Stmt.core_eq_relabel_value (h : s.relabel .overlook = s) :
    s.core = s.relabel .value := by
  rw [← relabel_core, ← Relabel.overlook_andThen_value, ← relabel_relabel, h]

theorem Expr.equiv_iff_overlook_eq :
    a.equiv b = true ↔
      (a.relabel .value).relabel .overlook = (b.relabel .value).relabel .overlook := by
  rw [equiv_iff, overlook_relabel_value, overlook_relabel_value]

theorem Stmt.equiv_iff_overlook_eq :
    s.equiv t = true ↔
      (s.relabel .value).relabel .overlook = (t.relabel .value).relabel .overlook := by
  rw [equiv_iff, overlook_relabel_value, overlook_relabel_value]

theorem Expr.equiv_iff_value_eq (ha : a.relabel .overlook = a)
    (hb : b.relabel .overlook = b) :
    a.equiv b = true ↔ a.relabel .value = b.relabel .value := by
  rw [equiv_iff, core_eq_relabel_value ha, core_eq_relabel_value hb]

theorem Stmt.equiv_iff_value_eq (hs : s.relabel .overlook = s)
    (ht : t.relabel .overlook = t) :
    s.equiv t = true ↔ s.relabel .value = t.relabel .value := by
  rw [equiv_iff, core_eq_relabel_value hs, core_eq_relabel_value ht]

end Trees

/-- Equivalence is equality of values up to the overlooked parts, and equality of values
where there are none of these. -/
theorem Tree.equiv_iff_value_eq_up_to_overlook (a b : Expr) (s t : Stmt) :
    (a.equiv b = true ↔
      (a.relabel .value).relabel .overlook = (b.relabel .value).relabel .overlook) ∧
    (s.equiv t = true ↔
      (s.relabel .value).relabel .overlook = (t.relabel .value).relabel .overlook) ∧
    (a.relabel .overlook = a → b.relabel .overlook = b →
      (a.equiv b = true ↔ a.relabel .value = b.relabel .value)) ∧
    (s.relabel .overlook = s → t.relabel .overlook = t →
      (s.equiv t = true ↔ s.relabel .value = t.relabel .value)) := by
  refine ⟨?exprs, ?stmts, ?plainExprs, ?plainStmts⟩
  case exprs => exact Expr.equiv_iff_overlook_eq
  case stmts => exact Stmt.equiv_iff_overlook_eq
  case plainExprs => exact Expr.equiv_iff_value_eq
  case plainStmts => exact Stmt.equiv_iff_value_eq

namespace Tree

/-- A class with a field that starts as given, and a method with the given parameters
that returns `x`. -/
def memberClass (initial : Option Expr) (params : List Param) : Stmt :=
  let x : Expr := .readVar (.named "x") none none
  let ctor : Method :=
    { name := none, params := [], body := [], type := none, mods := .none }
  let method : Method :=
    { name := some "m", params, body := [.ret x none], type := none, mods := .none }
  .declareClass "A" none [⟨"f", none, .none, initial⟩] [] ctor [method] .none none

/-- A function expression that returns what `f` stands for inside of it. -/
def returningF (name : Option String) : Expr :=
  .function [] [.ret (.readVar (.named "f") none none) none] name none none

/-- What a field starts with, whether a method reads its own parameter, and which
function a function expression reads by name all matter, and equivalence sees no
difference. -/
theorem equiv_of_values_that_differ :
    ((memberClass none []).equiv (memberClass (some .null) []) = true ∧
      (memberClass none []).relabel .value ≠
        (memberClass (some .null) []).relabel .value) ∧
    ((memberClass none []).equiv (memberClass none [⟨"x", none⟩]) = true ∧
      (memberClass none []).relabel .value ≠
        (memberClass none [⟨"x", none⟩]).relabel .value) ∧
    ((returningF none).equiv (returningF (some "f")) = true ∧
      (returningF none).relabel .value ≠ (returningF (some "f")).relabel .value) := by
  refine ⟨⟨by rfl, ?initial⟩, ⟨by rfl, ?params⟩, ⟨by rfl, ?name⟩⟩
  case initial =>
    simp [memberClass, Stmt.relabel, Field.relabel, Relabel.value, Expr.null]
  case params => simp [memberClass, Stmt.relabel, Method.relabel, Relabel.value]
  case name => simp [returningF, Expr.relabel, Relabel.value]

def zeroLiteral : Expr := .literal (.number ⟨0⟩) none none

def minusZeroLiteral : Expr :=
  .literal (.number ⟨0x8000000000000000⟩) (some Ty.number) none

/-- Two zeros are one value, and so are two plain comments. -/
theorem value_eq_of_zeros_and_comments :
    zeroLiteral.relabel .overlook = zeroLiteral ∧
      minusZeroLiteral.relabel .overlook = minusZeroLiteral ∧
      (Stmt.comment "one" false none).relabel .overlook = .comment "one" false none ∧
      (Stmt.comment "two" true none).relabel .overlook = .comment "two" true none ∧
      zeroLiteral.relabel .value = minusZeroLiteral.relabel .value ∧
      (Stmt.comment "one" false none).relabel .value =
        (Stmt.comment "two" true none).relabel .value := by
  obtain ⟨-, -, hexpr, hstmt⟩ :=
    equiv_iff_value_eq_up_to_overlook zeroLiteral minusZeroLiteral
      (.comment "one" false none) (.comment "two" true none)
  have hzeros : zeroLiteral.equiv minusZeroLiteral = true := by rfl
  have hcomments :
      (Stmt.comment "one" false none).equiv (.comment "two" true none) = true := by rfl
  exact ⟨rfl, rfl, rfl, rfl, (hexpr rfl rfl).1 hzeros, (hstmt rfl rfl).1 hcomments⟩

end Tree

end CodeTree
