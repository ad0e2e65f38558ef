import CodeTree.Proofs.Equivalence.Core
import CodeTree.Proofs.Walk.PlainTypes

namespace CodeTree

open Route (nodes)

theorem Expr.readName?_core (e : Expr) : e.core.readName? = e.readName? :=
  readName?_relabel rfl e

theorem reads_eq_of_core {ss : List Stmt} (h : PlainTypes ss) :
    reads ss =
      ((nodes.stopAt Stmt.opensScope).exprsIn (ss.map Stmt.core)).filterMap
        Expr.readName? := by
  have hread : Expr.readName? ∘ Expr.core = Expr.readName? := funext Expr.readName?_core
  rw [← Stmt.relabel_core, Route.exprsIn_map_relabel, List.filterMap_map,
    Expr.relabel_core, hread, reads_eq_of_plainTypes h]

/-- Statements with plain types that are equivalent read the same names in the same
order. -/
theorem readNames_eq_of_equiv {as bs : List Stmt} (has : PlainTypes as)
    (hbs : PlainTypes bs)
    (h : Tree.stmtsEquiv as bs = true) : readNames as = readNames bs := by
  have hcore : as.map Stmt.core = bs.map Stmt.core := Tree.stmtsEquiv_iff.1 h
  have hreads : reads as = reads bs := by
    rw [reads_eq_of_core has, reads_eq_of_core hbs, hcore]
  rw [readNames_eq, readNames_eq, hreads]

-- A type that is not plain may read a variable, and equivalence does not look there.
example :
    let type : Ty := .expr (.readVar (.named "T") none none) .none
    let plain : Stmt := .ret (.literal .null none none) none
    let typed : Stmt := .ret (.literal .null (some type) none) none
    Tree.stmtsEquiv [plain] [typed] = true ∧ readNames [plain] = [] ∧
      readNames [typed] = ["T"] := by
  exact ⟨by rfl, by rfl, by rfl⟩

/-- A class and a function expression.  The parameters are what equivalence does not
look at: types, the name of the function, quotes and the initial value of a field. -/
def classAndFunction (type : Option Ty) (name : Option String) (quoted : Bool)
    (initial : Option Expr) : List Stmt :=
  let read (x : String) : Expr := .readVar (.named x) type none
  let ctor : Method :=
    { name := none, params := [], body := [.ret (read "hidden") none], type,
      mods := .none }
  let entries : Expr := .map [⟨"k", read "b", quoted⟩] type none
  [.declareClass "A" (some (read "hidden")) [⟨"f", type, .none, initial⟩] [] ctor []
      .none none,
    .expr
      (.function [⟨"x", type⟩] [.ret (.comma [entries, read "a", read "b"] none) none]
        name type none)
      none]

theorem readNames_classAndFunction :
    let as := classAndFunction (some (.array Ty.int .none)) (some "f") true none
    let bs := classAndFunction none none false (some (.readVar (.named "seed") none none))
    PlainTypes as ∧ PlainTypes bs ∧ Tree.stmtsEquiv as bs = true ∧
      readNames as = readNames bs ∧ readNames as = ["b", "a"] := by
  intro as bs
  have hplain : ∀ ss ∈ [as, bs], PlainTypes ss := by
    intro ss hss s hs value mods
    have hstmt : s = as[0] ∨ s = as[1] ∨ s = bs[0] ∨ s = bs[1] := by
      obtain rfl | rfl : ss = as ∨ ss = bs := by simpa using hss
      · rw [← or_assoc]
        exact .inl (by simpa [as, classAndFunction] using hs)
      · exact .inr (.inr (by simpa [bs, classAndFunction] using hs))
    rw [← Route.mem_trail_iff]
    obtain rfl | rfl | rfl | rfl := hstmt
    all_goals
      simp [as, bs, classAndFunction, Route.trail_eq, Route.stored, Phrase.parts,
        Stmt.parts, Expr.parts, Expr.innerParts, Expr.annotation?, Expr.type?, Ty.parts,
        Ty.int, Field.parts, Method.parts, Param.parts]
  have has : PlainTypes as := hplain as (by simp)
  have hbs : PlainTypes bs := hplain bs (by simp)
  have hequiv : Tree.stmtsEquiv as bs = true := by rfl
  exact ⟨has, hbs, hequiv, readNames_eq_of_equiv has hbs hequiv, by rfl⟩

end CodeTree
