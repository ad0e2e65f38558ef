import CodeTree.Proofs.Walk.ReadNames

/-!
# Parents of classes

The collection of names passes the whole declaration of a class by, not only the bodies
of its members.  What it lacks is what the parents read.
-/

namespace CodeTree

open Route (stored)

def Phrase.classParent? : Phrase → Option Expr
  | .stmt (.declareClass _ parent _ _ _ _ _ _) => parent
  | _ => none

theorem Phrase.classParent_mem_parts {p : Phrase} {parent : Expr}
    (h : p.classParent? = some parent) : .expr parent ∈ p.parts := by
  cases p with
  | stmt s =>
      cases s with
      | declareClass name superclass =>
          obtain rfl : superclass = some parent := h
          simp [parts, Stmt.parts]
      | _ => cases h
  | _ => cases h

namespace Route

/-- The route through what is stored outside the functions and classes that are
declared. -/
def outside : Route :=
  stored.stopAt Stmt.opensScope

/-- The same route, going on from a class to its parent. -/
def intoParents : Route where
  next p := outside.next p ++ p.classParent?.toList.map .expr
  descends p q h := by
    rcases List.mem_append.1 h with hnext | hparent
    · exact outside.descends p q hnext
    · obtain ⟨parent, hclass, rfl⟩ :
          ∃ parent, p.classParent? = some parent ∧ .expr parent = q := by
        simpa using hparent
      exact Phrase.weight_lt_of_mem_parts (Phrase.classParent_mem_parts hclass)

theorem next_intoParents (p : Phrase) :
    intoParents.next p = outside.next p ++ p.classParent?.toList.map .expr := rfl

theorem mem_next_intoParents {p q : Phrase} :
    q ∈ intoParents.next p ↔
      q ∈ outside.next p ∨ ∃ parent, p.classParent? = some parent ∧ .expr parent = q := by
  simp [next_intoParents]

/-- Either no parent is passed on the way, or the first one that is passed belongs to a
class outside all others. -/
theorem reaches_intoParents_iff {p q : Phrase} :
    intoParents.Reaches p q ↔
      outside.Reaches p q ∨ ∃ cls parent, outside.Reaches p cls ∧
        cls.classParent? = some parent ∧ intoParents.Reaches (.expr parent) q := by
  have hmono : ∀ p, outside.next p ⊆ intoParents.next p :=
    fun p q hq => mem_next_intoParents.2 (.inl hq)
  constructor
  · intro h
    induction h with
    | here p => exact .inl (.here p)
    | onward step rest ih =>
        rcases mem_next_intoParents.1 step with hnext | ⟨parent, hparent, rfl⟩
        · rcases ih with hwithout | ⟨cls, parent, hcls, hparent, hbelow⟩
          · exact .inl (.onward hnext hwithout)
          · exact .inr ⟨cls, parent, .onward hnext hcls, hparent, hbelow⟩
        · exact .inr ⟨_, parent, .here _, hparent, rest⟩
  · rintro (hwithout | ⟨cls, parent, hcls, hparent, hbelow⟩)
    · exact hwithout.mono hmono
    · have hstep : .expr parent ∈ intoParents.next cls :=
        mem_next_intoParents.2 (.inr ⟨parent, hparent, rfl⟩)
      exact (hcls.mono hmono).trans (.onward hstep hbelow)

end Route

open Route (outside intoParents)

/-! ## What parents read -/

/-- The names that are read in an expression, also in the parents of the classes that
are declared in it. -/
def Expr.namesRead (e : Expr) : List String :=
  (intoParents.exprs (.expr e)).filterMap readName?

/-- The names that are read outside the functions and classes that the statements
declare and in the parents of these classes, in the order of the reads. -/
def readsWithParents (ss : List Stmt) : List String :=
  (intoParents.exprsIn ss).filterMap Expr.readName?

/-- The parents of the classes that are declared outside functions and other classes. -/
def classParents (ss : List Stmt) : List Expr :=
  (ss.flatMap fun s => outside.trail (.stmt s)).filterMap Phrase.classParent?

theorem mem_classParents_iff {ss : List Stmt} {parent : Expr} :
    parent ∈ classParents ss ↔
      ∃ s ∈ ss, ∃ cls, outside.Reaches (.stmt s) cls ∧
        cls.classParent? = some parent := by
  simp only [classParents, List.mem_filterMap, List.mem_flatMap, Route.mem_trail_iff]
  constructor
  · rintro ⟨cls, ⟨s, hs, hcls⟩, hparent⟩
    exact ⟨s, hs, cls, hcls, hparent⟩
  · rintro ⟨s, hs, cls, hcls, hparent⟩
    exact ⟨cls, ⟨s, hs, hcls⟩, hparent⟩

theorem mem_readsWithParents_iff {ss : List Stmt} {name : String} :
    name ∈ readsWithParents ss ↔
      name ∈ reads ss ∨ ∃ parent ∈ classParents ss, name ∈ parent.namesRead := by
  simp only [readsWithParents, reads, Expr.namesRead, mem_classParents_iff,
    List.mem_filterMap, Route.mem_exprsIn_iff, Route.mem_exprs_iff]
  constructor
  · rintro ⟨e, ⟨s, hs, hreaches⟩, hname⟩
    rcases Route.reaches_intoParents_iff.1 hreaches with
      hwithout | ⟨cls, parent, hcls, hparent, he⟩
    · exact .inl ⟨e, ⟨s, hs, hwithout⟩, hname⟩
    · exact .inr ⟨parent, ⟨s, hs, cls, hcls, hparent⟩, e, he, hname⟩
  · rintro (⟨e, ⟨s, hs, hwithout⟩, hname⟩ |
      ⟨parent, ⟨s, hs, cls, hcls, hparent⟩, e, he, hname⟩)
    · exact ⟨e, ⟨s, hs, Route.reaches_intoParents_iff.2 (.inl hwithout)⟩, hname⟩
    · exact ⟨e, ⟨s, hs, Route.reaches_intoParents_iff.2
        (.inr ⟨cls, parent, hcls, hparent, he⟩)⟩, hname⟩

theorem filterMap_exprs_intoParents {p : Phrase}
    (h : ∀ cls parent, outside.Reaches p cls → cls.classParent? = some parent →
      parent.namesRead = []) :
    (intoParents.exprs p).filterMap Expr.readName? =
      (outside.exprs p).filterMap Expr.readName? := by
  induction p using outside.induction with
  | phrase p ih =>
      have hparts :
          ((outside.next p).flatMap intoParents.exprs).filterMap Expr.readName? =
          ((outside.next p).flatMap outside.exprs).filterMap Expr.readName? := by
        rw [List.filterMap_flatMap, List.filterMap_flatMap]
        refine List.flatMap_congr fun q hq => ih q hq ?_
        intro cls parent hcls
        exact h cls parent (.onward hq hcls)
      have hparents : ((p.classParent?.toList.map Phrase.expr).flatMap
          intoParents.exprs).filterMap Expr.readName? = [] := by
        cases hparent : p.classParent? with
        | none => rfl
        | some parent =>
            rw [Option.toList_some, List.map_singleton, List.flatMap_singleton]
            exact h p parent (.here p) hparent
      rw [Route.exprs_eq, Route.exprs_eq outside, Route.next_intoParents,
        List.flatMap_append, List.filterMap_append, List.filterMap_append,
        List.filterMap_append, hparts, hparents, List.append_nil]

theorem readsWithParents_eq_reads {ss : List Stmt}
    (h : ∀ parent ∈ classParents ss, parent.namesRead = []) :
    readsWithParents ss = reads ss := by
  rw [readsWithParents, reads, Route.exprsIn, Route.exprsIn, List.filterMap_flatMap,
    List.filterMap_flatMap]
  refine List.flatMap_congr fun s hs => filterMap_exprs_intoParents ?_
  intro cls parent hcls hparent
  exact h parent (mem_classParents_iff.2 ⟨s, hs, cls, hcls, hparent⟩)

/-- The result lacks the names that are read in parents of classes and nowhere else
outside the declarations.  Where no parent reads a name, it lacks nothing, and the order
is right as well. -/
theorem readNames_all_but_parents (ss : List Stmt) :
    (∀ name, name ∈ readsWithParents ss ↔
      name ∈ readNames ss ∨ ∃ parent ∈ classParents ss, name ∈ parent.namesRead) ∧
    (∀ name, name ∈ readsWithParents ss ∧ name ∉ readNames ss ↔
      (∃ parent ∈ classParents ss, name ∈ parent.namesRead) ∧
        ∀ s ∈ ss, ∀ type span,
          ¬ outside.Reaches (.stmt s) (.expr (.readVar (.named name) type span))) ∧
    ((∀ parent ∈ classParents ss, parent.namesRead = []) →
      readNames ss = ReadNames.firsts (readsWithParents ss)) := by
  have hmem : ∀ name, name ∈ readNames ss ↔ name ∈ reads ss := by
    intro name
    rw [readNames_eq, ReadNames.mem_firsts_iff]
  refine ⟨?parents, ?lacking, ?complete⟩
  case parents =>
    intro name
    rw [hmem, mem_readsWithParents_iff]
  case lacking =>
    intro name
    have hnowhere : name ∉ reads ss ↔ ∀ s ∈ ss, ∀ type span,
        ¬ outside.Reaches (.stmt s) (.expr (.readVar (.named name) type span)) := by
      rw [mem_reads_iff]
      simp [outside]
    rw [hmem, mem_readsWithParents_iff, hnowhere, or_and_right, ← hnowhere,
      and_not_self_iff, false_or]
  case complete =>
    intro h
    rw [readNames_eq, readsWithParents_eq_reads h]

def derivedClass (parent : Expr) : Stmt :=
  .declareClass "A" (some parent) [] []
    { name := none, params := [], body := [], type := none, mods := .none } [] .none none

/-- Classes in a branch and in a function expression, with a builtin variable for their
parent. -/
theorem readNames_of_builtinParents :
    let read (name : String) : Expr := .readVar (.named name) none none
    let this : Expr := .readVar (.builtin .this) none none
    let ss : List Stmt :=
      [.ifElse (read "b") [derivedClass this] [] none,
        .expr
          (.function [] [derivedClass this, .ret (read "a") none] none none none) none]
    (∀ parent ∈ classParents ss, parent.namesRead = []) ∧
      readNames ss = ReadNames.firsts (readsWithParents ss) ∧
        readNames ss = ["b", "a"] := by
  intro read this ss
  have hthis : this.namesRead = [] := by
    simp [this, Expr.namesRead, Route.exprs_eq, Route.next_intoParents, outside,
      Route.stopAt, stored, Phrase.parts, Expr.parts, Expr.innerParts, Expr.annotation?,
      Expr.type?, Phrase.classParent?, Phrase.expr?, Expr.readName?]
  have hparents : classParents ss = [this, this] := by
    simp [ss, this, read, classParents, derivedClass, Route.trail_eq, outside,
      Route.stopAt, stored, Phrase.parts, Stmt.parts, Stmt.opensScope, Expr.parts,
      Expr.innerParts, Expr.annotation?, Expr.type?, List.filterMap_cons,
      Phrase.classParent?]
  have hnothing : ∀ parent ∈ classParents ss, parent.namesRead = [] := by
    simp [hparents, hthis]
  exact ⟨hnothing, (readNames_all_but_parents ss).2.2 hnothing, by rfl⟩

/-- The name of the parent is read where the class is declared, and it is not in the
result. -/
theorem readNames_of_derivedClass :
    let base : Expr := .readVar (.named "B") none none
    base ∈ classParents [derivedClass base] ∧ "B" ∈ base.namesRead ∧
      readNames [derivedClass base] = [] ∧
      ¬ ∀ ss, ∀ parent ∈ classParents ss,
        ∀ name ∈ parent.namesRead, name ∈ readNames ss := by
  intro base
  have hparent : base ∈ classParents [derivedClass base] :=
    mem_classParents_iff.2 ⟨_, List.mem_singleton.2 rfl, _, .here _, rfl⟩
  have hread : "B" ∈ base.namesRead :=
    List.mem_filterMap.2 ⟨base, (Route.mem_exprs_iff _).2 (.here _), rfl⟩
  have hresult : readNames [derivedClass base] = [] := by rfl
  refine ⟨hparent, hread, hresult, ?_⟩
  intro hall
  have hmem : "B" ∈ readNames [derivedClass base] := hall _ base hparent "B" hread
  rw [hresult] at hmem
  cases hmem

end CodeTree
