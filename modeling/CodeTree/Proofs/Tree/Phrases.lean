import CodeTree.Proofs.Tree.Nodes

/-!
# Phrases of a tree

A phrase is a type, an expression or a statement.  Its parts include types, and through
types the expressions in them.  A route says where to go on from each phrase.
-/

namespace CodeTree

inductive Phrase where
  | ty (t : Ty)
  | expr (e : Expr)
  | stmt (s : Stmt)

namespace Phrase

def expr? : Phrase → Option Expr
  | .expr e => some e
  | _ => none

end Phrase

/-! ## Parts -/

def Ty.parts : Ty → List Phrase
  | .builtin .. => []
  | .expr value _ => [.expr value]
  | .array elem _ => [.ty elem]
  | .map value _ => value.toList.map .ty

def Param.parts (param : Param) : List Phrase :=
  param.type.toList.map .ty

/-- The type that is stored with an expression.  A negation and a comma sequence store
none. -/
def Expr.annotation? : Expr → Option Ty
  | .not .. => none
  | .comma .. => none
  | e => e.type?

/-- The type that an expression answers for without storing it. -/
def Expr.computedType? : Expr → Option Ty
  | .not .. => some Ty.bool
  | .comma parts _ => lastType? parts
  | _ => none

/-- The parts in the fields of an expression, without its annotation. -/
def Expr.innerParts : Expr → List Phrase
  | .readVar .. => []
  | .writeVar _ value _ _ => [.expr value]
  | .writeKey receiver index value _ _ => [.expr receiver, .expr index, .expr value]
  | .writeProp receiver _ value _ _ => [.expr receiver, .expr value]
  | .callMethod receiver _ args _ _ => .expr receiver :: args.map .expr
  | .call callee args _ _ => .expr callee :: args.map .expr
  | .instantiate cls args _ _ => .expr cls :: args.map .expr
  | .literal .. => []
  | .external _ typeArgs _ _ => (typeArgs.getD []).map .ty
  | .conditional condition trueCase falseCase _ _ =>
      .expr condition :: .expr trueCase :: falseCase.toList.map .expr
  | .not condition _ => [.expr condition]
  | .assertNotNull condition _ _ => [.expr condition]
  | .cast value _ _ => [.expr value]
  | .function params body _ _ _ => params.flatMap Param.parts ++ body.map .stmt
  | .binary _ lhs rhs _ _ => [.expr lhs, .expr rhs]
  | .readProp receiver _ _ _ => [.expr receiver]
  | .readKey receiver index _ _ => [.expr receiver, .expr index]
  | .array entries _ _ => entries.map .expr
  | .map entries _ _ => entries.map fun entry => .expr entry.value
  | .comma parts _ => parts.map .expr

def Expr.parts (e : Expr) : List Phrase :=
  e.innerParts ++ e.annotation?.toList.map .ty

theorem Expr.innerParts_append_type (e : Expr) :
    e.innerParts ++ e.type?.toList.map .ty =
      e.parts ++ e.computedType?.toList.map .ty := by
  cases e <;> simp [parts, annotation?, computedType?, type?]

def Field.parts (field : Field) : List Phrase :=
  field.type.toList.map .ty ++ field.initializer.toList.map .expr

def Getter.parts (getter : Getter) : List Phrase :=
  getter.body.map .stmt ++ getter.type.toList.map .ty

def Method.parts (method : Method) : List Phrase :=
  method.params.flatMap Param.parts ++ method.body.map .stmt ++ method.type.toList.map .ty

def Stmt.parts : Stmt → List Phrase
  | .declareVar _ value type _ _ => value.toList.map .expr ++ type.toList.map .ty
  | .declareFunction _ params body type _ _ =>
      params.flatMap Param.parts ++ body.map .stmt ++ type.toList.map .ty
  | .expr value _ => [.expr value]
  | .ret value _ => [.expr value]
  | .declareClass _ parent fields getters ctor methods _ _ =>
      parent.toList.map .expr ++ fields.flatMap Field.parts ++
        getters.flatMap Getter.parts ++ ctor.parts ++ methods.flatMap Method.parts
  | .ifElse condition trueCase falseCase _ =>
      .expr condition :: (trueCase.map .stmt ++ falseCase.map .stmt)
  | .tryCatch body handler _ => body.map .stmt ++ handler.map .stmt
  | .throw error _ => [.expr error]
  | .comment .. => []
  | .docComment .. => []

namespace Phrase

def parts : Phrase → List Phrase
  | .ty t => t.parts
  | .expr e => e.parts
  | .stmt s => s.parts

def computedType? : Phrase → Option Ty
  | .expr e => e.computedType?
  | _ => none

end Phrase

/-! ## Children are the parts that are nodes -/

namespace Phrase

def node? : Phrase → Option Node
  | .ty _ => none
  | .expr e => some (.expr e)
  | .stmt s => some (.stmt s)

end Phrase

namespace Node

def phrase : Node → Phrase
  | .expr e => .expr e
  | .stmt s => .stmt s

@[simp] theorem phrase_expr (e : Expr) : (expr e).phrase = .expr e := rfl

@[simp] theorem phrase_stmt (s : Stmt) : (stmt s).phrase = .stmt s := rfl

end Node

open Phrase (node?)

theorem Param.filterMap_node?_parts (param : Param) :
    param.parts.filterMap node? = [] := by
  simp [parts, node?]

theorem Field.filterMap_node?_parts (field : Field) :
    field.parts.filterMap node? = field.initializer.toList.map .expr := by
  simp [parts, node?, Function.comp_def]

theorem Getter.filterMap_node?_parts (getter : Getter) :
    getter.parts.filterMap node? = getter.body.map .stmt := by
  simp [parts, node?, Function.comp_def]

theorem Method.filterMap_node?_parts (method : Method) :
    method.parts.filterMap node? = method.body.map .stmt := by
  simp [parts, node?, Function.comp_def, List.filterMap_flatMap,
    Param.filterMap_node?_parts]

theorem Expr.filterMap_node?_innerParts (e : Expr) :
    e.innerParts.filterMap node? = e.children := by
  cases e <;>
    simp [innerParts, children, node?, Function.comp_def, List.filterMap_flatMap,
      Param.filterMap_node?_parts]

theorem Stmt.filterMap_node?_parts (s : Stmt) : s.parts.filterMap node? = s.children := by
  cases s <;>
    simp [parts, children, node?, Function.comp_def, List.filterMap_flatMap,
      Param.filterMap_node?_parts, Field.filterMap_node?_parts,
      Getter.filterMap_node?_parts, Method.filterMap_node?_parts]

theorem Expr.filterMap_node?_parts (e : Expr) : e.parts.filterMap node? = e.children := by
  have htype : (e.annotation?.toList.map Phrase.ty).filterMap node? = [] := by
    simp [node?, Function.comp_def]
  rw [parts, List.filterMap_append, htype, List.append_nil, filterMap_node?_innerParts]

namespace Phrase

/-- The nodes among the parts of an expression or a statement.  A type has none. -/
def children : Phrase → List Node
  | .ty _ => []
  | .expr e => e.children
  | .stmt s => s.children

theorem phrase_of_node? {p : Phrase} {n : Node} (h : p.node? = some n) :
    n.phrase = p := by
  cases p with
  | ty t => cases h
  | expr e => rw [← Option.some.inj h, Node.phrase_expr]
  | stmt s => rw [← Option.some.inj h, Node.phrase_stmt]

theorem phrase_mem_parts {p : Phrase} {n : Node} (h : n ∈ p.children) :
    n.phrase ∈ p.parts := by
  have hnode : n ∈ p.parts.filterMap node? := by
    cases p with
    | ty t => cases h
    | expr e => rwa [parts, Expr.filterMap_node?_parts]
    | stmt s => rwa [parts, Stmt.filterMap_node?_parts]
  obtain ⟨q, hq, hsame⟩ := List.mem_filterMap.1 hnode
  rwa [phrase_of_node? hsame]

end Phrase

/-! ## Parts are smaller -/

theorem Ty.sizeOf_lt_of_mem_parts {t : Ty} {p : Phrase} (h : p ∈ t.parts) :
    sizeOf p < sizeOf (Phrase.ty t) := by
  cases t <;> simp [parts] at h
  all_goals grind

theorem Param.sizeOf_lt_of_mem_parts {param : Param} {p : Phrase} (h : p ∈ param.parts) :
    sizeOf p < sizeOf param := by
  cases param
  simp [parts] at h
  grind

theorem Field.sizeOf_lt_of_mem_parts {field : Field} {p : Phrase} (h : p ∈ field.parts) :
    sizeOf p < sizeOf field := by
  cases field
  simp [parts] at h
  grind

theorem Getter.sizeOf_lt_of_mem_parts {getter : Getter} {p : Phrase}
    (h : p ∈ getter.parts) : sizeOf p < sizeOf getter := by
  cases getter
  simp [parts] at h
  grind [→ List.sizeOf_lt_of_mem]

theorem Method.sizeOf_lt_of_mem_parts {method : Method} {p : Phrase}
    (h : p ∈ method.parts) : sizeOf p < sizeOf method := by
  cases method
  simp [parts] at h
  grind [→ List.sizeOf_lt_of_mem, → Param.sizeOf_lt_of_mem_parts]

theorem Expr.sizeOf_lt_of_mem_innerParts {e : Expr} {p : Phrase} (h : p ∈ e.innerParts) :
    sizeOf p < sizeOf (Phrase.expr e) := by
  cases e <;> simp [innerParts] at h
  case external ref typeArgs type span =>
    cases typeArgs with
    | none => simp at h
    | some ts => grind [→ List.sizeOf_lt_of_mem]
  all_goals
    grind [→ List.sizeOf_lt_of_mem, → Param.sizeOf_lt_of_mem_parts,
      MapEntry.sizeOf_value_lt]

theorem Stmt.sizeOf_lt_of_mem_parts {s : Stmt} {p : Phrase} (h : p ∈ s.parts) :
    sizeOf p < sizeOf (Phrase.stmt s) := by
  cases s <;> simp [parts] at h
  all_goals
    grind [→ List.sizeOf_lt_of_mem, → Param.sizeOf_lt_of_mem_parts,
      → Field.sizeOf_lt_of_mem_parts, → Getter.sizeOf_lt_of_mem_parts,
      → Method.sizeOf_lt_of_mem_parts]

theorem Expr.sizeOf_lt_of_mem_parts {e : Expr} {p : Phrase} (h : p ∈ e.parts) :
    sizeOf p < sizeOf (Phrase.expr e) := by
  rcases List.mem_append.1 h with hinner | htype
  · exact sizeOf_lt_of_mem_innerParts hinner
  · obtain ⟨t, ht, rfl⟩ : ∃ t, e.annotation? = some t ∧ .ty t = p := by simpa using htype
    cases e <;> simp [annotation?, type?] at ht
    all_goals grind

theorem Expr.annotation_or_computedType {e : Expr} {t : Ty} (h : e.type? = some t) :
    e.annotation? = some t ∨ e.computedType? = some t := by
  cases e <;> simp_all [annotation?, computedType?, type?]

theorem Expr.type?_eq_of_computedType {e : Expr} {t : Ty} (h : e.computedType? = some t) :
    e.type? = some t := by
  cases e <;> first | exact h | cases h

theorem Expr.eq_bool_or_type_of_child {e : Expr} {t : Ty} (h : e.computedType? = some t) :
    t = Ty.bool ∨ ∃ c, .expr c ∈ e.children ∧ c.type? = some t := by
  cases e with
  | not condition span =>
      left
      exact (Option.some.inj h).symm
  | comma parts span =>
      right
      rw [computedType?, lastType?_eq_getLast?] at h
      obtain ⟨last, hlast, htype⟩ := Option.bind_eq_some_iff.1 h
      exact ⟨last, List.mem_map_of_mem (List.mem_of_getLast? hlast), htype⟩
  | _ => cases h

/-- Builtin types have no weight, so that the type of a negation, which is not stored in
it, is lighter than the negation. -/
noncomputable def Phrase.weight : Phrase → Nat
  | .ty (.builtin ..) => 0
  | p => sizeOf p

theorem Phrase.weight_le_sizeOf (p : Phrase) : p.weight ≤ sizeOf p := by
  cases p with
  | ty t => cases t <;> simp [weight]
  | _ => simp [weight]

theorem Phrase.weight_lt_of_mem_parts {p q : Phrase} (h : q ∈ p.parts) :
    q.weight < p.weight := by
  have hle := q.weight_le_sizeOf
  cases p with
  | ty t =>
      have hlt := Ty.sizeOf_lt_of_mem_parts h
      cases t with
      | builtin name mods => simp [parts, Ty.parts] at h
      | _ => exact Nat.lt_of_le_of_lt hle hlt
  | expr e => exact Nat.lt_of_le_of_lt hle (Expr.sizeOf_lt_of_mem_parts h)
  | stmt s => exact Nat.lt_of_le_of_lt hle (Stmt.sizeOf_lt_of_mem_parts h)

theorem Expr.weight_type_lt {e : Expr} {t : Ty} (h : e.type? = some t) :
    (Phrase.ty t).weight < (Phrase.expr e).weight := by
  -- A computed type is stored in some part, or in a part of a part, and so on.
  induction e using Expr.induction with
  | expr e ih =>
      rcases annotation_or_computedType h with hstored | hcomputed
      · exact Phrase.weight_lt_of_mem_parts (p := .expr e)
          (List.mem_append_right _ (by simp [hstored]))
      · rcases eq_bool_or_type_of_child hcomputed with rfl | ⟨c, hc, htype⟩
        · have hexpr : (Phrase.expr e).weight = 1 + sizeOf e := Phrase.expr.sizeOf_spec e
          rw [hexpr]
          exact Nat.lt_of_lt_of_le Nat.one_pos (Nat.le_add_right 1 _)
        · have hlight := ih c hc htype
          have hsize := sizeOf_lt_of_mem_children hc
          simp only [Phrase.weight, Phrase.expr.sizeOf_spec, Node.expr.sizeOf_spec] at *
          omega

theorem Phrase.weight_computedType_lt {p : Phrase} {t : Ty}
    (h : p.computedType? = some t) : (Phrase.ty t).weight < p.weight := by
  cases p with
  | expr e => exact Expr.weight_type_lt (Expr.type?_eq_of_computedType h)
  | _ => cases h

/-! ## Routes -/

/-- Where to go on from each phrase, always to something lighter. -/
structure Route where
  next : Phrase → List Phrase
  descends : ∀ p, ∀ q ∈ next p, q.weight < p.weight

namespace Route

variable (r : Route)

theorem induction {motive : Phrase → Prop}
    (phrase : ∀ p, (∀ q ∈ r.next p, motive q) → motive p) (p : Phrase) : motive p :=
  phrase p fun q _ => induction phrase q
termination_by p.weight
decreasing_by exact r.descends p q ‹_›

/-- A phrase and all that the route comes to from it, in the order of the route. -/
def trail (p : Phrase) : List Phrase :=
  p :: (r.next p).attach.flatMap fun q => trail q.1
termination_by p.weight
decreasing_by exact r.descends p q.1 q.2

theorem trail_eq (p : Phrase) : r.trail p = p :: (r.next p).flatMap r.trail := by
  rw [trail, List.flatMap_subtype (g := r.trail) (by simp), List.unattach_attach]

/-- The route comes from one phrase to the other, in any number of steps. -/
inductive Reaches : Phrase → Phrase → Prop where
  | here (p : Phrase) : Reaches p p
  | onward {p q target : Phrase} (step : q ∈ r.next p) (rest : Reaches q target) :
      Reaches p target

theorem mem_trail_iff {p q : Phrase} : q ∈ r.trail p ↔ r.Reaches p q := by
  constructor
  · intro h
    induction p using r.induction with
    | phrase p ih =>
        rw [trail_eq, List.mem_cons, List.mem_flatMap] at h
        rcases h with rfl | ⟨c, hstep, hrest⟩
        · exact .here q
        · exact .onward hstep (ih c hstep hrest)
  · intro h
    induction h with
    | here p =>
        rw [trail_eq]
        exact List.mem_cons_self
    | onward step _ ih =>
        rw [trail_eq]
        exact List.mem_cons_of_mem _ (List.mem_flatMap.2 ⟨_, step, ih⟩)

theorem Reaches.trans {r : Route} {p q target : Phrase} (h : r.Reaches p q)
    (h' : r.Reaches q target) : r.Reaches p target := by
  induction h with
  | here p => exact h'
  | onward step _ ih => exact .onward step (ih h')

theorem Reaches.mono {r r' : Route} (hnext : ∀ p, r.next p ⊆ r'.next p) {p q : Phrase}
    (h : r.Reaches p q) : r'.Reaches p q := by
  induction h with
  | here p => exact .here p
  | onward step _ ih => exact .onward (hnext _ step) ih

/-- The route through everything that is stored in a phrase. -/
def stored : Route where
  next := Phrase.parts
  descends _ _ h := Phrase.weight_lt_of_mem_parts h

/-- The same route, not going on from certain statements. -/
def stopAt (stop : Stmt → Bool) : Route where
  next
    | .stmt s => if stop s then [] else r.next (.stmt s)
    | p => r.next p
  descends p q h := by
    cases p with
    | stmt s =>
        cases hstop : stop s with
        | true => simp [hstop] at h
        | false => exact r.descends (.stmt s) q (by simpa [hstop] using h)
    | _ => exact r.descends _ q h

theorem stopAt_nowhere : r.stopAt (fun _ => false) = r := by
  have hnext : (r.stopAt fun _ => false).next = r.next := by
    funext p
    cases p <;> rfl
  cases r
  simpa [stopAt] using hnext

/-! ## Expressions on a route -/

/-- The expressions that a route comes to from a phrase, in the order of the route. -/
def exprs (p : Phrase) : List Expr :=
  (r.trail p).filterMap Phrase.expr?

theorem exprs_eq (p : Phrase) :
    r.exprs p = p.expr?.toList ++ (r.next p).flatMap r.exprs := by
  rw [exprs, trail_eq, List.filterMap_cons, List.filterMap_flatMap]
  cases p <;> rfl

theorem mem_exprs_iff {p : Phrase} {e : Expr} :
    e ∈ r.exprs p ↔ r.Reaches p (.expr e) := by
  rw [← mem_trail_iff, exprs, List.mem_filterMap]
  constructor
  · rintro ⟨q, hq, hexpr⟩
    cases q with
    | expr c =>
        have hsame : c = e := Option.some.inj hexpr
        rwa [← hsame]
    | _ => cases hexpr
  · intro h
    exact ⟨.expr e, h, rfl⟩

def exprsIn (ss : List Stmt) : List Expr :=
  ss.flatMap fun s => r.exprs (.stmt s)

theorem mem_exprsIn_iff {ss : List Stmt} {e : Expr} :
    e ∈ r.exprsIn ss ↔ ∃ s ∈ ss, r.Reaches (.stmt s) (.expr e) := by
  simp only [exprsIn, List.mem_flatMap, mem_exprs_iff]

theorem exprs_of_next_eq_map {g : Phrase → Phrase} {onExpr : Expr → Expr}
    (hexpr : ∀ p, (g p).expr? = p.expr?.map onExpr)
    (hnext : ∀ p, r.next (g p) = (r.next p).map g)
    (p : Phrase) : r.exprs (g p) = (r.exprs p).map onExpr := by
  induction p using r.induction with
  | phrase p ih =>
      have hrest : ((r.next p).map g).flatMap r.exprs =
          ((r.next p).flatMap r.exprs).map onExpr := by
        rw [List.flatMap_map, List.map_flatMap]
        exact List.flatMap_congr ih
      rw [exprs_eq, exprs_eq r p, hexpr, hnext, hrest, List.map_append, Option.toList_map]

theorem exprsIn_of_next_eq_map {g : Phrase → Phrase} {onExpr : Expr → Expr}
    {onStmt : Stmt → Stmt} (hexpr : ∀ p, (g p).expr? = p.expr?.map onExpr)
    (hnext : ∀ p, r.next (g p) = (r.next p).map g)
    (hstmt : ∀ s, g (.stmt s) = .stmt (onStmt s)) (ss : List Stmt) :
    r.exprsIn (ss.map onStmt) = (r.exprsIn ss).map onExpr := by
  rw [exprsIn, exprsIn, List.flatMap_map, List.map_flatMap]
  refine List.flatMap_congr ?_
  intro s _
  rw [← hstmt]
  exact r.exprs_of_next_eq_map hexpr hnext (.stmt s)

end Route
end CodeTree
