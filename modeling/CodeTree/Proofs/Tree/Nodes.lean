import CodeTree.Tree.Parts
import Mathlib.Data.List.Basic

namespace CodeTree

inductive Node where
  | expr (e : Expr)
  | stmt (s : Stmt)

def Expr.children : Expr → List Node
  | .readVar .. => []
  | .writeVar _ value _ _ => [.expr value]
  | .writeKey receiver index value _ _ => [.expr receiver, .expr index, .expr value]
  | .writeProp receiver _ value _ _ => [.expr receiver, .expr value]
  | .callMethod receiver _ args _ _ => .expr receiver :: args.map .expr
  | .call callee args _ _ => .expr callee :: args.map .expr
  | .instantiate cls args _ _ => .expr cls :: args.map .expr
  | .literal .. => []
  | .external .. => []
  | .conditional condition trueCase falseCase _ _ =>
      .expr condition :: .expr trueCase :: falseCase.toList.map .expr
  | .not condition _ => [.expr condition]
  | .assertNotNull condition _ _ => [.expr condition]
  | .cast value _ _ => [.expr value]
  | .function _ body _ _ _ => body.map .stmt
  | .binary _ lhs rhs _ _ => [.expr lhs, .expr rhs]
  | .readProp receiver _ _ _ => [.expr receiver]
  | .readKey receiver index _ _ => [.expr receiver, .expr index]
  | .array entries _ _ => entries.map .expr
  | .map entries _ _ => entries.map fun entry => .expr entry.value
  | .comma parts _ => parts.map .expr

def Stmt.children : Stmt → List Node
  | .declareVar _ value _ _ _ => value.toList.map .expr
  | .declareFunction _ _ body _ _ _ => body.map .stmt
  | .expr value _ => [.expr value]
  | .ret value _ => [.expr value]
  | .declareClass _ parent fields getters ctor methods _ _ =>
      parent.toList.map .expr ++
        (fields.flatMap fun field => field.initializer.toList.map .expr) ++
        (getters.flatMap fun getter => getter.body.map .stmt) ++ ctor.body.map .stmt ++
        methods.flatMap fun method => method.body.map .stmt
  | .ifElse condition trueCase falseCase _ =>
      .expr condition :: (trueCase.map .stmt ++ falseCase.map .stmt)
  | .tryCatch body handler _ => body.map .stmt ++ handler.map .stmt
  | .throw error _ => [.expr error]
  | .comment .. => []
  | .docComment .. => []

def Node.children : Node → List Node
  | .expr e => e.children
  | .stmt s => s.children

namespace Stmt

variable {name : String} {parent : Option Expr} {fields : List Field}
  {getters : List Getter} {ctor : Method} {methods : List Method} {mods : Modifiers}
  {span : Option Span}

theorem expr_mem_children_declareClass {c : Expr} :
    .expr c ∈ (declareClass name parent fields getters ctor methods mods span).children ↔
      c ∈ parent ∨ ∃ field ∈ fields, c ∈ field.initializer := by
  simp [children]

theorem stmt_mem_children_declareClass {c : Stmt} :
    .stmt c ∈ (declareClass name parent fields getters ctor methods mods span).children ↔
      (∃ getter ∈ getters, c ∈ getter.body) ∨ c ∈ ctor.body ∨
        ∃ method ∈ methods, c ∈ method.body := by
  simp [children]

end Stmt

theorem MapEntry.sizeOf_value_lt (entry : MapEntry) :
    sizeOf entry.value < sizeOf entry := by
  cases entry
  simp only [MapEntry.mk.sizeOf_spec]
  omega

theorem Field.sizeOf_initializer_lt (field : Field) :
    sizeOf field.initializer < sizeOf field := by
  cases field
  simp only [Field.mk.sizeOf_spec]
  omega

theorem Getter.sizeOf_body_lt (getter : Getter) : sizeOf getter.body < sizeOf getter := by
  cases getter
  simp only [Getter.mk.sizeOf_spec]
  omega

theorem Method.sizeOf_body_lt (method : Method) : sizeOf method.body < sizeOf method := by
  cases method
  simp only [Method.mk.sizeOf_spec]
  omega

theorem Expr.sizeOf_lt_of_mem_children {e : Expr} {n : Node} (h : n ∈ e.children) :
    sizeOf n < sizeOf (Node.expr e) := by
  cases e <;> simp [Expr.children] at h
  all_goals grind [→ List.sizeOf_lt_of_mem, MapEntry.sizeOf_value_lt]

theorem Stmt.sizeOf_lt_of_mem_children {s : Stmt} {n : Node} (h : n ∈ s.children) :
    sizeOf n < sizeOf (Node.stmt s) := by
  cases s <;> simp [Stmt.children] at h
  all_goals
    grind [→ List.sizeOf_lt_of_mem, Field.sizeOf_initializer_lt, Getter.sizeOf_body_lt,
      Method.sizeOf_body_lt]

theorem Node.sizeOf_lt_of_mem_children {n c : Node} (h : c ∈ n.children) :
    sizeOf c < sizeOf n := by
  cases n with
  | expr e => exact Expr.sizeOf_lt_of_mem_children h
  | stmt s => exact Stmt.sizeOf_lt_of_mem_children h

theorem Node.induction {motive : Node → Prop}
    (node : ∀ n, (∀ c ∈ n.children, motive c) → motive n) (n : Node) : motive n :=
  node n fun c _ => Node.induction node c
termination_by sizeOf n
decreasing_by exact Node.sizeOf_lt_of_mem_children ‹_›

/-- Expressions and statements at once.  A property of expressions and one of statements
hold everywhere when each node inherits them from its children. -/
theorem Tree.induction {P : Expr → Prop} {Q : Stmt → Prop}
    (expr : ∀ e : Expr, (∀ c, .expr c ∈ e.children → P c) →
      (∀ c, .stmt c ∈ e.children → Q c) → P e)
    (stmt : ∀ s : Stmt, (∀ c, .expr c ∈ s.children → P c) →
      (∀ c, .stmt c ∈ s.children → Q c) → Q s) :
    (∀ e, P e) ∧ ∀ s, Q s := by
  have hnode : ∀ n : Node, match n with | .expr e => P e | .stmt s => Q s := by
    intro n
    induction n using Node.induction with
    | node n ih =>
        cases n with
        | expr e => exact expr e (fun c hc => ih (.expr c) hc) fun c hc => ih (.stmt c) hc
        | stmt s => exact stmt s (fun c hc => ih (.expr c) hc) fun c hc => ih (.stmt c) hc
  exact ⟨fun e => hnode (.expr e), fun s => hnode (.stmt s)⟩

theorem Expr.induction {motive : Expr → Prop}
    (expr : ∀ e : Expr, (∀ c, .expr c ∈ e.children → motive c) → motive e)
    (e : Expr) : motive e :=
  (Tree.induction (P := motive) (Q := fun _ => True) (fun e h _ => expr e h)
    fun _ _ _ => trivial).1 e

/-- The node and all nodes below it, every node after its children. -/
def Node.postorder (n : Node) : List Node :=
  (n.children.attach.flatMap fun c => c.1.postorder) ++ [n]
termination_by sizeOf n
decreasing_by exact Node.sizeOf_lt_of_mem_children c.2

theorem Node.postorder_eq (n : Node) :
    n.postorder = n.children.flatMap Node.postorder ++ [n] := by
  rw [Node.postorder, List.flatMap_subtype (g := Node.postorder) (by simp),
    List.unattach_attach]

theorem Node.mem_postorder_iff {n c : Node} :
    c ∈ n.postorder ↔ c = n ∨ ∃ d ∈ n.children, c ∈ d.postorder := by
  rw [postorder_eq, List.mem_append, List.mem_flatMap, List.mem_singleton, or_comm]

theorem Node.forall_mem_postorder_iff {P : Node → Prop} {n : Node} :
    (∀ c ∈ n.postorder, P c) ↔ P n ∧ ∀ c ∈ n.children, ∀ d ∈ c.postorder, P d := by
  constructor
  · intro h
    refine ⟨h n (mem_postorder_iff.2 (.inl rfl)), ?_⟩
    intro c hc d hd
    exact h d (mem_postorder_iff.2 (.inr ⟨c, hc, hd⟩))
  · rintro ⟨hself, hchildren⟩ d hd
    rcases mem_postorder_iff.1 hd with rfl | ⟨c, hc, hdc⟩
    · exact hself
    · exact hchildren c hc d hdc

def Node.span? : Node → Option Span
  | .expr e => e.span?
  | .stmt s => s.span?

end CodeTree
