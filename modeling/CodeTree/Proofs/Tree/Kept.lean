import CodeTree.Proofs.Tree.Shells
import Mathlib.Data.List.Flatten

/-!
# Parts of a tree that are kept

An overridden method keeps the nodes of one kind with everything beneath them, or the
methods of every class with their statements.  All other nodes are opened.
-/

namespace CodeTree

open Effects

/-- A method of a rebuild that may be overridden. -/
inductive Override where
  | expr (kind : ExprKind)
  | stmt (kind : StmtKind)
  | method

/-! ## What is kept -/

namespace Override

def keeps : Override → Node → Bool
  | .expr kind, .expr e => decide (e.kind = kind)
  | .stmt kind, .stmt s => decide (s.kind = kind)
  | _, _ => false

/-- The methods of a class that stay as they are. -/
def kept : Override → Node → List Method
  | .method, .stmt (.declareClass _ _ _ _ ctor methods _ _) => ctor :: methods
  | _, _ => []

/-- The children of a node that do not stand in such methods. -/
def opened : Override → Node → List Node
  | .method, .stmt (.declareClass _ parent fields getters _ _ _ _) =>
      parent.toList.map .expr ++
        (fields.flatMap fun field => field.initializer.toList.map .expr) ++
        getters.flatMap fun getter => getter.body.map .stmt
  | _, n => n.children

/-- The statements of the methods that stay as they are. -/
def closed (o : Override) (n : Node) : List Node :=
  (o.kept n).flatMap fun method => method.body.map .stmt

/-- Puts a node together again from what is computed for the children that are
opened. -/
def mapOpenedM {m : Type → Type} [Monad m] (o : Override) (onExpr : Expr → m Expr)
    (onStmt : Stmt → m Stmt) : Node → m Node
  | .expr e => .expr <$> e.mapChildrenM onExpr onStmt
  | .stmt s => .stmt <$> s.mapMembersM onExpr onStmt
      (match o with
        | .method => pure
        | _ => Method.mapBodyM onStmt)

theorem class_or_plain (o : Override) (n : Node) :
    (o = .method ∧ ∃ name parent fields getters ctor methods mods span,
      n = .stmt (.declareClass name parent fields getters ctor methods mods span)) ∨
    (o.kept n = [] ∧ o.opened n = n.children ∧
      ∀ {m : Type → Type} [Monad m] (onExpr : Expr → m Expr) (onStmt : Stmt → m Stmt),
        o.mapOpenedM onExpr onStmt n = n.mapChildrenM onExpr onStmt) := by
  cases n with
  | expr e => cases o <;> exact .inr ⟨rfl, rfl, fun _ _ => rfl⟩
  | stmt s =>
      cases o with
      | method =>
          cases s with
          | declareClass => exact .inl ⟨rfl, _, _, _, _, _, _, _, _, rfl⟩
          | _ => exact .inr ⟨rfl, rfl, fun _ _ => rfl⟩
      | _ =>
          refine .inr ⟨rfl, rfl, fun onExpr onStmt => ?_⟩
          exact congrArg (Node.stmt <$> ·) (s.mapMembersM_mapBodyM onExpr onStmt)

theorem children_eq (o : Override) (n : Node) :
    n.children = o.opened n ++ o.closed n := by
  rcases o.class_or_plain n with ⟨rfl, _, _, _, _, _, _, _, _, rfl⟩ | ⟨hkept, hopened, -⟩
  · simp [closed, kept, opened, Node.children, Stmt.children]
  · rw [closed, hkept, hopened, List.flatMap_nil, List.append_nil]

theorem mem_children_of_mem_opened {o : Override} {n c : Node} (h : c ∈ o.opened n) :
    c ∈ n.children := by
  rw [o.children_eq]
  exact List.mem_append_left _ h

/-! ## Nodes outside -/

/-- The nodes of a tree that are not kept and do not stand in anything that is kept,
every node after its children. -/
def outside (o : Override) (n : Node) : List Node :=
  if o.keeps n then [] else ((o.opened n).attach.flatMap fun c => outside o c.1) ++ [n]
termination_by sizeOf n
decreasing_by exact Node.sizeOf_lt_of_mem_children (mem_children_of_mem_opened c.2)

variable {o : Override} {n : Node}

theorem outside_of_keeps (h : o.keeps n = true) : o.outside n = [] := by
  rw [outside, if_pos h]

theorem outside_of_not_keeps (h : o.keeps n = false) :
    o.outside n = (o.opened n).flatMap o.outside ++ [n] := by
  rw [outside, h, if_neg Bool.false_ne_true,
    List.flatMap_subtype (g := o.outside) (by simp), List.unattach_attach]

theorem not_keeps_of_mem_outside {c : Node} (h : c ∈ o.outside n) :
    o.keeps c = false := by
  induction n using Node.induction with
  | node n ih =>
      cases hkeeps : o.keeps n with
      | true =>
          rw [outside_of_keeps hkeeps] at h
          cases h
      | false =>
          rw [outside_of_not_keeps hkeeps, List.mem_append, List.mem_flatMap,
            List.mem_singleton] at h
          rcases h with ⟨d, hd, hbelow⟩ | rfl
          · exact ih d (mem_children_of_mem_opened hd) hbelow
          · exact hkeeps

theorem outside_sublist_postorder (o : Override) (n : Node) :
    (o.outside n).Sublist n.postorder := by
  induction n using Node.induction with
  | node n ih =>
      cases hkeeps : o.keeps n with
      | true =>
          rw [outside_of_keeps hkeeps]
          exact List.nil_sublist _
      | false =>
          have hopened : ((o.opened n).flatMap o.outside).Sublist
              ((o.opened n).flatMap Node.postorder) :=
            List.Sublist.flatMap_right _ fun c hc => ih c (mem_children_of_mem_opened hc)
          have hchildren : ((o.opened n).flatMap o.outside).Sublist
              (n.children.flatMap Node.postorder) := by
            rw [o.children_eq, List.flatMap_append]
            exact hopened.trans (List.sublist_append_left _ _)
          rw [outside_of_not_keeps hkeeps, Node.postorder_eq]
          exact hchildren.append (.refl [n])

theorem keeps_eq_of_shell_eq {a b : Node} (h : a.shell = b.shell) :
    o.keeps a = o.keeps b := by
  cases a with
  | expr e =>
      cases b with
      | expr e' =>
          have hkind : e.kind = e'.kind := Expr.kind_eq_of_shell_eq (Node.expr.inj h)
          cases o <;> simp [keeps, hkind]
      | stmt s => cases h
  | stmt s =>
      cases b with
      | expr e => cases h
      | stmt s' =>
          have hkind : s.kind = s'.kind := Stmt.kind_eq_of_shell_eq (Node.stmt.inj h)
          cases o <;> simp [keeps, hkind]

/-! ## Children that are computed -/

section Laws

variable {m : Type → Type} [Monad m] [LawfulMonad m] {F : Expr → m Expr}
  {F' : Stmt → m Stmt}

theorem children_mapOpenedM (o : Override) (n : Node) :
    Node.children <$> o.mapOpenedM F F' n =
      (fun opened => opened ++ o.closed n) <$> (o.opened n).mapM (Node.mapM F F') := by
  rcases o.class_or_plain n with
    ⟨rfl, _, _, _, _, _, _, _, _, rfl⟩ | ⟨hkept, hopened, hplain⟩
  · simp [mapOpenedM, Stmt.mapMembersM, opened, closed, kept, Node.children,
      Stmt.children, Node.optionMapM_expr, Field.mapM_initializer,
      Getter.mapM_body, ← toList_optionMapM, Option.toList_map]
  · rw [hplain, hopened, closed, hkept, List.flatMap_nil, Node.children_mapChildrenM]
    simp

end Laws

section Stateful

variable {σ : Type} {F : Expr → StateM σ Expr} {F' : Stmt → StateM σ Stmt}

theorem shell_result_mapOpenedM (o : Override) (n : Node) (s : σ) :
    (result (o.mapOpenedM F F' n) s).shell = n.shell := by
  rcases o.class_or_plain n with
    ⟨rfl, name, parent, fields, getters, ctor, methods, mods, span, rfl⟩ | ⟨-, -, hplain⟩
  · let blankField : Field → Field := Field.mapInitializer fun _ => .null
    let blankGetter : Getter → Getter := Getter.mapBody fun _ => .blank
    have hparent : ∀ s, (result (parent.mapM F) s).map (fun _ => Expr.null) =
        parent.map fun _ => .null :=
      map_result_optionMapM fun _ _ _ => rfl
    have hfields : ∀ s,
        (result (fields.mapM (Field.mapInitializerM F)) s).map blankField =
          fields.map blankField :=
      map_result_mapM fun _ _ =>
        Field.mapInitializer_result_mapInitializerM fun _ _ _ => rfl
    have hgetters : ∀ s, (result (getters.mapM (Getter.mapBodyM F')) s).map blankGetter =
        getters.map blankGetter :=
      map_result_mapM fun _ _ => Getter.mapBody_result_mapBodyM fun _ _ _ => rfl
    simpa [mapOpenedM, Stmt.mapMembersM, Node.shell, Stmt.shell, Stmt.mapChildren,
      hparent] using ⟨hfields _, hgetters _⟩
  · rw [hplain]
    exact n.shell_result_mapChildrenM s

theorem children_result_mapOpenedM (o : Override) (n : Node) (s : σ) :
    (result (o.mapOpenedM F F' n) s).children =
      result ((o.opened n).mapM (Node.mapM F F')) s ++ o.closed n := by
  calc
    (result (o.mapOpenedM F F' n) s).children =
        result (Node.children <$> o.mapOpenedM F F' n) s := rfl
    _ = result ((o.opened n).mapM (Node.mapM F F')) s ++ o.closed n := by
        rw [children_mapOpenedM, result_map]

theorem after_mapOpenedM (o : Override) (n : Node) (s : σ) :
    after (o.mapOpenedM F F' n) s = after ((o.opened n).mapM (Node.mapM F F')) s := by
  calc
    after (o.mapOpenedM F F' n) s = after (Node.children <$> o.mapOpenedM F F' n) s := rfl
    _ = after ((o.opened n).mapM (Node.mapM F F')) s := by
        rw [children_mapOpenedM, after_map]

end Stateful
end Override

end CodeTree
