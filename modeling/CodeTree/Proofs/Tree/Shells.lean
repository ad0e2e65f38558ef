import CodeTree.Proofs.Tree.Children
import CodeTree.Tree.Build

/-!
# Shells

The shell of a node is the node with every child blanked out.  A node is its shell
together with the list of its children.
-/

namespace CodeTree

open Effects

/-! ## Shells -/

/-- What stands in a shell for a child that is a statement.  For an expression it is the
null. -/
def Stmt.blank : Stmt := .comment "" false none

def Expr.shell (e : Expr) : Expr :=
  e.mapChildren (fun _ => .null) fun _ => .blank

def Stmt.shell (s : Stmt) : Stmt :=
  s.mapChildren (fun _ => .null) fun _ => .blank

def Node.shell : Node → Node
  | .expr e => .expr e.shell
  | .stmt s => .stmt s.shell

section Exchanged

variable {f : Expr → Expr} {f' : Stmt → Stmt}

@[simp] theorem Expr.kind_mapChildren (e : Expr) :
    (e.mapChildren f f').kind = e.kind := by
  cases e <;> rfl

@[simp] theorem Stmt.kind_mapChildren (s : Stmt) :
    (s.mapChildren f f').kind = s.kind := by
  cases s <;> rfl

@[simp] theorem Expr.shell_mapChildren (e : Expr) :
    (e.mapChildren f f').shell = e.shell :=
  e.mapChildren_mapChildren

@[simp] theorem Stmt.shell_mapChildren (s : Stmt) :
    (s.mapChildren f f').shell = s.shell :=
  s.mapChildren_mapChildren

end Exchanged

theorem Expr.kind_eq_of_shell_eq {a b : Expr} (h : a.shell = b.shell) :
    a.kind = b.kind := by
  rw [← a.kind_mapChildren, ← b.kind_mapChildren]
  exact congrArg kind h

theorem Stmt.kind_eq_of_shell_eq {a b : Stmt} (h : a.shell = b.shell) :
    a.kind = b.kind := by
  rw [← a.kind_mapChildren, ← b.kind_mapChildren]
  exact congrArg kind h

/-! ## A node is its shell and its children -/

@[simp] theorem Node.map_expr_inj {as bs : List Expr} :
    as.map Node.expr = bs.map Node.expr ↔ as = bs :=
  List.map_inj_right fun _ _ h => Node.expr.inj h

@[simp] theorem Node.map_stmt_inj {as bs : List Stmt} :
    as.map Node.stmt = bs.map Node.stmt ↔ as = bs :=
  List.map_inj_right fun _ _ h => Node.stmt.inj h

section Members

variable {f : Expr → Expr} {f' : Stmt → Stmt}

theorem MapEntry.eq_of_mapValue_eq {a b : MapEntry} (hrest : a.mapValue f = b.mapValue f)
    (hvalue : a.value = b.value) : a = b := by
  cases a
  cases b
  simp_all [mapValue]

theorem Field.length_initializer_eq {a b : Field}
    (h : a.mapInitializer f = b.mapInitializer f) :
    (a.initializer.toList.map Node.expr).length =
      (b.initializer.toList.map Node.expr).length := by
  have hinitializer : a.initializer.map f = b.initializer.map f :=
    congrArg Field.initializer h
  simpa using length_toList_eq_of_map_eq hinitializer

theorem Field.eq_of_mapInitializer_eq {a b : Field}
    (hrest : a.mapInitializer f = b.mapInitializer f)
    (hinitializer : a.initializer.toList.map Node.expr =
      b.initializer.toList.map Node.expr) :
    a = b := by
  have hsame : a.initializer = b.initializer := by simpa using hinitializer
  cases a
  cases b
  simp_all [mapInitializer]

theorem Getter.length_body_eq {a b : Getter} (h : a.mapBody f' = b.mapBody f') :
    (a.body.map Node.stmt).length = (b.body.map Node.stmt).length := by
  have hbody : a.body.map f' = b.body.map f' := congrArg Getter.body h
  simpa using congrArg List.length hbody

theorem Getter.eq_of_mapBody_eq {a b : Getter} (hrest : a.mapBody f' = b.mapBody f')
    (hbody : a.body.map Node.stmt = b.body.map Node.stmt) : a = b := by
  have hsame : a.body = b.body := Node.map_stmt_inj.1 hbody
  cases a
  cases b
  simp_all [mapBody]

theorem Method.length_body_eq {a b : Method} (h : a.mapBody f' = b.mapBody f') :
    (a.body.map Node.stmt).length = (b.body.map Node.stmt).length := by
  have hbody : a.body.map f' = b.body.map f' := congrArg Method.body h
  simpa using congrArg List.length hbody

theorem Method.eq_of_mapBody_eq {a b : Method} (hrest : a.mapBody f' = b.mapBody f')
    (hbody : a.body.map Node.stmt = b.body.map Node.stmt) : a = b := by
  have hsame : a.body = b.body := Node.map_stmt_inj.1 hbody
  cases a
  cases b
  simp_all [mapBody]

end Members

theorem Expr.eq_of_shell_eq {a b : Expr} (hshell : a.shell = b.shell)
    (hchildren : a.children = b.children) : a = b := by
  have hkind : a.kind = b.kind := kind_eq_of_shell_eq hshell
  cases a <;> cases b <;> try (cases hkind; done)
  all_goals simp only [shell, mapChildren] at hshell
  all_goals simp only [children] at hchildren
  case map.map entries _ _ entries' _ _ =>
    simp only [Expr.map.injEq] at hshell
    have hentries : entries = entries' :=
      eq_of_map_eq_of_map_eq (fun _ _ hrest hvalue =>
        MapEntry.eq_of_mapValue_eq hrest (Node.expr.inj hvalue)) hshell.1 hchildren
    simp_all
  all_goals simp_all

theorem Stmt.eq_of_shell_eq {a b : Stmt} (hshell : a.shell = b.shell)
    (hchildren : a.children = b.children) : a = b := by
  have hkind : a.kind = b.kind := kind_eq_of_shell_eq hshell
  cases a <;> cases b <;> try (cases hkind; done)
  all_goals simp only [shell, mapChildren] at hshell
  all_goals simp only [children, List.append_assoc] at hchildren
  case ifElse.ifElse =>
    simp only [Stmt.ifElse.injEq] at hshell
    obtain ⟨-, htrues, -, hspan⟩ := hshell
    obtain ⟨hcondition, hbodies⟩ := List.cons.inj hchildren
    obtain ⟨htrue, hfalse⟩ :=
      List.append_inj hbodies (by simpa using congrArg List.length htrues)
    simp_all
  case tryCatch.tryCatch =>
    simp only [Stmt.tryCatch.injEq] at hshell
    obtain ⟨hbodies, -, hspan⟩ := hshell
    obtain ⟨hbody, hhandler⟩ :=
      List.append_inj hchildren (by simpa using congrArg List.length hbodies)
    simp_all
  case declareClass.declareClass =>
    simp only [Stmt.declareClass.injEq] at hshell
    obtain ⟨hname, hparents, hfields, hgetters, hctors, hmethods, hmods, hspan⟩ := hshell
    obtain ⟨hparent, hmembers⟩ := List.append_inj hchildren
      (by simpa using length_toList_eq_of_map_eq hparents)
    obtain ⟨hfield, hbodies⟩ :=
      eq_of_flatMap_append_eq (fun _ _ => Field.length_initializer_eq)
        (fun _ _ => Field.eq_of_mapInitializer_eq) hfields hmembers
    obtain ⟨hgetter, hmethodBodies⟩ :=
      eq_of_flatMap_append_eq (fun _ _ => Getter.length_body_eq)
        (fun _ _ => Getter.eq_of_mapBody_eq) hgetters hbodies
    obtain ⟨hctorBody, hothers⟩ :=
      List.append_inj hmethodBodies (Method.length_body_eq hctors)
    have hctor := Method.eq_of_mapBody_eq hctors hctorBody
    have hmethod := eq_of_flatMap_eq (fun _ _ => Method.length_body_eq)
      (fun _ _ => Method.eq_of_mapBody_eq) hmethods hothers
    simp_all
  all_goals simp_all

/-! ## The children of a node over other children -/

def Node.map (onExpr : Expr → Expr) (onStmt : Stmt → Stmt) : Node → Node
  | .expr e => .expr (onExpr e)
  | .stmt s => .stmt (onStmt s)

section Exchanged

variable {f g : Expr → Expr} {f' g' : Stmt → Stmt}

@[simp] theorem Expr.children_mapChildren (e : Expr) :
    (e.mapChildren f f').children = e.children.map (Node.map f f') := by
  cases e <;>
    simp [mapChildren, children, Node.map, MapEntry.mapValue, Function.comp_def,
      Option.toList_map]

@[simp] theorem Stmt.children_mapChildren (s : Stmt) :
    (s.mapChildren f f').children = s.children.map (Node.map f f') := by
  cases s <;>
    simp [mapChildren, children, Node.map, Field.mapInitializer, Getter.mapBody,
      Method.mapBody, Function.comp_def, Option.toList_map, List.map_flatMap,
      List.flatMap_map]

theorem Node.map_eq_map_of_map_eq_map {ns ns' : List Node}
    (hexpr : ∀ c, .expr c ∈ ns → ∀ d, f c = f d → g c = g d)
    (hstmt : ∀ c, .stmt c ∈ ns → ∀ d, f' c = f' d → g' c = g' d)
    (h : ns.map (Node.map f f') = ns'.map (Node.map f f')) :
    ns.map (Node.map g g') = ns'.map (Node.map g g') := by
  refine Effects.map_eq_map_of_map_eq_map ?_ h
  intro n hmem n' hn
  cases n with
  | expr c =>
      cases n' with
      | expr d => exact congrArg Node.expr (hexpr c hmem d (Node.expr.inj hn))
      | stmt d => cases hn
  | stmt c =>
      cases n' with
      | expr d => cases hn
      | stmt d => exact congrArg Node.stmt (hstmt c hmem d (Node.stmt.inj hn))

/-- Two nodes that an exchange of children makes one are made one by every exchange that
tells no more children apart. -/
theorem Expr.mapChildren_eq_of_mapChildren_eq {a b : Expr}
    (hexpr : ∀ c, .expr c ∈ a.children → ∀ d, f c = f d → g c = g d)
    (hstmt : ∀ c, .stmt c ∈ a.children → ∀ d, f' c = f' d → g' c = g' d)
    (h : a.mapChildren f f' = b.mapChildren f f') :
    a.mapChildren g g' = b.mapChildren g g' := by
  have hshell : a.shell = b.shell := by simpa using congrArg shell h
  have hchildren : a.children.map (Node.map f f') = b.children.map (Node.map f f') := by
    simpa using congrArg children h
  apply eq_of_shell_eq
  · simpa using hshell
  · simpa using Node.map_eq_map_of_map_eq_map hexpr hstmt hchildren

theorem Stmt.mapChildren_eq_of_mapChildren_eq {a b : Stmt}
    (hexpr : ∀ c, .expr c ∈ a.children → ∀ d, f c = f d → g c = g d)
    (hstmt : ∀ c, .stmt c ∈ a.children → ∀ d, f' c = f' d → g' c = g' d)
    (h : a.mapChildren f f' = b.mapChildren f f') :
    a.mapChildren g g' = b.mapChildren g g' := by
  have hshell : a.shell = b.shell := by simpa using congrArg shell h
  have hchildren : a.children.map (Node.map f f') = b.children.map (Node.map f f') := by
    simpa using congrArg children h
  apply eq_of_shell_eq
  · simpa using hshell
  · simpa using Node.map_eq_map_of_map_eq_map hexpr hstmt hchildren

end Exchanged

/-! ## Children that are computed -/

section Computed

variable {m : Type → Type} [Monad m]

def Node.mapM (onExpr : Expr → m Expr) (onStmt : Stmt → m Stmt) : Node → m Node
  | .expr e => .expr <$> onExpr e
  | .stmt s => .stmt <$> onStmt s

variable [LawfulMonad m] {F : Expr → m Expr} {F' : Stmt → m Stmt}

theorem Node.mapM_expr (es : List Expr) :
    es.mapM (Node.mapM F F' ∘ .expr) = List.map .expr <$> es.mapM F :=
  (map_mapM (fun _ => rfl) es).symm

theorem Node.mapM_stmt (ss : List Stmt) :
    ss.mapM (Node.mapM F F' ∘ .stmt) = List.map .stmt <$> ss.mapM F' :=
  (map_mapM (fun _ => rfl) ss).symm

theorem Node.optionMapM_expr (o : Option Expr) :
    o.mapM (Node.mapM F F' ∘ .expr) = Option.map .expr <$> o.mapM F := by
  cases o <;> simp [Node.mapM]

theorem MapEntry.mapM_value (entries : List MapEntry) :
    entries.mapM (Node.mapM F F' ∘ fun entry => .expr entry.value) =
      List.map (fun entry => .expr entry.value) <$> entries.mapM (mapValueM F) := by
  refine (map_mapM ?_ entries).symm
  intro entry
  simp [mapValueM, Node.mapM]

theorem Field.mapM_initializer (fields : List Field) :
    (fields.flatMap fun field => field.initializer.toList.map .expr).mapM
        (Node.mapM F F') =
      List.flatMap (fun field => field.initializer.toList.map .expr) <$>
        fields.mapM (mapInitializerM F) := by
  refine (flatMap_mapM ?_ fields).symm
  intro field
  cases hinitializer : field.initializer <;>
    simp [mapInitializerM, Node.mapM, hinitializer]

theorem Getter.mapM_body (getters : List Getter) :
    (getters.flatMap fun getter => getter.body.map .stmt).mapM (Node.mapM F F') =
      List.flatMap (fun getter => getter.body.map .stmt) <$>
        getters.mapM (mapBodyM F') := by
  refine (flatMap_mapM ?_ getters).symm
  intro getter
  simp [mapBodyM, Node.mapM_stmt]

theorem Method.mapM_body (methods : List Method) :
    (methods.flatMap fun method => method.body.map .stmt).mapM (Node.mapM F F') =
      List.flatMap (fun method => method.body.map .stmt) <$>
        methods.mapM (mapBodyM F') := by
  refine (flatMap_mapM ?_ methods).symm
  intro method
  simp [mapBodyM, Node.mapM_stmt]

theorem Expr.children_mapChildrenM (e : Expr) :
    children <$> e.mapChildrenM F F' = e.children.mapM (Node.mapM F F') := by
  cases e <;>
    simp [children, mapChildrenM, Node.mapM, Node.mapM_expr, Node.mapM_stmt,
      Node.optionMapM_expr, MapEntry.mapM_value, ← toList_optionMapM, Option.toList_map]

theorem Stmt.children_mapChildrenM (s : Stmt) :
    children <$> s.mapChildrenM F F' = s.children.mapM (Node.mapM F F') := by
  cases s <;>
    simp [children, mapChildrenM, Node.mapM, Node.mapM_stmt, Node.optionMapM_expr,
      Field.mapM_initializer, Getter.mapM_body, Method.mapM_body, Method.mapBodyM,
      ← toList_optionMapM, Option.toList_map]

def Node.mapChildrenM (onExpr : Expr → m Expr) (onStmt : Stmt → m Stmt) : Node → m Node
  | .expr e => .expr <$> e.mapChildrenM onExpr onStmt
  | .stmt s => .stmt <$> s.mapChildrenM onExpr onStmt

theorem Node.children_mapChildrenM (n : Node) :
    children <$> n.mapChildrenM F F' = n.children.mapM (mapM F F') := by
  cases n with
  | expr e =>
      rw [children, ← e.children_mapChildrenM, mapChildrenM, Functor.map_map]
      rfl
  | stmt s =>
      rw [children, ← s.children_mapChildrenM, mapChildrenM, Functor.map_map]
      rfl

end Computed

theorem Node.eq_of_shell_eq {a b : Node} (hshell : a.shell = b.shell)
    (hchildren : a.children = b.children) : a = b := by
  cases a with
  | expr e =>
      cases b with
      | expr e' =>
          exact congrArg expr (Expr.eq_of_shell_eq (Node.expr.inj hshell) hchildren)
      | stmt s => cases hshell
  | stmt s =>
      cases b with
      | expr e => cases hshell
      | stmt s' =>
          exact congrArg stmt (Stmt.eq_of_shell_eq (Node.stmt.inj hshell) hchildren)

section Stateful

variable {σ : Type} {F : Expr → StateM σ Expr} {F' : Stmt → StateM σ Stmt}

theorem Node.shell_result_mapChildrenM (n : Node) (s : σ) :
    (result (n.mapChildrenM F F') s).shell = n.shell := by
  cases n with
  | expr e =>
      exact congrArg expr
        (Expr.mapChildren_result_mapChildrenM (fun _ _ _ => rfl) (fun _ _ _ => rfl) s)
  | stmt stmt =>
      exact congrArg Node.stmt
        (Stmt.mapChildren_result_mapChildrenM (fun _ _ _ => rfl) (fun _ _ _ => rfl) s)

theorem Node.children_result_mapChildrenM (n : Node) (s : σ) :
    (result (n.mapChildrenM F F') s).children =
      result (n.children.mapM (mapM F F')) s := by
  rw [← children_mapChildrenM, result_map]

theorem Node.after_mapChildrenM (n : Node) (s : σ) :
    after (n.mapChildrenM F F') s = after (n.children.mapM (mapM F F')) s := by
  rw [← children_mapChildrenM, after_map]

end Stateful

end CodeTree
