import CodeTree.Proofs.Rebuild.Calls
import CodeTree.Proofs.Tree.Kept
import CodeTree.Rebuild.Traced

/-!
# Overriding one method of a rebuild

Where the method for a kind of node or for the methods of classes returns its argument,
that part of the tree is kept and no hook is called in it.
-/

namespace CodeTree

open Effects
open Rebuild (rebuildIf)

/-! ## Calls in order -/

/-- The calls that are made on a list of trees when one method is overridden, and the
answers for the trees themselves.  What is kept is its own answer.  Any other node is
called on with the answers for its children in their places and the statements of
methods that are kept after them. -/
inductive CallsOutside (o : Override) : List Node → List Call → List Node → Prop where
  | nil : CallsOutside o [] [] []
  | kept {n : Node} {ns : List Node} {rest : List Call} {answers : List Node}
      (keeps : o.keeps n = true) (others : CallsOutside o ns rest answers) :
      CallsOutside o (n :: ns) rest (n :: answers)
  | called {n : Node} {ns : List Node} {below rest : List Call} {call : Call}
      {opened answers : List Node} (enters : o.keeps n = false)
      (inside : CallsOutside o (o.opened n) below opened)
      (children : call.argument.children = opened ++ o.closed n)
      (shell : call.argument.shell = n.shell) (others : CallsOutside o ns rest answers) :
      CallsOutside o (n :: ns) (below ++ call :: rest) (call.answer :: answers)

namespace CallsOutside

variable {o : Override} {ns ns' : List Node} {calls calls' : List Call}
  {answers answers' : List Node}

theorem append (h : CallsOutside o ns calls answers)
    (h' : CallsOutside o ns' calls' answers') :
    CallsOutside o (ns ++ ns') (calls ++ calls') (answers ++ answers') := by
  induction h with
  | nil => exact h'
  | kept keeps _ ih => exact .kept keeps ih
  | called enters inside children shell _ _ ih =>
      rw [List.append_assoc]
      exact .called enters inside children shell ih

theorem map_shell (h : CallsOutside o ns calls answers) :
    calls.map (fun call => call.argument.shell) =
      (ns.flatMap o.outside).map Node.shell := by
  induction h with
  | nil => rfl
  | kept keeps _ ih =>
      rw [ih, List.flatMap_cons, Override.outside_of_keeps keeps, List.nil_append]
  | called enters _ _ shell _ ihinside ihothers =>
      rw [List.flatMap_cons, Override.outside_of_not_keeps enters]
      simp [ihinside, ihothers, shell]

theorem not_keeps (h : CallsOutside o ns calls answers) :
    ∀ call ∈ calls, o.keeps call.argument = false := by
  intro call hcall
  -- Whether a node is kept can be seen from its shell, which the call has from a node
  -- outside.
  have hshell : call.argument.shell ∈ (ns.flatMap o.outside).map Node.shell := by
    rw [← h.map_shell]
    exact List.mem_map_of_mem hcall
  obtain ⟨c, hc, hsame⟩ := List.mem_map.1 hshell
  obtain ⟨n, -, houtside⟩ := List.mem_flatMap.1 hc
  rw [← Override.keeps_eq_of_shell_eq hsame]
  exact Override.not_keeps_of_mem_outside houtside

end CallsOutside

/-! ## Recording -/

section Recording

variable {σ α β : Type}

/-- Runs a computation and leaves the record as it is. -/
def silently (x : StateM σ α) : StateM (σ × List Call) α := do
  let (s, log) ← get
  set (after x s, log)
  return result x s

theorem records_silently (x : StateM σ α) (s : σ) (log : List Call) :
    Records x (silently x) s log [] where
  result_eq := rfl
  after_eq := by
    rw [List.append_nil]
    rfl

theorem records_forM_silently (f : α → StateM σ β) (as : List α) (s : σ)
    (log : List Call) :
    Records (forM as fun a => (fun _ => ()) <$> f a)
      (forM as fun a => (fun _ => ()) <$> silently (f a)) s log [] := by
  induction as generalizing s log with
  | nil => exact .pure ()
  | cons a as ih =>
      rw [List.forM_cons, List.forM_cons]
      exact ((records_silently (f a) s log).map fun _ => ()).bind (ih _ _)

namespace Rebuild

/-- Does as the rebuild does and writes down each call of a hook. -/
def recording (r : Rebuild (StateM σ)) : Rebuild (StateM (σ × List Call)) where
  enterExpr e := silently (r.enterExpr e)
  enterStmt s := silently (r.enterStmt s)
  enterExprs es := silently (r.enterExprs es)
  enterStmts ss := silently (r.enterStmts ss)
  enterMethod method := silently (r.enterMethod method)
  expr := recordCall .expr r.expr
  stmt := recordCall .stmt r.stmt

def enter {m : Type → Type} (r : Rebuild m) : Node → m Bool
  | .expr e => r.enterExpr e
  | .stmt s => r.enterStmt s

/-- The overridden method returns its argument, whatever else it does.  All other
methods go on.  The hooks are free. -/
structure Overrides (r : Rebuild (StateM σ)) (o : Override) : Prop where
  lists : r.EntersLists
  enters : ∀ n, o.keeps n = false → r.enter n = pure true
  keeps : ∀ n s, o.keeps n = true → result (r.enter n) s = false
  entersMethods : o ≠ .method → ∀ method, r.enterMethod method = pure true
  keepsMethods : o = .method → ∀ method s, result (r.enterMethod method) s = false

end Rebuild
end Recording

/-! ## What becomes of a node -/

section Stateful

variable {σ : Type} {r : Rebuild (StateM σ)} {o : Override}

theorem rebuildIf_of_result_false {α : Type} {enter : StateM σ Bool}
    (h : ∀ s, result enter s = false) (kept : α) (rebuilt : StateM σ α) :
    rebuildIf enter kept rebuilt = (fun _ => kept) <$> enter := by
  apply eq_of_result_of_after
  · intro s
    rw [rebuildIf, result_bind, h]
    rfl
  · intro s
    rw [rebuildIf, after_bind, h]
    rfl

theorem Node.rebuild_of_keeps (hr : r.Overrides o) {n : Node} (hn : o.keeps n = true) :
    n.rebuild r = (fun _ => n) <$> r.enter n := by
  have hstays : ∀ s, result (r.enter n) s = false := fun s => hr.keeps n s hn
  cases n with
  | expr e =>
      have he : e.rebuild r = (fun _ => e) <$> r.enterExpr e := by
        rw [Expr.rebuild.eq_def]
        exact rebuildIf_of_result_false hstays e _
      rw [rebuild, mapM, he, Functor.map_map]
      rfl
  | stmt s =>
      have hs : s.rebuild r = (fun _ => s) <$> r.enterStmt s := by
        rw [Stmt.rebuild.eq_def]
        exact rebuildIf_of_result_false hstays s _
      rw [rebuild, mapM, hs, Functor.map_map]
      rfl

theorem Method.rebuild_of_keeps (hr : r.Overrides .method) (method : Method) :
    method.rebuild r = (fun _ => method) <$> r.enterMethod method := by
  cases method
  rw [rebuild]
  exact rebuildIf_of_result_false (hr.keepsMethods rfl _) _ _

theorem Stmt.mapMembersM_keeping {onExpr : Expr → StateM σ Expr}
    {onStmt : Stmt → StateM σ Stmt} (enter : Method → StateM σ Bool) (s : Stmt) :
    s.mapMembersM onExpr onStmt (fun method => (fun _ => method) <$> enter method) = (do
      let joined ← s.mapMembersM onExpr onStmt pure
      forM (Override.method.kept (.stmt s)) fun method => (fun _ => ()) <$> enter method
      return joined) := by
  cases s with
  | declareClass =>
      simp [mapMembersM, Override.kept, mapM_keeping]
  | _ => simp [mapMembersM, Override.kept]

/-- A node that is not kept is put together again from what became of its children.  The
effects of the methods that are kept come after those of the children. -/
theorem Node.rebuild_of_not_keeps (hr : r.Overrides o) {n : Node}
    (hn : o.keeps n = false) :
    n.rebuild r = (do
      let joined ← o.mapOpenedM (Expr.rebuild r) (Stmt.rebuild r) n
      forM (o.kept n) fun method => (fun _ => ()) <$> r.enterMethod method
      joined.mapM r.expr r.stmt) := by
  have henter : r.enter n = pure true := hr.enters n hn
  cases n with
  | expr e =>
      have hkept : o.kept (.expr e) = [] := by cases o <;> rfl
      rw [rebuild, mapM, Expr.rebuild_eq hr.lists henter, hkept, Override.mapOpenedM]
      simp [mapM]
  | stmt s =>
      rw [rebuild, mapM, Stmt.rebuild_eq hr.lists henter]
      cases o with
      | method =>
          rw [funext (Method.rebuild_of_keeps hr), Stmt.mapMembersM_keeping]
          simp [mapM, Override.mapOpenedM]
      | _ =>
          have hmethods : Method.rebuild r = Method.mapBodyM (Stmt.rebuild r) :=
            funext fun method =>
              Method.rebuild_eq hr.lists (hr.entersMethods (by simp) method)
          rw [hmethods]
          simp [mapM, Override.mapOpenedM, Override.kept]

end Stateful

/-! ## Rebuilds that are recorded -/

section Runs

variable {σ α β : Type} {o : Override}

theorem records_mapOpenedM {n : Node} {s : σ} {log calls : List Call}
    {F : Expr → StateM σ Expr} {F' : Stmt → StateM σ Stmt}
    {G : Expr → StateM (σ × List Call) Expr} {G' : Stmt → StateM (σ × List Call) Stmt}
    (h : Records ((o.opened n).mapM (Node.mapM F F')) ((o.opened n).mapM (Node.mapM G G'))
      s log calls) :
    Records (o.mapOpenedM F F' n) (o.mapOpenedM G G' n) s log calls where
  result_eq := by
    apply Node.eq_of_shell_eq
    · rw [o.shell_result_mapOpenedM, o.shell_result_mapOpenedM]
    · rw [o.children_result_mapOpenedM, o.children_result_mapOpenedM, h.result_eq]
  after_eq := by
    rw [o.after_mapOpenedM, o.after_mapOpenedM, h.after_eq]

/-- Every run is recorded as one call for each node of the trees that is not kept and
does not stand in anything that is kept, in the order of the postorder.  No call is made
on a node that is kept. -/
def OneCallPerNodeOutside (o : Override) (ns : List Node) (answers : α → List Node)
    (plain : StateM σ α) (recording : StateM (σ × List Call) α) : Prop :=
  ∀ s log, ∃ calls, Records plain recording s log calls ∧
    calls.map (fun call => call.argument.shell) = (ns.flatMap o.outside).map Node.shell ∧
    (ns.flatMap o.outside).Sublist (ns.flatMap Node.postorder) ∧
    (∀ call ∈ calls, o.keeps call.argument = false) ∧
    CallsOutside o ns calls (answers (result plain s))

theorem RecordedAs.oneCallPerNodeOutside {ns : List Node} {answers : α → List Node}
    {plain : StateM σ α} {recording : StateM (σ × List Call) α}
    (h : RecordedAs (CallsOutside o) ns answers plain recording) :
    OneCallPerNodeOutside o ns answers plain recording := by
  intro s log
  obtain ⟨calls, hrecords, hcalls⟩ := h s log
  have horder : (ns.flatMap o.outside).Sublist (ns.flatMap Node.postorder) :=
    List.Sublist.flatMap_right ns fun n _ => o.outside_sublist_postorder n
  exact ⟨calls, hrecords, hcalls.map_shell, horder, hcalls.not_keeps, hcalls⟩

variable {r : Rebuild (StateM σ)}

theorem Rebuild.Overrides.recording (hr : r.Overrides o) : r.recording.Overrides o where
  lists :=
    { exprs := fun es => congrArg silently (hr.lists.exprs es)
      stmts := fun ss => congrArg silently (hr.lists.stmts ss) }
  enters n hn := by
    cases n with
    | expr e => exact congrArg silently (hr.enters (.expr e) hn)
    | stmt s => exact congrArg silently (hr.enters (.stmt s) hn)
  keeps n s hn := by
    cases n with
    | expr e => exact hr.keeps (.expr e) s.1 hn
    | stmt stmt => exact hr.keeps (.stmt stmt) s.1 hn
  entersMethods ho method := congrArg silently (hr.entersMethods ho method)
  keepsMethods ho method s := hr.keepsMethods ho method s.1

theorem Rebuild.enter_recording (r : Rebuild (StateM σ)) (n : Node) :
    r.recording.enter n = silently (r.enter n) := by
  cases n <;> rfl

theorem recordedAs_rebuild_of_keeps (hr : r.Overrides o) {n : Node}
    (hn : o.keeps n = true) :
    RecordedAs (CallsOutside o) [n] (fun a => [a]) (n.rebuild r)
      (n.rebuild r.recording) := by
  intro s log
  rw [Node.rebuild_of_keeps hr hn, Node.rebuild_of_keeps hr.recording hn,
    r.enter_recording]
  exact ⟨[], (records_silently (r.enter n) s log).map _, .kept hn .nil⟩

theorem recordedAs_rebuild_step (hr : r.Overrides o) {n : Node} (hn : o.keeps n = false)
    (h : RecordedAs (CallsOutside o) (o.opened n) id ((o.opened n).mapM (Node.rebuild r))
      ((o.opened n).mapM (Node.rebuild r.recording))) :
    RecordedAs (CallsOutside o) [n] (fun a => [a]) (n.rebuild r)
      (n.rebuild r.recording) := by
  intro s log
  obtain ⟨below, hrecords, hbelow⟩ := h s log
  let joined : StateM σ Node := o.mapOpenedM (Expr.rebuild r) (Stmt.rebuild r) n
  let effects : StateM σ Unit :=
    forM (o.kept n) fun method => (fun _ => ()) <$> r.enterMethod method
  let call : Call :=
    { argument := result joined s
      answer := result (n.rebuild r) s }
  have hanswer : result (n.rebuild r) s =
      result ((result joined s).mapM r.expr r.stmt) (after effects (after joined s)) := by
    rw [Node.rebuild_of_not_keeps hr hn, result_bind, result_bind]
  refine ⟨below ++ [call], ?records, ?calls⟩
  case records =>
    have heffects :=
      records_forM_silently r.enterMethod (o.kept n) (after joined s) (log ++ below)
    have hhooks :=
      records_hooks r.expr r.stmt (result joined s) (after effects (after joined s))
        (log ++ below ++ [])
    rw [← hanswer] at hhooks
    rw [Node.rebuild_of_not_keeps hr hn, Node.rebuild_of_not_keeps hr.recording hn]
    exact (records_mapOpenedM hrecords).bind (heffects.bind hhooks)
  case calls =>
    have hchildren : call.argument.children =
        result ((o.opened n).mapM (Node.rebuild r)) s ++ o.closed n :=
      o.children_result_mapOpenedM n s
    exact .called hn hbelow hchildren (o.shell_result_mapOpenedM n s) .nil

theorem recordedAs_rebuild (hr : r.Overrides o) (n : Node) :
    RecordedAs (CallsOutside o) [n] (fun a => [a]) (n.rebuild r)
      (n.rebuild r.recording) := by
  induction n using Node.induction with
  | node n ih =>
      cases hn : o.keeps n with
      | true => exact recordedAs_rebuild_of_keeps hr hn
      | false =>
          apply recordedAs_rebuild_step hr hn
          -- Statements of kept methods are children too, but they are not gone into.
          exact recordedAs_mapM .nil CallsOutside.append fun c hc =>
            ih c (Override.mem_children_of_mem_opened hc)

theorem recordedAs_rebuildAll (hr : r.Overrides o) (ns : List Node) :
    RecordedAs (CallsOutside o) ns id (ns.mapM (Node.rebuild r))
      (ns.mapM (Node.rebuild r.recording)) :=
  recordedAs_mapM .nil CallsOutside.append fun n _ => recordedAs_rebuild hr n

/-- Overriding one method keeps what it is called on, and everything beneath, as it is.
On all other nodes a hook is called once, whatever the hooks return and remember. -/
theorem Rebuild.overridden_method_keeps (hr : r.Overrides o) :
    (∀ e : Expr, OneCallPerNodeOutside o [.expr e] (fun answer => [.expr answer])
      (e.rebuild r) (e.rebuild r.recording)) ∧
    (∀ stmt : Stmt, OneCallPerNodeOutside o [.stmt stmt] (fun answer => [.stmt answer])
      (stmt.rebuild r) (stmt.rebuild r.recording)) ∧
    (∀ es, OneCallPerNodeOutside o (es.map .expr) (List.map .expr) (r.exprs es)
      (r.recording.exprs es)) ∧
    ∀ ss, OneCallPerNodeOutside o (ss.map .stmt) (List.map .stmt) (r.stmts ss)
      (r.recording.stmts ss) := by
  refine ⟨?expr, ?stmt, ?exprs, ?stmts⟩
  case expr =>
    intro e
    have hnode := recordedAs_rebuild hr (.expr e)
    exact (hnode.of_map fun _ _ => Node.expr.inj).oneCallPerNodeOutside
  case stmt =>
    intro stmt
    have hnode := recordedAs_rebuild hr (.stmt stmt)
    exact (hnode.of_map fun _ _ => Node.stmt.inj).oneCallPerNodeOutside
  case exprs =>
    intro es
    have hnodes := recordedAs_rebuildAll hr (es.map .expr)
    rw [Node.mapM_rebuild_expr, Node.mapM_rebuild_expr] at hnodes
    rw [exprs_eq_mapM hr.lists, exprs_eq_mapM hr.recording.lists]
    exact (hnodes.of_map fun _ _ => Node.map_expr_inj.1).oneCallPerNodeOutside
  case stmts =>
    intro ss
    have hnodes := recordedAs_rebuildAll hr (ss.map .stmt)
    rw [Node.mapM_rebuild_stmt, Node.mapM_rebuild_stmt] at hnodes
    rw [stmts_eq_mapM hr.lists, stmts_eq_mapM hr.recording.lists]
    exact (hnodes.of_map fun _ _ => Node.map_stmt_inj.1).oneCallPerNodeOutside

end Runs

/-! ## Traced edits that stop at one sort of site -/

def Override.site : Override → Site
  | .expr kind => .expr kind
  | .stmt kind => .stmt kind
  | .method => .method

theorem Rebuild.overrides_traced (d : Edits) (o : Override) :
    (traced d (some o.site)).Overrides o where
  lists := by constructor <;> cases o <;> simp [traced, Traced.enter, Override.site]
  enters n hn := by
    cases n <;> cases o <;>
      simp_all [enter, traced, Traced.enter, Override.site, Override.keeps, Ne.symm]
  keeps n s hn := by
    cases n <;> cases o <;>
      simp_all [enter, traced, Traced.enter, Override.site, Override.keeps]
  entersMethods ho method := by
    cases o <;> simp_all [traced, Traced.enter, Override.site]
  keepsMethods ho method s := by
    simp [ho, traced, Traced.enter, Override.site]

/-- A class with a getter and a method.  Both read a variable that is renamed, and
methods are kept. -/
theorem Rebuild.overridden_method_keeps_class :
    let read (name : String) : Expr := .readVar (.named name) none none
    let method : Method := ⟨some "m", [], [.ret (read "x") none], none, .none⟩
    let cls (name : String) : Stmt :=
      .declareClass "C" none [] [⟨"g", [.ret (read name) none], none, .none⟩]
        ⟨none, [], [], none, .none⟩ [method] .none none
    let r : Rebuild Traced :=
      traced { Edits.none with rename := some ⟨"x", "y"⟩ } (some .method)
    r.Overrides .method ∧ result ((cls "x").rebuild r) #[] = cls "y" ∧
      Override.method.outside (.stmt (cls "x")) =
        [.expr (read "x"), .stmt (.ret (read "x") none), .stmt (cls "x")] ∧
      OneCallPerNodeOutside .method [.stmt (cls "x")] (fun answer => [.stmt answer])
        ((cls "x").rebuild r) ((cls "x").rebuild r.recording) := by
  intro read method cls r
  have hr : r.Overrides .method := overrides_traced _ .method
  refine ⟨hr, by rfl, ?_, (overridden_method_keeps hr).2.1 (cls "x")⟩
  have hmethod : ∀ n, Override.method.keeps n = false := by
    intro n
    cases n <;> rfl
  simp [Override.outside_of_not_keeps, hmethod, Override.opened, Node.children,
    Stmt.children, Expr.children, cls, read]

end CodeTree
