import CodeTree.Proofs.Rebuild.Nodewise
import CodeTree.Proofs.Tree.Shells
import CodeTree.Rebuild.Traced

/-!
# The calls of the hooks

A recording rebuild runs hooks of any kind as they are and writes down each call: one
for every node, children first, on that node with the answers for its children in it.
-/

namespace CodeTree

open Effects
open Rebuild (everywhere)

structure Call where
  argument : Node
  answer : Node

/-! ## Recording -/

section Recording

variable {σ : Type}

def recordCall {α : Type} (node : α → Node) (hook : α → StateM σ α) (a : α) :
    StateM (σ × List Call) α := do
  let (s, log) ← get
  set (after (hook a) s, log ++ [⟨node a, node (result (hook a) s)⟩])
  return result (hook a) s

namespace Rebuild

def recorded (onExpr : Expr → StateM σ Expr) (onStmt : Stmt → StateM σ Stmt) :
    Rebuild (StateM (σ × List Call)) :=
  everywhere (recordCall .expr onExpr) (recordCall .stmt onStmt)

end Rebuild

variable {α β : Type}

/-- A computation and its recording return the same and leave the same state behind.
The recording adds the given calls to its record. -/
structure Records (plain : StateM σ α) (recording : StateM (σ × List Call) α) (s : σ)
    (log calls : List Call) : Prop where
  result_eq : result recording (s, log) = result plain s
  after_eq : after recording (s, log) = (after plain s, log ++ calls)

namespace Records

variable {s : σ} {log calls calls' : List Call}

theorem pure (a : α) : Records (Pure.pure a) (Pure.pure a) s log [] where
  result_eq := rfl
  after_eq := by simp

theorem bind {plain : StateM σ α} {recording : StateM (σ × List Call) α}
    {k : α → StateM σ β} {k' : α → StateM (σ × List Call) β}
    (hfirst : Records plain recording s log calls)
    (hnext : Records (k (result plain s)) (k' (result plain s)) (after plain s)
      (log ++ calls) calls') :
    Records (plain >>= k) (recording >>= k') s log (calls ++ calls') where
  result_eq := by
    rw [result_bind, result_bind, hfirst.result_eq, hfirst.after_eq, hnext.result_eq]
  after_eq := by
    rw [after_bind, after_bind, hfirst.result_eq, hfirst.after_eq, hnext.after_eq,
      List.append_assoc]

theorem map {plain : StateM σ α} {recording : StateM (σ × List Call) α} (f : α → β)
    (h : Records plain recording s log calls) :
    Records (f <$> plain) (f <$> recording) s log calls where
  result_eq := congrArg f h.result_eq
  after_eq := h.after_eq

theorem of_map {plain : StateM σ α} {recording : StateM (σ × List Call) α} {f : α → β}
    (hinj : ∀ a a', f a = f a' → a = a')
    (h : Records (f <$> plain) (f <$> recording) s log calls) :
    Records plain recording s log calls where
  result_eq := hinj _ _ h.result_eq
  after_eq := h.after_eq

end Records

theorem records_recordCall (node : α → Node) (hook : α → StateM σ α) (a : α) (s : σ)
    (log : List Call) :
    Records (hook a) (recordCall node hook a) s log
      [⟨node a, node (result (hook a) s)⟩] where
  result_eq := rfl
  after_eq := rfl

end Recording

/-- The calls that are made on a list of trees, and the answers for the trees
themselves.  The calls on what stands below a tree come first.  Then its own node is
called on, with the answers for its children in their places. -/
inductive CallsFor : List Node → List Call → List Node → Prop where
  | nil : CallsFor [] [] []
  | cons {n : Node} {ns : List Node} {below rest : List Call} {call : Call}
      {answers : List Node} (children : CallsFor n.children below call.argument.children)
      (shell : call.argument.shell = n.shell) (others : CallsFor ns rest answers) :
      CallsFor (n :: ns) (below ++ call :: rest) (call.answer :: answers)

theorem CallsFor.append {ns ns' : List Node} {calls calls' : List Call}
    {answers answers' : List Node} (h : CallsFor ns calls answers)
    (h' : CallsFor ns' calls' answers') :
    CallsFor (ns ++ ns') (calls ++ calls') (answers ++ answers') := by
  induction h with
  | nil => exact h'
  | cons children shell _ _ ih =>
      rw [List.append_assoc]
      exact .cons children shell ih

/-- Call by call, the argument looks like the node of the input that stands at this
place of the postorder, and only its children may be others. -/
theorem CallsFor.map_shell {ns : List Node} {calls : List Call} {answers : List Node}
    (h : CallsFor ns calls answers) :
    calls.map (fun call => call.argument.shell) =
      (ns.flatMap Node.postorder).map Node.shell := by
  induction h with
  | nil => rfl
  | cons _ shell _ ihchildren ihothers =>
      rw [List.flatMap_cons, Node.postorder_eq]
      simp [ihchildren, ihothers, shell]

/-! ## Rebuilds that are recorded -/

section Nodes

variable {m : Type → Type} [Monad m]

def Node.rebuild (r : Rebuild m) : Node → m Node :=
  mapM (Expr.rebuild r) (Stmt.rebuild r)

theorem Node.rebuild_everywhere [LawfulMonad m] (onExpr : Expr → m Expr)
    (onStmt : Stmt → m Stmt) (n : Node) :
    n.rebuild (everywhere onExpr onStmt) =
      n.mapChildrenM (Expr.rebuild (everywhere onExpr onStmt))
        (Stmt.rebuild (everywhere onExpr onStmt)) >>= mapM onExpr onStmt := by
  cases n with
  | expr e => simp [rebuild, mapM, mapChildrenM, Expr.rebuild_everywhere]
  | stmt s => simp [rebuild, mapM, mapChildrenM, Stmt.rebuild_everywhere]

end Nodes

section Runs

variable {σ α β : Type} {plain : StateM σ α} {recording : StateM (σ × List Call) α}

/-- A computation on a list of trees is recorded as calls that fit to the trees and to
the answers, whatever state it starts in and whatever the record holds. -/
def RecordedAs (Fits : List Node → List Call → List Node → Prop) (ns : List Node)
    (answers : α → List Node) (plain : StateM σ α)
    (recording : StateM (σ × List Call) α) : Prop :=
  ∀ s log, ∃ calls, Records plain recording s log calls ∧
    Fits ns calls (answers (result plain s))

theorem RecordedAs.of_map {Fits : List Node → List Call → List Node → Prop}
    {ns : List Node} {f : α → β} {answers : β → List Node}
    (hinj : ∀ a a', f a = f a' → a = a')
    (h : RecordedAs Fits ns answers (f <$> plain) (f <$> recording)) :
    RecordedAs Fits ns (fun a => answers (f a)) plain recording := by
  intro s log
  obtain ⟨calls, hrecords, hcalls⟩ := h s log
  exact ⟨calls, hrecords.of_map hinj, hcalls⟩

theorem recordedAs_mapM {Fits : List Node → List Call → List Node → Prop}
    (hnil : Fits [] [] [])
    (happend : ∀ {ns ns' calls calls' answers answers'}, Fits ns calls answers →
      Fits ns' calls' answers' → Fits (ns ++ ns') (calls ++ calls') (answers ++ answers'))
    {ns : List Node} {plain : Node → StateM σ Node}
    {recording : Node → StateM (σ × List Call) Node}
    (h : ∀ n ∈ ns, RecordedAs Fits [n] (fun a => [a]) (plain n) (recording n)) :
    RecordedAs Fits ns id (ns.mapM plain) (ns.mapM recording) := by
  induction ns with
  | nil =>
      intro s log
      exact ⟨[], Records.pure [], hnil⟩
  | cons n ns ih =>
      intro s log
      obtain ⟨calls, hrecords, hcalls⟩ := h n List.mem_cons_self s log
      obtain ⟨calls', hrecords', hcalls'⟩ :=
        ih (fun c hc => h c (List.mem_cons_of_mem n hc)) (after (plain n) s)
          (log ++ calls)
      refine ⟨calls ++ calls', ?_, ?_⟩
      · rw [List.mapM_cons, List.mapM_cons, ← List.append_nil calls']
        apply hrecords.bind
        apply hrecords'.bind
        exact Records.pure _
      · simpa using happend hcalls hcalls'

/-- A computation on a list of trees is recorded as calls in order. -/
def CallsInOrder (ns : List Node) (answers : α → List Node) (plain : StateM σ α)
    (recording : StateM (σ × List Call) α) : Prop :=
  RecordedAs CallsFor ns answers plain recording

/-- Every run is recorded as one call for each node of the trees, in postorder.  The
argument of a call is the node that stands at its place of the postorder, up to
children, and its children are the answers of the calls on the children of that node. -/
def OneCallPerNode (ns : List Node) (answers : α → List Node) (plain : StateM σ α)
    (recording : StateM (σ × List Call) α) : Prop :=
  ∀ s log, ∃ calls, Records plain recording s log calls ∧
    calls.map (fun call => call.argument.shell) =
      (ns.flatMap Node.postorder).map Node.shell ∧
    CallsFor ns calls (answers (result plain s))

theorem RecordedAs.oneCallPerNode {ns : List Node} {answers : α → List Node}
    (h : RecordedAs CallsFor ns answers plain recording) :
    OneCallPerNode ns answers plain recording := by
  intro s log
  obtain ⟨calls, hrecords, hcalls⟩ := h s log
  exact ⟨calls, hrecords, hcalls.map_shell, hcalls⟩

variable {onExpr : Expr → StateM σ Expr} {onStmt : Stmt → StateM σ Stmt}

/-- Rebuilding the children and joining the node from them is recorded as the calls on
the children.  The recording joins the same node. -/
theorem records_mapChildrenM {n : Node} {s : σ} {log calls : List Call}
    {F : Expr → StateM σ Expr} {F' : Stmt → StateM σ Stmt}
    {G : Expr → StateM (σ × List Call) Expr} {G' : Stmt → StateM (σ × List Call) Stmt}
    (h : Records (n.children.mapM (Node.mapM F F')) (n.children.mapM (Node.mapM G G'))
      s log calls) :
    Records (n.mapChildrenM F F') (n.mapChildrenM G G') s log calls where
  result_eq := by
    apply Node.eq_of_shell_eq
    · rw [Node.shell_result_mapChildrenM, Node.shell_result_mapChildrenM]
    · rw [Node.children_result_mapChildrenM, Node.children_result_mapChildrenM,
        h.result_eq]
  after_eq := by
    rw [Node.after_mapChildrenM, Node.after_mapChildrenM, h.after_eq]

variable (onExpr onStmt)

theorem records_hooks (n : Node) (s : σ) (log : List Call) :
    Records (n.mapM onExpr onStmt)
      (n.mapM (recordCall .expr onExpr) (recordCall .stmt onStmt)) s log
      [⟨n, result (n.mapM onExpr onStmt) s⟩] := by
  cases n with
  | expr e => exact (records_recordCall .expr onExpr e s log).map Node.expr
  | stmt stmt => exact (records_recordCall .stmt onStmt stmt s log).map Node.stmt

theorem callsInOrder_rebuild_step {n : Node}
    (h : CallsInOrder n.children id
      (n.children.mapM (Node.rebuild (everywhere onExpr onStmt)))
      (n.children.mapM (Node.rebuild (Rebuild.recorded onExpr onStmt)))) :
    CallsInOrder [n] (fun a => [a]) (n.rebuild (everywhere onExpr onStmt))
      (n.rebuild (Rebuild.recorded onExpr onStmt)) := by
  intro s log
  obtain ⟨below, hrecords, hbelow⟩ := h s log
  let joined : StateM σ Node := n.mapChildrenM (Expr.rebuild (everywhere onExpr onStmt))
    (Stmt.rebuild (everywhere onExpr onStmt))
  let call : Call :=
    { argument := result joined s
      answer := result (n.rebuild (everywhere onExpr onStmt)) s }
  have hanswer : result (n.rebuild (everywhere onExpr onStmt)) s =
      result ((result joined s).mapM onExpr onStmt) (after joined s) := by
    rw [Node.rebuild_everywhere, result_bind]
  refine ⟨below ++ [call], ?records, ?calls⟩
  case records =>
    rw [Rebuild.recorded, Node.rebuild_everywhere, Node.rebuild_everywhere]
    apply (records_mapChildrenM hrecords).bind
    have hhooks :=
      records_hooks onExpr onStmt (result joined s) (after joined s) (log ++ below)
    rw [← hanswer] at hhooks
    exact hhooks
  case calls =>
    have hchildren : CallsFor n.children below call.argument.children := by
      rw [Node.children_result_mapChildrenM]
      exact hbelow
    exact .cons hchildren (Node.shell_result_mapChildrenM n s) .nil

theorem callsInOrder_rebuild (n : Node) :
    CallsInOrder [n] (fun a => [a]) (n.rebuild (everywhere onExpr onStmt))
      (n.rebuild (Rebuild.recorded onExpr onStmt)) := by
  induction n using Node.induction with
  | node n ih =>
      exact callsInOrder_rebuild_step onExpr onStmt
        (recordedAs_mapM .nil CallsFor.append ih)

theorem callsInOrder_rebuildAll (ns : List Node) :
    CallsInOrder ns id (ns.mapM (Node.rebuild (everywhere onExpr onStmt)))
      (ns.mapM (Node.rebuild (Rebuild.recorded onExpr onStmt))) :=
  recordedAs_mapM .nil CallsFor.append fun n _ => callsInOrder_rebuild onExpr onStmt n

theorem Node.mapM_rebuild_expr {m : Type → Type} [Monad m] [LawfulMonad m] (r : Rebuild m)
    (es : List Expr) :
    (es.map expr).mapM (Node.rebuild r) = List.map expr <$> es.mapM (Expr.rebuild r) := by
  rw [List.mapM_map]
  exact mapM_expr es

theorem Node.mapM_rebuild_stmt {m : Type → Type} [Monad m] [LawfulMonad m] (r : Rebuild m)
    (ss : List Stmt) :
    (ss.map stmt).mapM (Node.rebuild r) = List.map stmt <$> ss.mapM (Stmt.rebuild r) := by
  rw [List.mapM_map]
  exact mapM_stmt ss

/-- Whatever the hooks return and remember, they are called once for each node of the
input and on nothing else. -/
theorem Rebuild.hooks_called_in_postorder :
    (∀ e : Expr, OneCallPerNode [.expr e] (fun answer => [.expr answer])
      (e.rebuild (everywhere onExpr onStmt)) (e.rebuild (recorded onExpr onStmt))) ∧
    (∀ stmt : Stmt, OneCallPerNode [.stmt stmt] (fun answer => [.stmt answer])
      (stmt.rebuild (everywhere onExpr onStmt)) (stmt.rebuild (recorded onExpr onStmt))) ∧
    (∀ es, OneCallPerNode (es.map .expr) (List.map .expr)
      ((everywhere onExpr onStmt).exprs es) ((recorded onExpr onStmt).exprs es)) ∧
    ∀ ss, OneCallPerNode (ss.map .stmt) (List.map .stmt)
      ((everywhere onExpr onStmt).stmts ss) ((recorded onExpr onStmt).stmts ss) := by
  refine ⟨?expr, ?stmt, ?exprs, ?stmts⟩
  case expr =>
    intro e
    have hnode := callsInOrder_rebuild onExpr onStmt (.expr e)
    exact (hnode.of_map fun _ _ => Node.expr.inj).oneCallPerNode
  case stmt =>
    intro stmt
    have hnode := callsInOrder_rebuild onExpr onStmt (.stmt stmt)
    exact (hnode.of_map fun _ _ => Node.stmt.inj).oneCallPerNode
  case exprs =>
    intro es
    have hnodes := callsInOrder_rebuildAll onExpr onStmt (es.map .expr)
    rw [Node.mapM_rebuild_expr, Node.mapM_rebuild_expr] at hnodes
    rw [exprs_everywhere, recorded, exprs_everywhere]
    exact (hnodes.of_map fun _ _ => Node.map_expr_inj.1).oneCallPerNode
  case stmts =>
    intro ss
    have hnodes := callsInOrder_rebuildAll onExpr onStmt (ss.map .stmt)
    rw [Node.mapM_rebuild_stmt, Node.mapM_rebuild_stmt] at hnodes
    rw [stmts_everywhere, recorded, stmts_everywhere]
    exact (hnodes.of_map fun _ _ => Node.map_stmt_inj.1).oneCallPerNode

end Runs

def negateRead (e : Expr) : StateM Unit Expr :=
  pure (e.negateKind .readVar)

-- The negation that the hook makes up is a child of the second argument and no argument
-- itself.
example : after ((Expr.not .this none).rebuild (Rebuild.recorded negateRead pure))
    ((), []) =
    ((), [⟨.expr .this, .expr (.not .this none)⟩,
      ⟨.expr (.not (.not .this none) none), .expr (.not (.not .this none) none)⟩]) := by
  rfl

end CodeTree
