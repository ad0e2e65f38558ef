import CodeTree.Proofs.Rebuild.Calls
import CodeTree.Proofs.Walk.Stepwise

namespace CodeTree

open Effects
open Phrase (node?)
open Rebuild (everywhere)

namespace Node

def expr? : Node → Option Expr
  | .expr e => some e
  | .stmt _ => none

theorem mem_filterMap_expr?_iff {ns : List Node} {e : Expr} :
    e ∈ ns.filterMap expr? ↔ .expr e ∈ ns := by
  rw [List.mem_filterMap]
  constructor
  · rintro ⟨n, hn, hexpr⟩
    cases n with
    | expr c =>
        rw [← Option.some.inj hexpr]
        exact hn
    | stmt s => cases hexpr
  · intro h
    exact ⟨.expr e, h, rfl⟩

end Node

/-! ## Walks outside types -/

section Outside

variable {m : Type → Type} [Monad m]

namespace Walk

/-- Passes every type by.  The hook on the way out of an expression is free. -/
def outsideTypes (onLeave : Expr → m Bool) : Walk m :=
  { everywhere with
    leaveExpr := onLeave
    enterTy := fun _ => pure .past }

theorem entersLists_outsideTypes (onLeave : Expr → m Bool) :
    (outsideTypes onLeave).EntersLists where
  exprs _ := rfl
  stmts _ := rfl
  params _ := rfl
  method _ := rfl

end Walk

open Walk (outsideTypes entersLists_outsideTypes)

def Node.leave (onLeave : Expr → m Bool) : Node → m Unit
  | .expr e => discard (onLeave e)
  | .stmt _ => pure ()

variable [LawfulMonad m]

theorem Phrase.forM_eq_forM_nodes {F : Phrase → m Unit}
    (htypes : ∀ t, F (.ty t) = pure ())
    (ps : List Phrase) : forM ps F = forM (ps.filterMap node?) fun n => F n.phrase := by
  induction ps with
  | nil => rfl
  | cons p ps ih =>
      cases p with
      | ty t => rw [List.forM_cons, htypes, pure_bind, ih, List.filterMap_cons_none rfl]
      | expr e => simp [node?, ih]
      | stmt s => simp [node?, ih]

variable (onLeave : Expr → m Bool)

theorem Ty.walk_outsideTypes (t : Ty) : t.walk (outsideTypes onLeave) = pure () := by
  simp [walk_eq, outsideTypes, Walk.atTy, Walk.visit]

theorem Node.walk_outsideTypes_step (n : Node) :
    n.phrase.walk (outsideTypes onLeave) =
      (do
        forM n.children fun c => c.phrase.walk (outsideTypes onLeave)
        n.leave onLeave) := by
  have htypes : ∀ t, (Phrase.ty t).walk (outsideTypes onLeave) = pure () :=
    Ty.walk_outsideTypes onLeave
  cases n with
  | expr e =>
      have hinner : forM e.innerParts (Phrase.walk (outsideTypes onLeave)) =
          forM e.children fun c => c.phrase.walk (outsideTypes onLeave) := by
        rw [Phrase.forM_eq_forM_nodes htypes, e.filterMap_node?_innerParts]
      have htype : forM (e.type?.toList.map .ty) (Phrase.walk (outsideTypes onLeave)) =
          pure () := by
        cases e.type? <;> simp [htypes]
      calc
        e.walk (outsideTypes onLeave) =
            (outsideTypes onLeave).atExpr e
              (forM e.innerParts (Phrase.walk (outsideTypes onLeave)))
              (forM (e.type?.toList.map .ty) (Phrase.walk (outsideTypes onLeave))) :=
            Expr.walk_eq (entersLists_outsideTypes onLeave) e
        _ = (do
              forM e.children fun c => c.phrase.walk (outsideTypes onLeave)
              discard (onLeave e)) := by
            rw [hinner, htype, Walk.atExpr, Walk.goIf_pure]
            exact Walk.visit_pure_into _ _
  | stmt s =>
      have hparts : forM s.parts (Phrase.walk (outsideTypes onLeave)) =
          forM s.children fun c => c.phrase.walk (outsideTypes onLeave) := by
        rw [Phrase.forM_eq_forM_nodes htypes, s.filterMap_node?_parts]
      rw [phrase, Phrase.walk, Stmt.walk_eq (entersLists_outsideTypes onLeave), hparts]
      simp [outsideTypes, Walk.everywhere, leave, children]

theorem Node.walk_outsideTypes (n : Node) :
    n.phrase.walk (outsideTypes onLeave) = forM n.postorder (leave onLeave) := by
  induction n using Node.induction with
  | node n ih =>
      rw [walk_outsideTypes_step, postorder_eq, List.forM_append, forM_flatMap,
        forM_congr_of_mem ih]
      simp

end Outside

/-! ## Rebuilds that keep every node -/

section Keeping

variable {ρ : Type} {onExpr : Expr → StateM ρ Expr} {onStmt : Stmt → StateM ρ Stmt}

theorem Node.result_rebuild (hexpr : ∀ e s, result (onExpr e) s = e)
    (hstmt : ∀ stmt s, result (onStmt stmt) s = stmt) (n : Node) (s : ρ) :
    result (n.rebuild (everywhere onExpr onStmt)) s = n := by
  have hkept : (∀ (e : Expr) s,
        (result (e.rebuild (everywhere onExpr onStmt)) s).relabel {} = e.relabel {}) ∧
      ∀ (stmt : Stmt) s,
        (result (stmt.rebuild (everywhere onExpr onStmt)) s).relabel {} =
          stmt.relabel {} :=
    Tree.relabel_rebuild_everywhere (fun e s => by rw [hexpr])
      (fun stmt s => by rw [hstmt])
  simp only [Tree.relabel_id] at hkept
  cases n with
  | expr e => exact congrArg Node.expr (hkept.1 e s)
  | stmt stmt => exact congrArg Node.stmt (hkept.2 stmt s)

theorem Node.after_rebuild (hexpr : ∀ e s, result (onExpr e) s = e)
    (hstmt : ∀ stmt s, result (onStmt stmt) s = stmt) (n : Node) (s : ρ) :
    after (n.rebuild (everywhere onExpr onStmt)) s =
      after (forM n.postorder fun c => discard (c.mapM onExpr onStmt)) s := by
  induction n using Node.induction generalizing s with
  | node n ih =>
      let joined : StateM ρ Node :=
        n.mapChildrenM (Expr.rebuild (everywhere onExpr onStmt))
          (Stmt.rebuild (everywhere onExpr onStmt))
      -- The children come back as they were, so the hook is called on the node itself.
      have hjoined : result joined s = n := by
        apply eq_of_shell_eq (shell_result_mapChildrenM n s)
        have hchildren :
            (result (n.children.mapM (rebuild (everywhere onExpr onStmt))) s).map id =
            n.children.map id :=
          map_result_mapM (fun c _ s => result_rebuild hexpr hstmt c s) s
        rw [List.map_id, List.map_id] at hchildren
        rw [children_result_mapChildrenM]
        exact hchildren
      have hbelow : after joined s =
          after (forM n.children fun c =>
            forM c.postorder fun c => discard (c.mapM onExpr onStmt)) s := by
        rw [after_mapChildrenM]
        exact after_mapM ih s
      calc
        after (n.rebuild (everywhere onExpr onStmt)) s =
            after ((result joined s).mapM onExpr onStmt) (after joined s) := by
            rw [rebuild_everywhere, after_bind]
        _ = after (forM n.postorder fun c => discard (c.mapM onExpr onStmt)) s := by
            rw [hjoined, hbelow, postorder_eq, List.forM_append, forM_flatMap]
            rfl

end Keeping

/-! ## What both meet -/

section Meeting

open Walk (outsideTypes)

variable {σ τ : Type}

def recordExpr (onLeave : Expr → StateM τ Bool) (e : Expr) :
    StateM (τ × List Expr) Bool := do
  let (t, met) ← get
  set (after (onLeave e) t, met ++ [e])
  return result (onLeave e) t

def exprArguments (calls : List Call) : List Expr :=
  calls.filterMap fun call => call.argument.expr?

/-- The rebuild calls its hook for expressions on the same expressions as the walk
leaves, in the same order and as often. -/
def MeetSameExprs {α : Type} (rebuilding : StateM (σ × List Call) α)
    (walking : StateM (τ × List Expr) Unit) : Prop :=
  ∀ s t, exprArguments (after rebuilding (s, [])).2 = (after walking (t, [])).2

theorem log_leave (onLeave : Expr → StateM τ Bool) (n : Node) (t : τ) (met : List Expr) :
    (after (n.leave (recordExpr onLeave)) (t, met)).2 = met ++ n.expr?.toList := by
  cases n with
  | expr e => rfl
  | stmt s => exact (List.append_nil met).symm

variable {onExpr : Expr → StateM σ Expr} {onStmt : Stmt → StateM σ Stmt}

theorem log_hooks (hexpr : ∀ e s, result (onExpr e) s = e)
    (hstmt : ∀ stmt s, result (onStmt stmt) s = stmt) (n : Node) (s : σ)
    (log : List Call) :
    (after (discard (n.mapM (recordCall .expr onExpr) (recordCall .stmt onStmt)))
        (s, log)).2 =
      log ++ [⟨n, n⟩] := by
  have hanswer : result (n.mapM onExpr onStmt) s = n := by
    cases n with
    | expr e => exact congrArg Node.expr (hexpr e s)
    | stmt stmt => exact congrArg Node.stmt (hstmt stmt s)
  have hafter := (records_hooks onExpr onStmt n s log).after_eq
  rw [hanswer] at hafter
  exact congrArg Prod.snd hafter

theorem calls_rebuild (hexpr : ∀ e s, result (onExpr e) s = e)
    (hstmt : ∀ stmt s, result (onStmt stmt) s = stmt) (ns : List Node) (s : σ) :
    (after (ns.mapM (Node.rebuild (Rebuild.recorded onExpr onStmt))) (s, [])).2 =
      (ns.flatMap Node.postorder).flatMap fun c => [⟨c, c⟩] := by
  have hkeeps : ∀ e s, result (recordCall .expr onExpr e) s = e := fun e s => hexpr e s.1
  have hkeeps' : ∀ stmt s, result (recordCall .stmt onStmt stmt) s = stmt :=
    fun stmt s => hstmt stmt s.1
  rw [Rebuild.recorded, after_mapM fun n _ => Node.after_rebuild hkeeps hkeeps' n,
    ← forM_flatMap]
  exact log_after_forM (log_hooks hexpr hstmt) _ s []

theorem exprArguments_rebuild (hexpr : ∀ e s, result (onExpr e) s = e)
    (hstmt : ∀ stmt s, result (onStmt stmt) s = stmt) (ns : List Node) (s : σ) :
    exprArguments (after (ns.mapM (Node.rebuild (Rebuild.recorded onExpr onStmt)))
        (s, [])).2 =
      (ns.flatMap Node.postorder).filterMap Node.expr? := by
  rw [calls_rebuild hexpr hstmt, exprArguments, List.filterMap_flatMap,
    List.filterMap_eq_flatMap_toList]
  refine List.flatMap_congr ?_
  intro c _
  cases c <;> rfl

theorem meetSameExprs_nodes (hexpr : ∀ e s, result (onExpr e) s = e)
    (hstmt : ∀ stmt s, result (onStmt stmt) s = stmt) (onLeave : Expr → StateM τ Bool)
    (ns : List Node) :
    MeetSameExprs (ns.mapM (Node.rebuild (Rebuild.recorded onExpr onStmt)))
      (forM ns fun n => n.phrase.walk (outsideTypes (recordExpr onLeave))) := by
  intro s t
  have hmet : (after (forM ns fun n => n.phrase.walk (outsideTypes (recordExpr onLeave)))
      (t, [])).2 = (ns.flatMap Node.postorder).flatMap fun c => c.expr?.toList := by
    rw [forM_congr_of_mem fun n _ => Node.walk_outsideTypes (recordExpr onLeave) n,
      ← forM_flatMap]
    exact log_after_forM (log_leave onLeave) _ t []
  rw [exprArguments_rebuild hexpr hstmt, hmet, List.filterMap_eq_flatMap_toList]

/-- Where the hooks return what they are given, a rebuild and a walk that passes every
type by meet the same expressions, in a single expression or statement and in lists of
them. -/
theorem Rebuild.meets_the_exprs_of_walk (hexpr : ∀ e s, result (onExpr e) s = e)
    (hstmt : ∀ stmt s, result (onStmt stmt) s = stmt) (onLeave : Expr → StateM τ Bool) :
    (∀ e : Expr, MeetSameExprs (e.rebuild (recorded onExpr onStmt))
      (e.walk (outsideTypes (recordExpr onLeave)))) ∧
    (∀ stmt : Stmt, MeetSameExprs (stmt.rebuild (recorded onExpr onStmt))
      (stmt.walk (outsideTypes (recordExpr onLeave)))) ∧
    (∀ es, MeetSameExprs ((recorded onExpr onStmt).exprs es)
      ((outsideTypes (recordExpr onLeave)).exprs es)) ∧
    ∀ ss, MeetSameExprs ((recorded onExpr onStmt).stmts ss)
      ((outsideTypes (recordExpr onLeave)).stmts ss) := by
  have hnodes := meetSameExprs_nodes hexpr hstmt onLeave
  refine ⟨?expr, ?stmt, ?exprs, ?stmts⟩
  case expr =>
    intro e
    exact hnodes [.expr e]
  case stmt =>
    intro stmt
    exact hnodes [.stmt stmt]
  case exprs =>
    intro es
    have hlist := hnodes (es.map .expr)
    rw [Node.mapM_rebuild_expr, List.forM_map] at hlist
    rw [recorded, exprs_everywhere, Walk.exprs, Tree.walkExprs_eq_forM, List.forM_map]
    exact hlist
  case stmts =>
    intro ss
    have hlist := hnodes (ss.map .stmt)
    rw [Node.mapM_rebuild_stmt, List.forM_map] at hlist
    rw [recorded, stmts_everywhere, Walk.stmts, Tree.walkStmts_eq_forM, List.forM_map]
    exact hlist

def countExpr (e : Expr) : StateM Nat Expr := do
  modify (· + 1)
  return e

/-- Neither of the two meets the expression in the type of the read. -/
theorem Rebuild.meets_the_exprs_of_walk_counting :
    let read : Expr := .readVar (.named "x") (some (.expr .super .none)) none
    let rebuilding := (recorded countExpr pure).stmts [.ret (.not read none) none]
    let walking :=
      (outsideTypes (recordExpr fun _ => (pure true : StateM Unit Bool))).stmts
        [.ret (.not read none) none]
    (∀ e s, result (countExpr e) s = e) ∧
      (∀ stmt s, result (pure stmt : StateM Nat Stmt) s = stmt) ∧
      MeetSameExprs rebuilding walking ∧
      exprArguments (after rebuilding (0, [])).2 = [read, .not read none] := by
  intro read rebuilding walking
  refine ⟨fun _ _ => rfl, fun _ _ => rfl, ?_, by rfl⟩
  exact (meets_the_exprs_of_walk (fun _ _ => rfl) (fun _ _ => rfl) _).2.2.2 _

end Meeting

end CodeTree
