import CodeTree.Proofs.Walk.Noting
import CodeTree.Walk.Traced

/-!
# Overriding the method of one kind of expression

Where the method of a kind does not call back, nothing in such an expression is called
for but the hook on the way out, which by default goes on into the type.
-/

namespace CodeTree

open Effects
open Route (walked)

inductive Visit where
  | method (p : Phrase)
  | hook (p : Phrase)

/-! ## The calls of a visitor -/

namespace Phrase

variable (kind : ExprKind) (intoType : Bool)

/-- What the method of a phrase goes on to. -/
def inside : Phrase → List Phrase
  | .ty t => t.parts
  | .expr e => if e.kind = kind then [] else e.innerParts
  | .stmt s => s.parts

def hooks : Phrase → List Visit
  | .ty t => [.hook (.ty t)]
  | .expr e => [.hook (.expr e)]
  | .stmt _ => []

/-- What the hook of a phrase goes on to. -/
def beyond : Phrase → List Phrase
  | .ty _ => []
  | .expr e => if e.kind = kind ∧ intoType = false then [] else e.type?.toList.map .ty
  | .stmt _ => []

variable {kind intoType} {p q : Phrase}

theorem mem_walked_of_mem_inside (h : q ∈ p.inside kind) : q ∈ walked.next p := by
  cases p with
  | expr e =>
      rw [inside] at h
      split at h
      · cases h
      · rw [Route.next_walked_expr]
        exact List.mem_append_left _ h
  | _ => exact List.mem_append_left _ h

theorem mem_walked_of_mem_beyond (h : q ∈ p.beyond kind intoType) :
    q ∈ walked.next p := by
  cases p with
  | expr e =>
      rw [beyond] at h
      split at h
      · cases h
      · rw [Route.next_walked_expr]
        exact List.mem_append_right _ h
  | _ => cases h

variable (kind intoType)

/-- All calls for a phrase and what it goes on to, when the method of one kind of
expression does not call back.  It is up to the flag whether the hook of such an
expression goes on into its type. -/
def visits (p : Phrase) : List Visit :=
  .method p :: ((p.inside kind).attach.flatMap fun q => visits q.1) ++
    (p.hooks ++ (p.beyond kind intoType).attach.flatMap fun q => visits q.1)
termination_by p.weight
decreasing_by
  · exact walked.descends p q.1 (mem_walked_of_mem_inside q.2)
  · exact walked.descends p q.1 (mem_walked_of_mem_beyond q.2)

theorem visits_eq (p : Phrase) :
    p.visits kind intoType =
      .method p :: ((p.inside kind).flatMap (visits kind intoType) ++
        (p.hooks ++ (p.beyond kind intoType).flatMap (visits kind intoType))) := by
  rw [visits, List.flatMap_subtype (g := visits kind intoType) (by simp),
    List.unattach_attach, List.flatMap_subtype (g := visits kind intoType) (by simp),
    List.unattach_attach, List.cons_append]

end Phrase

open Phrase (visits)

/-- For an expression whose method is overridden this method is called, and the hook,
which may go on into the type.  There are no other calls. -/
theorem Expr.visits_of_kind {e : Expr} {kind : ExprKind} (hkind : e.kind = kind)
    (intoType : Bool) :
    (Phrase.expr e).visits kind intoType = .method (.expr e) :: .hook (.expr e) ::
      if intoType then e.type?.toList.flatMap fun t => (Phrase.ty t).visits kind intoType
      else [] := by
  rw [Phrase.visits_eq]
  cases intoType <;>
    simp [Phrase.inside, Phrase.beyond, Phrase.hooks, hkind, List.flatMap_map]

/-! ## Recording -/

section Recording

variable {σ α : Type}

def logged (call : Visit) (x : StateM σ α) : StateM (σ × List Visit) α := do
  let (s, log) ← get
  set (after x s, log ++ [call])
  return result x s

def unlogged (x : StateM σ α) : StateM (σ × List Visit) α := do
  let (s, log) ← get
  set (after x s, log)
  return result x s

namespace Walk

def recorded (w : Walk (StateM σ)) : Walk (StateM (σ × List Visit)) where
  enterExpr e := logged (.method (.expr e)) (w.enterExpr e)
  leaveExpr e := logged (.hook (.expr e)) (w.leaveExpr e)
  enterTy t := logged (.method (.ty t)) (w.enterTy t)
  leaveTy t := logged (.hook (.ty t)) (w.leaveTy t)
  enterStmt s := logged (.method (.stmt s)) (w.enterStmt s)
  enterExprs es := unlogged (w.enterExprs es)
  enterStmts ss := unlogged (w.enterStmts ss)
  enterParams params := unlogged (w.enterParams params)
  enterMethod method := unlogged (w.enterMethod method)

/-- The calls that a visitor makes on a list of statements, from a state on. -/
def calls (w : Walk (StateM σ)) (ss : List Stmt) (s : σ) : List Visit :=
  (after (w.recorded.stmts ss) (s, [])).2

theorem EntersLists.recorded {w : Walk (StateM σ)} (hw : w.EntersLists) :
    w.recorded.EntersLists where
  exprs es := congrArg unlogged (hw.exprs es)
  stmts ss := congrArg unlogged (hw.stmts ss)
  params params := congrArg unlogged (hw.params params)
  method method := congrArg unlogged (hw.method method)

end Walk

/-- A computation and its recording leave the same state behind.  The recording adds
some of the given calls to its record, in their order.  If the computation is complete
it adds them all. -/
def Makes (complete : Prop) (plain : StateM σ Unit)
    (recording : StateM (σ × List Visit) Unit) (calls : List Visit) : Prop :=
  ∀ s log, ∃ made, after recording (s, log) = (after plain s, log ++ made) ∧
    made.Sublist calls ∧ (complete → made = calls)

namespace Makes

variable {complete : Prop} {x y : StateM σ Unit} {x' y' : StateM (σ × List Visit) Unit}
  {cs ds : List Visit} {c : Visit}

theorem nothing : Makes complete (pure () : StateM σ Unit) (pure ()) [] := by
  intro s log
  exact ⟨[], by simp, .refl [], fun _ => rfl⟩

theorem bind (hx : Makes complete x x' cs) (hy : Makes complete y y' ds) :
    Makes complete (do x; y) (do x'; y') (cs ++ ds) := by
  intro s log
  obtain ⟨first, hrun, hfirst, hall⟩ := hx s log
  obtain ⟨rest, hrun', hrest, hall'⟩ := hy (after x s) (log ++ first)
  refine ⟨first ++ rest, ?_, hfirst.append hrest, fun h => by rw [hall h, hall' h]⟩
  rw [after_bind, after_bind, hrun, hrun', List.append_assoc]

theorem forM {β : Type} {F : β → StateM σ Unit} {F' : β → StateM (σ × List Visit) Unit}
    {f : β → List Visit} {bs : List β} (h : ∀ b ∈ bs, Makes complete (F b) (F' b) (f b)) :
    Makes complete (forM bs F) (forM bs F') (bs.flatMap f) := by
  induction bs with
  | nil => exact nothing
  | cons b bs ih =>
      have hrest := ih fun b' hb' => h b' (List.mem_cons_of_mem b hb')
      rw [List.forM_cons, List.forM_cons, List.flatMap_cons]
      exact (h b List.mem_cons_self).bind hrest

theorem after_skipping (hskip : ¬ complete) (hx : Makes complete x x' ds) :
    Makes complete x x' (cs ++ ds) := by
  intro s log
  obtain ⟨made, hrun, hmade, -⟩ := hx s log
  exact ⟨made, hrun, hmade.trans (List.sublist_append_right cs ds),
    fun h => absurd h hskip⟩

theorem stop (hskip : ¬ complete) :
    Makes complete (pure () : StateM σ Unit) (pure ()) cs := by
  rw [← List.append_nil cs]
  exact nothing.after_skipping hskip

theorem logged_bind {enter : StateM σ α} {k : α → StateM σ Unit}
    {k' : α → StateM (σ × List Visit) Unit}
    (hk : ∀ s, Makes complete (k (result enter s)) (k' (result enter s)) cs) :
    Makes complete (enter >>= k) (logged c enter >>= k') (c :: cs) := by
  intro s log
  obtain ⟨made, hrun, hmade, hall⟩ := hk s (after enter s) (log ++ [c])
  refine ⟨c :: made, ?_, hmade.cons_cons c, fun h => by rw [hall h]⟩
  rw [List.append_cons]
  exact hrun

theorem logged : Makes complete x (logged c x) [c] := by
  intro s log
  exact ⟨[c], rfl, .refl [c], fun _ => rfl⟩

section Entering

variable {inside leave : StateM σ Unit} {inside' leave' : StateM (σ × List Visit) Unit}
  {enter : StateM σ Descent} {go : StateM σ Bool}

theorem visit (hinto : complete → ∀ s, result enter s = .into)
    (hinside : Makes complete inside inside' cs)
    (hleave : Makes complete leave leave' ds) :
    Makes complete (Walk.visit enter inside leave)
      (Walk.visit (CodeTree.logged c enter) inside' leave') (c :: (cs ++ ds)) := by
  apply logged_bind
  intro s
  match hanswer : result enter s with
  | .into => exact hinside.bind hleave
  | .over =>
      apply hleave.after_skipping
      intro h
      cases (hinto h s).symm.trans hanswer
  | .past =>
      apply stop
      intro h
      cases (hinto h s).symm.trans hanswer

theorem visit_over (hover : ∀ s, result enter s = .over)
    (hleave : Makes complete leave leave' ds) :
    Makes complete (Walk.visit enter inside leave)
      (Walk.visit (CodeTree.logged c enter) inside' leave') (c :: ds) := by
  apply logged_bind
  intro s
  rw [hover]
  exact hleave

theorem goIf (hgo : complete → ∀ s, result go s = true)
    (hinside : Makes complete inside inside' cs) :
    Makes complete (Walk.goIf go inside) (Walk.goIf (CodeTree.logged c go) inside')
      (c :: cs) := by
  apply logged_bind
  intro s
  cases hanswer : result go s with
  | true => exact hinside
  | false =>
      apply stop
      intro h
      cases (hgo h s).symm.trans hanswer

theorem goIf_not (hstay : ∀ s, result go s = false) :
    Makes complete (Walk.goIf go inside) (Walk.goIf (CodeTree.logged c go) inside')
      [c] := by
  apply logged_bind
  intro s
  rw [hstay]
  exact nothing

end Entering

end Makes

end Recording

/-! ## Visitors that override one method -/

section Overriding

variable {σ : Type} {w : Walk (StateM σ)} {kind : ExprKind} {intoType : Bool}
  {complete : Prop}

/-- The method of this kind of expression does not call back.  The methods of other
nodes and the hooks are free. -/
structure Walk.Overrides (w : Walk (StateM σ)) (kind : ExprKind) : Prop where
  lists : w.EntersLists
  stays : ∀ e s, e.kind = kind → result (w.enterExpr e) s = .over

/-- All other methods call back, and the hooks go on into types. -/
structure Walk.GoesOn (w : Walk (StateM σ)) (kind : ExprKind) : Prop where
  exprs : ∀ e s, e.kind ≠ kind → result (w.enterExpr e) s = .into
  types : ∀ t s, result (w.enterTy t) s = .into
  stmts : ∀ stmt s, result (w.enterStmt stmt) s = true
  hooks : ∀ e s, result (w.leaveExpr e) s = true

theorem Phrase.makes_visits (hw : w.Overrides kind) (hcomplete : complete → w.GoesOn kind)
    (htype : intoType = false → ∀ e s, e.kind = kind → result (w.leaveExpr e) s = false)
    (p : Phrase) :
    Makes complete (p.walk w) (p.walk w.recorded) (p.visits kind intoType) := by
  have hlists := hw.lists.recorded
  induction p using walked.induction with
  | phrase p ih =>
      have hinside : Makes complete (forM (p.inside kind) (Phrase.walk w))
          (forM (p.inside kind) (Phrase.walk w.recorded))
          ((p.inside kind).flatMap (visits kind intoType)) :=
        .forM fun q hq => ih q (mem_walked_of_mem_inside hq)
      have hbeyond : Makes complete (forM (p.beyond kind intoType) (Phrase.walk w))
          (forM (p.beyond kind intoType) (Phrase.walk w.recorded))
          ((p.beyond kind intoType).flatMap (visits kind intoType)) :=
        .forM fun q hq => ih q (mem_walked_of_mem_beyond hq)
      rw [visits_eq]
      cases p with
      | ty t =>
          have hinto : complete → ∀ s, result (w.enterTy t) s = .into :=
            fun h => (hcomplete h).types t
          rw [walk, walk, Ty.walk_eq, Ty.walk_eq]
          exact .visit hinto hinside .logged
      | stmt s =>
          have hgo : complete → ∀ state, result (w.enterStmt s) state = true :=
            fun h => (hcomplete h).stmts s
          rw [walk, walk, Stmt.walk_eq hw.lists, Stmt.walk_eq hlists, hooks, beyond,
            List.flatMap_nil, List.append_nil, List.append_nil]
          exact .goIf hgo hinside
      | expr e =>
          let types : List Phrase := e.type?.toList.map .ty
          have hgo : complete → ∀ s, result (w.leaveExpr e) s = true :=
            fun h => (hcomplete h).hooks e
          have hhook : Makes complete
              (Walk.goIf (w.leaveExpr e) (forM types (Phrase.walk w)))
              (Walk.goIf (w.recorded.leaveExpr e) (forM types (Phrase.walk w.recorded)))
              (.hook (.expr e) ::
                (beyond kind intoType (.expr e)).flatMap (visits kind intoType)) := by
            by_cases hstop : e.kind = kind ∧ intoType = false
            · rw [beyond, if_pos hstop]
              exact .goIf_not fun s => htype hstop.2 e s hstop.1
            · rw [beyond, if_neg hstop] at hbeyond ⊢
              exact .goIf hgo hbeyond
          rw [walk, walk, Expr.walk_eq hw.lists, Expr.walk_eq hlists]
          by_cases hkind : e.kind = kind
          · rw [inside, if_pos hkind]
            exact .visit_over (fun s => hw.stays e s hkind) hhook
          · rw [inside, if_neg hkind] at hinside ⊢
            exact .visit (fun h s => (hcomplete h).exprs e s hkind) hinside hhook

def visitsIn (kind : ExprKind) (intoType : Bool) (ss : List Stmt) : List Visit :=
  ss.flatMap fun s => (Phrase.stmt s).visits kind intoType

theorem Walk.makes_visitsIn (hw : w.Overrides kind) (hcomplete : complete → w.GoesOn kind)
    (htype : intoType = false → ∀ e s, e.kind = kind → result (w.leaveExpr e) s = false)
    (ss : List Stmt) : Makes complete (w.stmts ss) (w.recorded.stmts ss)
      (visitsIn kind intoType ss) := by
  rw [stmts_eq_forM hw.lists, stmts_eq_forM hw.lists.recorded]
  exact .forM fun stmt _ => Phrase.makes_visits hw hcomplete htype (.stmt stmt)

theorem Makes.calls {ss : List Stmt} {cs : List Visit}
    (h : Makes complete (w.stmts ss) (w.recorded.stmts ss) cs) (s : σ) :
    (after (w.recorded.stmts ss) (s, [])).1 = after (w.stmts ss) s ∧
      (w.calls ss s).Sublist cs ∧ (complete → w.calls ss s = cs) := by
  obtain ⟨made, hrun, hmade, hall⟩ := h s []
  have hcalls : w.calls ss s = made := by rw [Walk.calls, hrun, List.nil_append]
  rw [hcalls, hrun]
  exact ⟨rfl, hmade, hall⟩

/-- Overriding prunes everything but the type that the expression answers for.  Where
the hook stays out of such types they are pruned too.  Where all hooks go on, as they do
by default, these types are visited as if nothing were overridden.  Recording the calls
does not change what the visitor does. -/
theorem Walk.overriding_prunes_all_but_type (hw : w.Overrides kind)
    (ss : List Stmt) (s : σ) :
    (after (w.recorded.stmts ss) (s, [])).1 = after (w.stmts ss) s ∧
      (w.calls ss s).Sublist (visitsIn kind true ss) ∧
      ((∀ e s, e.kind = kind → result (w.leaveExpr e) s = false) →
        (w.calls ss s).Sublist (visitsIn kind false ss)) ∧
      (w.GoesOn kind → w.calls ss s = visitsIn kind true ss) := by
  have htrue : true = false → ∀ e s, e.kind = kind →
      result (w.leaveExpr e) s = false := nofun
  have hmakes := (makes_visitsIn hw id htrue ss).calls s
  refine ⟨hmakes.1, hmakes.2.1, ?pruned, hmakes.2.2⟩
  case pruned =>
    intro hstays
    exact ((makes_visitsIn hw False.elim (fun _ => hstays) ss).calls s).2.1

end Overriding

/-! ## Traced walks that stop at one kind of expression -/

section Traced

variable (kind : ExprKind) (intoTypes : Bool)

theorem Walk.overrides_traced :
    (traced (some (.expr kind)) intoTypes).Overrides kind where
  lists := by constructor <;> simp [traced, Traced.enter]
  stays e s hkind := by
    simp [traced, descent, Traced.enter, hkind]

theorem Walk.goesOn_traced : (traced (some (.expr kind)) true).GoesOn kind where
  exprs e s hkind := by
    simp [traced, descent, Traced.enter, Ne.symm hkind]
  types t s := by
    simp [traced, descent, Traced.enter]
  stmts stmt s := by
    simp [traced, Traced.enter]
  hooks e s := rfl

/-- A function expression that reads a variable in its body and another one in its
type. -/
def typedFunction : Expr :=
  .function [] [.ret (.readVar (.named "y") none none) none] none
    (some (.expr (.readVar (.named "x") none none) .none)) none

theorem visitsIn_typedFunction :
    visitsIn .function false [.expr typedFunction none] =
      [.method (.stmt (.expr typedFunction none)), .method (.expr typedFunction),
        .hook (.expr typedFunction)] := by
  have hkind : typedFunction.kind = .function := rfl
  have hfunction := Expr.visits_of_kind hkind false
  rw [visitsIn, List.flatMap_singleton, Phrase.visits_eq]
  simp [Phrase.inside, Phrase.hooks, Phrase.beyond, Stmt.parts, hfunction]

theorem Walk.overriding_typedFunction :
    let ss : List Stmt := [.expr typedFunction none]
    let going : Walk Traced := traced (some (.expr .function)) true
    let staying : Walk Traced := traced (some (.expr .function)) false
    going.Overrides .function ∧ going.GoesOn .function ∧ staying.Overrides .function ∧
      (∀ e s, e.kind = .function → result (staying.leaveExpr e) s = false) ∧
      going.calls ss #[] = visitsIn .function true ss ∧
      (staying.calls ss #[]).Sublist (visitsIn .function false ss) := by
  intro ss going staying
  have hgoing : going.Overrides .function := overrides_traced .function true
  have hstaying : staying.Overrides .function := overrides_traced .function false
  have hon : going.GoesOn .function := goesOn_traced .function
  have hstays : ∀ e s, e.kind = .function → result (staying.leaveExpr e) s = false :=
    fun _ _ _ => rfl
  exact ⟨hgoing, hon, hstaying, hstays,
    (overriding_prunes_all_but_type hgoing ss #[]).2.2.2 hon,
    (overriding_prunes_all_but_type hstaying ss #[]).2.2.1 hstays⟩

/-- The method of function expressions is overridden.  The read in the type of the
function is visited nevertheless, which pruning it would not allow. -/
theorem Walk.type_of_overridden_is_visited :
    let ss : List Stmt := [.expr typedFunction none]
    let going : Walk Traced := traced (some (.expr .function)) true
    going.Overrides .function ∧
      .method (.expr (.readVar (.named "x") none none)) ∈ going.calls ss #[] ∧
      ¬ (going.calls ss #[]).Sublist (visitsIn .function false ss) := by
  intro ss going
  let read : Expr := .readVar (.named "x") none none
  have hcalls : going.calls ss #[] =
      [.method (.stmt (.expr typedFunction none)), .method (.expr typedFunction),
        .hook (.expr typedFunction), .method (.ty (.expr read .none)),
        .method (.expr read), .hook (.expr read), .hook (.ty (.expr read .none))] := by
    rfl
  refine ⟨overrides_traced .function true, ?_, ?_⟩
  · rw [hcalls]
    simp [read]
  · intro hpruned
    have hlength := hpruned.length_le
    rw [hcalls, visitsIn_typedFunction] at hlength
    simp at hlength

end Traced

end CodeTree
