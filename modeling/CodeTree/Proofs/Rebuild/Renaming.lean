import CodeTree.Proofs.Rebuild.Nodewise
import CodeTree.Proofs.Tree.Spans
import CodeTree.Rebuild.Traced
import CodeTree.Trace

namespace CodeTree

namespace Renaming

def onVar (r : Renaming) : VarName → VarName
  | .named name => .named (if name = r.old then r.new else name)
  | .builtin target => .builtin target

def relabel (r : Renaming) : Relabel :=
  { var := r.onVar }

def back (r : Renaming) : Renaming :=
  ⟨r.new, r.old⟩

theorem onVar_old (r : Renaming) : r.onVar (.named r.old) = .named r.new := by
  rw [onVar, if_pos rfl]

theorem onVar_of_ne {r : Renaming} {name : VarName} (h : name ≠ .named r.old) :
    r.onVar name = name := by
  cases name with
  | named name =>
      have hother : name ≠ r.old := fun hsame => h (congrArg VarName.named hsame)
      rw [onVar, if_neg hother]
  | builtin target => rfl

theorem onVar_back_onVar (r : Renaming) (name : VarName) :
    r.back.onVar (r.onVar name) = r.back.onVar name := by
  by_cases hold : name = .named r.old
  · rw [hold, onVar_old]
    by_cases hsame : r.old = r.new
    · rw [hsame]
    · have hstays : VarName.named r.old ≠ .named r.back.old :=
        fun h => hsame (VarName.named.inj h)
      rw [onVar_of_ne hstays]
      exact r.back.onVar_old
  · rw [onVar_of_ne hold]

theorem relabel_andThen_back (r : Renaming) :
    r.relabel.andThen r.back.relabel = r.back.relabel := by
  have hvars : r.back.onVar ∘ r.onVar = r.back.onVar :=
    funext r.onVar_back_onVar
  simp only [Relabel.andThen, relabel, hvars, Function.comp_id, Bool.and_self]

end Renaming

theorem Expr.renameRead_eq_relabelNode (r : Renaming) (e : Expr) :
    e.renameRead r = e.relabelNode r.relabel := by
  cases e with
  | readVar name type span => cases name <;> rfl
  | _ => exact (relabelNode_id _).symm

theorem Stmt.relabelNode_renaming (r : Renaming) (s : Stmt) :
    s.relabelNode r.relabel = s := by
  have hkeep : s.relabelNode {} = s := s.relabelNode_id
  cases s <;> exact hkeep

/-! ## Names that are read -/

/-- Whether the variable of the given name is read somewhere in a tree, types aside. -/
def Node.Reads (name : String) (n : Node) : Prop :=
  ∃ type span, .expr (.readVar (.named name) type span) ∈ n.postorder

theorem Node.relabel_of_not_reads {r : Renaming} {n : Node} (h : ¬ n.Reads r.old) :
    n.relabel r.relabel = n := by
  have hkept : ∀ c ∈ n.postorder, c.relabelNode r.relabel = c.relabelNode {} := by
    intro c hc
    cases c with
    | expr e =>
        cases e with
        | readVar name type span =>
            have hother : name ≠ .named r.old := by
              rintro rfl
              exact h ⟨type, span, hc⟩
            have hname : r.onVar name = name := Renaming.onVar_of_ne hother
            simp only [relabelNode, Expr.relabelNode, Renaming.relabel, hname, id_eq]
        | _ => rfl
    | stmt s =>
        exact congrArg stmt ((s.relabelNode_renaming r).trans s.relabelNode_id.symm)
  calc
    n.relabel r.relabel = n.relabel {} := relabel_congr hkept
    _ = n := n.relabel_id

theorem Node.reads_relabel_iff {r : Renaming} {n : Node} {name : String} :
    (n.relabel r.relabel).Reads name ↔ ∃ before, n.Reads before ∧
      r.onVar (.named before) = .named name := by
  rw [Reads, postorder_relabel rfl]
  constructor
  · rintro ⟨type, span, hread⟩
    obtain ⟨c, hc, hrenamed⟩ := List.mem_map.1 hread
    cases c with
    | expr e =>
        cases e with
        | readVar var type' span' =>
            have hvar : r.onVar var = .named name :=
              (Expr.readVar.inj (expr.inj hrenamed)).1
            cases var with
            | named before => exact ⟨before, ⟨type', span', hc⟩, hvar⟩
            | builtin target => cases hvar
        | _ => cases hrenamed
    | stmt s => cases hrenamed
  · rintro ⟨before, ⟨type, span, hread⟩, hname⟩
    refine ⟨type, span, List.mem_map.2 ⟨_, hread, ?_⟩⟩
    simp only [relabel, Expr.relabel, Renaming.relabel, hname, id_eq]

theorem Node.not_reads_old {r : Renaming} {n : Node} (h : r.old ≠ r.new) :
    ¬ (n.relabel r.relabel).Reads r.old := by
  intro hreads
  obtain ⟨before, -, hname⟩ := reads_relabel_iff.1 hreads
  by_cases hold : before = r.old
  · rw [hold, Renaming.onVar_old] at hname
    exact h (VarName.named.inj hname).symm
  · rw [Renaming.onVar_of_ne fun hsame => hold (VarName.named.inj hsame)] at hname
    exact hold (VarName.named.inj hname)

/-! ## There and back -/

namespace Rebuild

variable {m : Type → Type} [Monad m]

theorem rename_eq_relabel (r : Renaming) :
    (rename r : Rebuild m) = relabel r.relabel := by
  simp only [rename, relabel, Expr.renameRead_eq_relabelNode, Stmt.relabelNode_renaming]

variable [LawfulMonad m]

theorem exprs_rename (r : Renaming) (es : List Expr) :
    (rename r : Rebuild m).exprs es = pure (es.map (Expr.relabel r.relabel)) := by
  rw [rename_eq_relabel, exprs_relabel]

theorem stmts_rename (r : Renaming) (ss : List Stmt) :
    (rename r : Rebuild m).stmts ss = pure (ss.map (Stmt.relabel r.relabel)) := by
  rw [rename_eq_relabel, stmts_relabel]

theorem exprs_rename_back (r : Renaming) (es : List Expr) :
    (rename r.back : Rebuild m).exprs (es.map (Expr.relabel r.relabel)) =
      (rename r.back).exprs es := by
  rw [exprs_rename, exprs_rename, List.map_map, Expr.relabel_comp_relabel,
    r.relabel_andThen_back]

theorem stmts_rename_back (r : Renaming) (ss : List Stmt) :
    (rename r.back : Rebuild m).stmts (ss.map (Stmt.relabel r.relabel)) =
      (rename r.back).stmts ss := by
  rw [stmts_rename, stmts_rename, List.map_map, Stmt.relabel_comp_relabel,
    r.relabel_andThen_back]

theorem exprs_rename_of_not_reads {r : Renaming} {es : List Expr}
    (h : ∀ e ∈ es, ¬ (Node.expr e).Reads r.old) :
    (rename r : Rebuild m).exprs es = pure es := by
  have hsame : es.map (Expr.relabel r.relabel) = es.map id :=
    List.map_congr_left fun e he => Node.expr.inj (Node.relabel_of_not_reads (h e he))
  rw [exprs_rename, hsame, List.map_id]

theorem stmts_rename_of_not_reads {r : Renaming} {ss : List Stmt}
    (h : ∀ s ∈ ss, ¬ (Node.stmt s).Reads r.old) :
    (rename r : Rebuild m).stmts ss = pure ss := by
  have hsame : ss.map (Stmt.relabel r.relabel) = ss.map id :=
    List.map_congr_left fun s hs => Node.stmt.inj (Node.relabel_of_not_reads (h s hs))
  rw [stmts_rename, hsame, List.map_id]

/-- Where the new name was not read, a renaming can be undone, and nothing else is
changed.  In between the old name is not read. -/
theorem rename_there_and_back (x y : String) :
    (∀ ss : List Stmt, (∀ s ∈ ss, ¬ (Node.stmt s).Reads y) →
      ((rename ⟨x, y⟩ : Rebuild m).stmts ss >>= (rename ⟨y, x⟩).stmts) = pure ss ∧
      ∃ renamed, (rename ⟨x, y⟩ : Rebuild m).stmts ss = pure renamed ∧
        (x ≠ y → ∀ s ∈ renamed, ¬ (Node.stmt s).Reads x)) ∧
    ∀ es : List Expr, (∀ e ∈ es, ¬ (Node.expr e).Reads y) →
      ((rename ⟨x, y⟩ : Rebuild m).exprs es >>= (rename ⟨y, x⟩).exprs) = pure es ∧
      ∃ renamed, (rename ⟨x, y⟩ : Rebuild m).exprs es = pure renamed ∧
        (x ≠ y → ∀ e ∈ renamed, ¬ (Node.expr e).Reads x) := by
  let r : Renaming := ⟨x, y⟩
  constructor
  · intro ss hfresh
    have hthere := stmts_rename (m := m) r ss
    constructor
    · calc
        ((rename r : Rebuild m).stmts ss >>= (rename r.back).stmts) =
            (rename r.back).stmts (ss.map (Stmt.relabel r.relabel)) := by
            rw [hthere, pure_bind]
        _ = (rename r.back).stmts ss := stmts_rename_back r ss
        _ = pure ss := stmts_rename_of_not_reads hfresh
    · refine ⟨_, hthere, ?_⟩
      intro hne s hs
      obtain ⟨before, -, rfl⟩ := List.mem_map.1 hs
      exact Node.not_reads_old (n := .stmt before) hne
  · intro es hfresh
    have hthere := exprs_rename (m := m) r es
    constructor
    · calc
        ((rename r : Rebuild m).exprs es >>= (rename r.back).exprs) =
            (rename r.back).exprs (es.map (Expr.relabel r.relabel)) := by
            rw [hthere, pure_bind]
        _ = (rename r.back).exprs es := exprs_rename_back r es
        _ = pure es := exprs_rename_of_not_reads hfresh
    · refine ⟨_, hthere, ?_⟩
      intro hne e he
      obtain ⟨before, -, rfl⟩ := List.mem_map.1 he
      exact Node.not_reads_old (n := .expr before) hne

/-- The getter of a class reads a variable in a map literal.  The new name is that of a
variable which is read in a type only. -/
theorem rename_there_and_back_getter :
    let read (name : String) : Expr :=
      .readVar (.named name) (some (.expr (.readVar (.named "y") none none) .none)) none
    let body (name : String) : Stmt := .ret (.map [⟨"k", read name, true⟩] none none) none
    let cls (name : String) : Stmt :=
      .declareClass "C" none [] [⟨"g", [body name], none, .none⟩]
        ⟨none, [], [], none, .none⟩ [] .none none
    LawfulMonad Traced ∧ (∀ s ∈ [cls "x"], ¬ (Node.stmt s).Reads "y") ∧
      (rename ⟨"x", "y"⟩ : Rebuild Traced).stmts [cls "x"] = pure [cls "y"] ∧
      (rename ⟨"y", "x"⟩ : Rebuild Traced).stmts [cls "y"] = pure [cls "x"] := by
  intro read body cls
  have hnodes : (Node.stmt (cls "x")).postorder =
      [.expr (read "x"), .expr (.map [⟨"k", read "x", true⟩] none none), .stmt (body "x"),
        .stmt (cls "x")] := by
    simp [Node.postorder_eq, Node.children, Stmt.children, Expr.children, cls, body, read]
  have hfresh : ∀ s ∈ [cls "x"], ¬ (Node.stmt s).Reads "y" := by
    intro s hs
    rw [List.mem_singleton.1 hs]
    rintro ⟨type, span, hread⟩
    rw [hnodes] at hread
    simp [read, body, cls] at hread
  have hthere : (rename ⟨"x", "y"⟩ : Rebuild Traced).stmts [cls "x"] =
      pure [cls "y"] := by
    rfl
  have hround : ((rename ⟨"x", "y"⟩ : Rebuild Traced).stmts [cls "x"] >>=
      (rename ⟨"y", "x"⟩).stmts) = pure [cls "x"] :=
    ((rename_there_and_back "x" "y").1 [cls "x"] hfresh).1
  rw [hthere, pure_bind] at hround
  exact ⟨inferInstance, hfresh, hthere, hround⟩

-- Where both names are read, the way back takes them both to the old one.
example :
    let read (name : String) : Expr := .readVar (.named name) none none
    ((rename ⟨"x", "y"⟩ : Rebuild Traced).exprs [read "x", read "y"] >>=
      (rename ⟨"y", "x"⟩).exprs) = pure [read "x", read "x"] := by
  rfl

end Rebuild
end CodeTree
