import CodeTree.Proofs.Rebuild.Renaming
import CodeTree.Proofs.Walk.PlainTypes

namespace CodeTree

open Route (stored relabelNodes)

/-! ## Types stay plain -/

/-- The relabelling leaves out no part of a node and does nothing to the types. -/
structure Relabel.KeepsTypes (f : Relabel) : Prop where
  type : f.type = id
  typeArgs : f.typeArgs = id
  initializers : f.keepInitializers = true
  methodParams : f.keepMethodParams = true

section Parts

variable {f : Relabel}

theorem Param.relabel_of_keepsTypes (hf : f.KeepsTypes) : Param.relabel f = id := by
  funext param
  cases param
  simp [relabel, hf.type]

theorem Param.map_relabelNodes_parts (param : Param) :
    param.parts.map (relabelNodes f) = param.parts := by
  simp [parts, relabelNodes, Function.comp_def]

theorem Field.parts_relabel (hf : f.KeepsTypes) (field : Field) :
    (field.relabel f).parts = field.parts.map (relabelNodes f) := by
  cases field
  simp [relabel, parts, relabelNodes, hf.type, hf.initializers, Option.toList_map,
    Function.comp_def]

theorem Getter.parts_relabel (hf : f.KeepsTypes) (getter : Getter) :
    (getter.relabel f).parts = getter.parts.map (relabelNodes f) := by
  cases getter
  simp [relabel, parts, relabelNodes, hf.type, Function.comp_def]

theorem Method.parts_relabel (hf : f.KeepsTypes) (method : Method) :
    (method.relabel f).parts = method.parts.map (relabelNodes f) := by
  cases method
  simp [relabel, parts, relabelNodes, hf.type, hf.methodParams, Function.comp_def,
    Param.relabel_of_keepsTypes hf, List.map_flatMap, Param.map_relabelNodes_parts]

theorem Expr.innerParts_relabel (hf : f.KeepsTypes) (e : Expr) :
    (e.relabel f).innerParts = e.innerParts.map (relabelNodes f) := by
  cases e <;>
    simp [relabel, innerParts, relabelNodes, hf.typeArgs, Option.toList_map,
      Function.comp_def, Param.relabel_of_keepsTypes hf, List.map_flatMap,
      Param.map_relabelNodes_parts]

theorem Expr.annotation?_relabel (hf : f.KeepsTypes) (e : Expr) :
    (e.relabel f).annotation? = e.annotation? := by
  cases e <;> simp [relabel, annotation?, type?, hf.type]

theorem Expr.parts_relabel (hf : f.KeepsTypes) (e : Expr) :
    (e.relabel f).parts = e.parts.map (relabelNodes f) := by
  simp [parts, innerParts_relabel hf, annotation?_relabel hf, relabelNodes,
    Function.comp_def]

theorem Stmt.parts_relabel (hf : f.KeepsTypes) (s : Stmt) :
    (s.relabel f).parts = s.parts.map (relabelNodes f) := by
  cases s <;>
    simp [relabel, parts, relabelNodes, hf.type, Option.toList_map, Function.comp_def,
      Param.relabel_of_keepsTypes hf, List.map_flatMap, List.flatMap_map,
      Param.map_relabelNodes_parts, Field.parts_relabel hf, Getter.parts_relabel hf,
      Method.parts_relabel hf]

theorem Phrase.plainTypes_of_parts {p : Phrase} (hnode : p.node?.isSome)
    (h : ∀ q ∈ p.parts, q.PlainTypes) : p.PlainTypes := by
  intro value mods hreaches
  cases hreaches with
  | here => cases hnode
  | onward hstep hrest => exact h _ hstep value mods hrest

theorem Phrase.PlainTypes.relabelled (hf : f.KeepsTypes) {p : Phrase} (h : p.PlainTypes) :
    (relabelNodes f p).PlainTypes := by
  induction p using stored.induction with
  | phrase p ih =>
      have hparts : ∀ q ∈ p.parts.map (relabelNodes f), q.PlainTypes := by
        intro q hq
        obtain ⟨c, hc, rfl⟩ := List.mem_map.1 hq
        exact ih c hc (h.of_mem_parts hc)
      cases p with
      | ty t => exact h
      | expr e =>
          apply plainTypes_of_parts rfl
          rw [relabelNodes, parts, e.parts_relabel hf]
          exact hparts
      | stmt s =>
          apply plainTypes_of_parts rfl
          rw [relabelNodes, parts, s.parts_relabel hf]
          exact hparts

theorem PlainTypes.relabelled (hf : f.KeepsTypes) {ss : List Stmt} (h : PlainTypes ss) :
    PlainTypes (ss.map (Stmt.relabel f)) := by
  intro s hs
  obtain ⟨before, hbefore, rfl⟩ := List.mem_map.1 hs
  exact (h before hbefore).relabelled hf

end Parts

/-! ## Reads are renamed one by one -/

namespace Renaming

def onName (r : Renaming) (name : String) : String :=
  if name = r.old then r.new else name

theorem onName_old (r : Renaming) : r.onName r.old = r.new :=
  if_pos rfl

theorem onName_of_ne {r : Renaming} {name : String} (h : name ≠ r.old) :
    r.onName name = name :=
  if_neg h

theorem onName_new (r : Renaming) : r.onName r.new = r.new := by
  by_cases hsame : r.new = r.old
  · rw [hsame, onName_old, hsame]
  · exact onName_of_ne hsame

theorem onName_eq_new_iff {r : Renaming} {name : String} :
    r.onName name = r.new ↔ name = r.old ∨ name = r.new := by
  constructor
  · intro h
    by_cases hold : name = r.old
    · exact .inl hold
    · rw [onName_of_ne hold] at h
      exact .inr h
  · rintro (rfl | rfl)
    · exact r.onName_old
    · exact r.onName_new

theorem onName_ne_old {r : Renaming} (h : r.old ≠ r.new) (name : String) :
    r.onName name ≠ r.old := by
  by_cases hold : name = r.old
  · rw [hold, onName_old]
    exact h.symm
  · rwa [onName_of_ne hold]

theorem keepsTypes_relabel (r : Renaming) : r.relabel.KeepsTypes :=
  ⟨rfl, rfl, rfl, rfl⟩

end Renaming

theorem Expr.readName?_renamed (r : Renaming) (e : Expr) :
    (e.relabel r.relabel).readName? = e.readName?.map r.onName := by
  cases e with
  | readVar name type span => cases name <;> rfl
  | _ => rfl

theorem reads_renamed (r : Renaming) {ss : List Stmt} (h : PlainTypes ss) :
    reads (ss.map (Stmt.relabel r.relabel)) = (reads ss).map r.onName := by
  let nodes := Route.nodes.stopAt Stmt.opensScope
  have hread : Expr.readName? ∘ Expr.relabel r.relabel =
      fun e => e.readName?.map r.onName :=
    funext (Expr.readName?_renamed r)
  calc
    reads (ss.map (Stmt.relabel r.relabel)) =
        (nodes.exprsIn (ss.map (Stmt.relabel r.relabel))).filterMap Expr.readName? :=
      reads_eq_of_plainTypes (h.relabelled r.keepsTypes_relabel)
    _ = (nodes.exprsIn ss).filterMap fun e => e.readName?.map r.onName := by
      rw [Route.exprsIn_map_relabel, List.filterMap_map, hread]
    _ = (reads ss).map r.onName := by
      rw [reads_eq_of_plainTypes h, List.map_filterMap]

/-! ## First occurrences after a renaming -/

namespace ReadNames

theorem idxOf_new_eraseDups (r : Renaming) {names : List String} (h : names.Nodup) :
    (names.map r.onName).eraseDups.idxOf r.new =
      min (names.idxOf r.old) (names.idxOf r.new) := by
  induction names with
  | nil => rfl
  | cons name names ih =>
      obtain ⟨hfresh, hrest⟩ := List.nodup_cons.1 h
      rw [List.map_cons, List.eraseDups_cons]
      by_cases hmeets : r.onName name = r.new
      · have hfirst : name = r.old ∨ name = r.new := Renaming.onName_eq_new_iff.1 hmeets
        rw [hmeets, List.idxOf_cons_self]
        rcases hfirst with rfl | rfl
        · rw [List.idxOf_cons_self, Nat.zero_min]
        · rw [List.idxOf_cons_self, Nat.min_zero]
      · obtain ⟨hold, hnew⟩ := not_or.1 (mt Renaming.onName_eq_new_iff.2 hmeets)
        have hothers : ∀ b ∈ names.map r.onName, b ≠ name := by
          intro b hb
          obtain ⟨before, hbefore, rfl⟩ := List.mem_map.1 hb
          by_cases hrenamed : before = r.old
          · rw [hrenamed, Renaming.onName_old]
            exact Ne.symm hnew
          · rw [Renaming.onName_of_ne hrenamed]
            exact ne_of_mem_of_not_mem hbefore hfresh
        have hkept : ((names.map r.onName).filter fun b => !b == name) =
            names.map r.onName :=
          List.filter_eq_self.2 fun b hb => by simp [hothers b hb]
        rw [Renaming.onName_of_ne hold, hkept, List.idxOf_cons_ne _ hnew, ih hrest,
          List.idxOf_cons_ne _ hold, List.idxOf_cons_ne _ hnew, Nat.succ_min_succ]

end ReadNames

theorem readNames_renamed (r : Renaming) {ss : List Stmt} (h : PlainTypes ss) :
    readNames (ss.map (Stmt.relabel r.relabel)) =
      ((readNames ss).map r.onName).eraseDups := by
  rw [readNames_eq, readNames_eq, reads_renamed r h, ← ReadNames.firsts_map_firsts,
    ReadNames.firsts_eq_eraseDups]

/-- A renaming and the collection of the names that are read go along with each other.
The old name is not among the names any more, and the new one stands where the first of
the two stood. -/
theorem readNames_rename {m : Type → Type} [Monad m] [LawfulMonad m] (x y : String)
    {ss : List Stmt} (h : PlainTypes ss) :
    ∃ renamed, (Rebuild.rename ⟨x, y⟩ : Rebuild m).stmts ss = pure renamed ∧
      readNames renamed =
        ((readNames ss).map fun name => if name = x then y else name).eraseDups ∧
      (x ≠ y → x ∉ readNames renamed) ∧
      (y ∈ readNames renamed ↔ x ∈ readNames ss ∨ y ∈ readNames ss) ∧
      (readNames renamed).idxOf y =
        min ((readNames ss).idxOf x) ((readNames ss).idxOf y) := by
  let r : Renaming := ⟨x, y⟩
  have hnames : readNames (ss.map (Stmt.relabel r.relabel)) =
      ((readNames ss).map r.onName).eraseDups := readNames_renamed r h
  refine ⟨_, Rebuild.stmts_rename r ss, hnames, ?gone, ?member, ?place⟩
  case gone =>
    intro hne hx
    rw [hnames, List.mem_eraseDups] at hx
    obtain ⟨name, -, hname⟩ := List.mem_map.1 hx
    exact Renaming.onName_ne_old hne name hname
  case member =>
    rw [hnames, List.mem_eraseDups, List.mem_map]
    constructor
    · rintro ⟨name, hmem, hname⟩
      rcases Renaming.onName_eq_new_iff.1 hname with rfl | rfl
      · exact .inl hmem
      · exact .inr hmem
    · rintro (hx | hy)
      · exact ⟨x, hx, r.onName_old⟩
      · exact ⟨y, hy, r.onName_new⟩
  case place =>
    rw [hnames]
    exact ReadNames.idxOf_new_eraseDups r (readNames_exact ss).2.1

/-- The old name is read in a function that is declared and again in a map literal,
there before the new one. -/
theorem readNames_rename_colliding :
    let read (name : String) : Expr := .readVar (.named name) (some Ty.int) none
    let program (name : String) : List Stmt :=
      [.declareFunction "f" [⟨"p", some Ty.int⟩] [.ret (read name) none] none .none none,
        .expr
          (.array [read "b", .map [⟨"k", read name, true⟩] none none, read "c"] none none)
          none,
        .ret (read "y") none]
    LawfulMonad Id ∧ PlainTypes (program "x") ∧
      (Rebuild.rename ⟨"x", "y"⟩ : Rebuild Id).stmts (program "x") = program "y" ∧
      readNames (program "x") = ["b", "x", "c", "y"] ∧
      readNames (program "y") = ["b", "y", "c"] := by
  intro read program
  have hplain : PlainTypes (program "x") := by
    intro s hs value mods
    rw [← Route.mem_trail_iff]
    obtain rfl | rfl | rfl :
        s = (program "x")[0] ∨ s = (program "x")[1] ∨ s = (program "x")[2] := by
      simpa [program] using hs
    all_goals
      simp [program, read, Route.trail_eq, Route.stored, Phrase.parts, Stmt.parts,
        Expr.parts, Expr.innerParts, Expr.annotation?, Expr.type?, Ty.parts, Ty.int,
        Param.parts]
  obtain ⟨renamed, hrun, hnames, -⟩ := readNames_rename (m := Id) "x" "y" hplain
  have hthere : (Rebuild.rename ⟨"x", "y"⟩ : Rebuild Id).stmts (program "x") =
      program "y" := by rfl
  have hbefore : readNames (program "x") = ["b", "x", "c", "y"] := by rfl
  obtain rfl : program "y" = renamed := hthere.symm.trans hrun
  rw [hbefore] at hnames
  exact ⟨inferInstance, hplain, hthere, hbefore, hnames⟩

end CodeTree
