import CodeTree.Proofs.Tree.Spans
import CodeTree.Proofs.Walk.ReadNames

namespace CodeTree

open Route (stored)

/-- No type in the phrase holds an expression. -/
def Phrase.PlainTypes (p : Phrase) : Prop :=
  ∀ value mods, ¬ stored.Reaches p (.ty (.expr value mods))

/-- No annotation, parameter type or type argument in the statements holds an
expression. -/
def PlainTypes (ss : List Stmt) : Prop :=
  ∀ s ∈ ss, (Phrase.stmt s).PlainTypes

theorem Phrase.PlainTypes.of_mem_parts {p q : Phrase} (h : p.PlainTypes)
    (hq : q ∈ p.parts) : q.PlainTypes := by
  intro value mods hreaches
  exact h value mods (.onward hq hreaches)

theorem Ty.part_eq_ty {t : Ty} {q : Phrase} (h : (Phrase.ty t).PlainTypes)
    (hq : q ∈ t.parts) : ∃ c, q = .ty c := by
  cases t with
  | builtin name mods => cases hq
  | expr value mods => exact absurd (.here _) (h value mods)
  | array elem mods => exact ⟨elem, List.mem_singleton.1 hq⟩
  | map value mods =>
      obtain ⟨c, -, hsame⟩ := List.mem_map.1 hq
      exact ⟨c, hsame.symm⟩

namespace Route

/-- The route from nodes to their children.  It stays out of types. -/
def nodes : Route where
  next p := p.children.map Node.phrase
  descends p q h := by
    obtain ⟨n, hn, rfl⟩ := List.mem_map.1 h
    exact Phrase.weight_lt_of_mem_parts (Phrase.phrase_mem_parts hn)

section Plain

variable {stop : Stmt → Bool}

theorem exprs_ty_of_plainTypes {t : Ty} (h : (Phrase.ty t).PlainTypes) :
    (stored.stopAt stop).exprs (.ty t) = [] := by
  induction hp : Phrase.ty t using stored.induction generalizing t with
  | phrase p ih =>
      subst hp
      rw [exprs_eq]
      refine List.flatMap_eq_nil_iff.2 ?_
      intro q hq
      obtain ⟨c, rfl⟩ := Ty.part_eq_ty h hq
      exact ih (.ty c) hq (h.of_mem_parts hq) rfl

theorem flatMap_eq_flatMap_nodes {α : Type} {F G : Phrase → List α} {ps : List Phrase}
    (htypes : ∀ t, .ty t ∈ ps → F (.ty t) = []) (hsame : ∀ p ∈ ps, F p = G p) :
    ps.flatMap F = ((ps.filterMap Phrase.node?).map Node.phrase).flatMap G := by
  induction ps with
  | nil => rfl
  | cons p ps ih =>
      have htail := ih (fun t ht => htypes t (List.mem_cons_of_mem p ht))
        fun q hq => hsame q (List.mem_cons_of_mem p hq)
      have hhead : F p = G p := hsame p List.mem_cons_self
      cases p with
      | ty t =>
          rw [List.flatMap_cons, htypes t List.mem_cons_self, List.nil_append, htail,
            List.filterMap_cons_none rfl]
      | expr e => simp [Phrase.node?, htail, hhead]
      | stmt s => simp [Phrase.node?, htail, hhead]

theorem exprs_stored_eq_nodes {p : Phrase} (h : p.PlainTypes) :
    (stored.stopAt stop).exprs p = (nodes.stopAt stop).exprs p := by
  induction p using stored.induction with
  | phrase p ih =>
      have hbelow : p.parts.flatMap (stored.stopAt stop).exprs =
          ((p.parts.filterMap Phrase.node?).map Node.phrase).flatMap
            (nodes.stopAt stop).exprs := by
        apply flatMap_eq_flatMap_nodes
        · intro t ht
          exact exprs_ty_of_plainTypes (h.of_mem_parts ht)
        · intro q hq
          exact ih q hq (h.of_mem_parts hq)
      cases p with
      | ty t =>
          rw [exprs_ty_of_plainTypes h, exprs_eq]
          rfl
      | expr e =>
          rw [Phrase.parts, Expr.filterMap_node?_parts] at hbelow
          rw [exprs_eq, exprs_eq (nodes.stopAt stop)]
          exact congrArg _ hbelow
      | stmt s =>
          rw [Phrase.parts, Stmt.filterMap_node?_parts] at hbelow
          rw [exprs_eq, exprs_eq (nodes.stopAt stop)]
          cases hstop : stop s with
          | true => simp [stopAt, hstop]
          | false =>
              simpa [stopAt, hstop, stored, nodes, Phrase.parts, Phrase.children]
                using hbelow

theorem exprsIn_stored_eq_nodes {ss : List Stmt} (h : PlainTypes ss) :
    (stored.stopAt stop).exprsIn ss = (nodes.stopAt stop).exprsIn ss :=
  List.flatMap_congr fun s hs => exprs_stored_eq_nodes (h s hs)

end Plain

section Relabelled

variable (f : Relabel)

def relabelNodes : Phrase → Phrase
  | .ty t => .ty t
  | .expr e => .expr (e.relabel f)
  | .stmt s => .stmt (s.relabel f)

theorem opensScope_relabel (s : Stmt) : (s.relabel f).opensScope = s.opensScope := by
  cases s <;> rfl

theorem map_phrase_map_relabel (ns : List Node) :
    (ns.map (Node.relabel f)).map Node.phrase =
      (ns.map Node.phrase).map (relabelNodes f) := by
  rw [List.map_map, List.map_map]
  refine List.map_congr_left ?_
  intro n _
  cases n <;> rfl

theorem next_relabelNodes (p : Phrase) :
    (nodes.stopAt Stmt.opensScope).next (relabelNodes f p) =
      ((nodes.stopAt Stmt.opensScope).next p).map (relabelNodes f) := by
  cases p with
  | ty t => rfl
  | expr e =>
      have hchildren : (e.relabel f).children = e.children.map (Node.relabel f) :=
        e.children_relabel
      simp only [stopAt, nodes, relabelNodes, Phrase.children, hchildren,
        map_phrase_map_relabel]
  | stmt s =>
      cases hscope : s.opensScope with
      | true => simp [stopAt, relabelNodes, opensScope_relabel, hscope]
      | false =>
          have hchildren : (s.relabel f).children = s.children.map (Node.relabel f) := by
            apply Stmt.children_relabel_of_kind_ne
            intro hclass
            cases s with
            | declareClass => cases hscope
            | _ => cases hclass
          simp only [stopAt, nodes, relabelNodes, opensScope_relabel, hscope,
            Phrase.children, hchildren, map_phrase_map_relabel, Bool.false_eq_true,
            if_false]

theorem exprsIn_map_relabel (ss : List Stmt) :
    (nodes.stopAt Stmt.opensScope).exprsIn (ss.map (Stmt.relabel f)) =
      ((nodes.stopAt Stmt.opensScope).exprsIn ss).map (Expr.relabel f) := by
  have hexpr : ∀ p, (relabelNodes f p).expr? = p.expr?.map (Expr.relabel f) := by
    intro p
    cases p <;> rfl
  exact exprsIn_of_next_eq_map _ hexpr (next_relabelNodes f) (fun _ => rfl) ss

end Relabelled
end Route

theorem reads_eq_of_plainTypes {ss : List Stmt} (h : PlainTypes ss) :
    reads ss =
      ((Route.nodes.stopAt Stmt.opensScope).exprsIn ss).filterMap Expr.readName? := by
  rw [reads, Route.exprsIn_stored_eq_nodes h]

theorem Expr.readName?_relabel {f : Relabel} (hvar : f.var = id) (e : Expr) :
    (e.relabel f).readName? = e.readName? := by
  cases e with
  | readVar name type span => cases name <;> simp [relabel, hvar, readName?]
  | _ => rfl

end CodeTree
