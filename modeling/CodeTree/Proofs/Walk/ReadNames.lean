import CodeTree.Proofs.Walk.Noting
import CodeTree.Walk.ReadNames
import Mathlib.Data.List.Induction

namespace CodeTree

open Effects
open Route (stored)

namespace ReadNames

/-! ## First occurrences -/

/-- Each of the names once, at the place of its first occurrence. -/
def firsts (names : List String) : List String :=
  names.foldl insert []

variable {names : List String}

theorem firsts_append_singleton (names : List String) (name : String) :
    firsts (names ++ [name]) = insert (firsts names) name := by
  simp [firsts]

theorem mem_firsts_iff {a : String} : a ∈ firsts names ↔ a ∈ names := by
  rw [firsts, mem_foldl_insert_iff]
  simp

theorem firsts_eq_eraseDups (names : List String) : firsts names = names.eraseDups := by
  induction names using List.reverseRec with
  | nil => rfl
  | append_singleton names name ih =>
      rw [firsts_append_singleton, ih, List.eraseDups_append]
      by_cases hmem : name ∈ names
      · have hold : [name].removeAll names = [] := by
          simp [List.removeAll, hmem]
        rw [insert_of_mem (List.mem_eraseDups.2 hmem), hold, List.eraseDups_nil,
          List.append_nil]
      · have hnew : [name].removeAll names = [name] := by
          simp [List.removeAll, hmem]
        rw [insert_of_not_mem fun h => hmem (List.mem_eraseDups.1 h), hnew]
        rfl

theorem firsts_map_firsts (f : String → String) (names : List String) :
    firsts ((firsts names).map f) = firsts (names.map f) := by
  induction names using List.reverseRec with
  | nil => rfl
  | append_singleton names name ih =>
      rw [firsts_append_singleton, List.map_append, List.map_singleton,
        firsts_append_singleton, ← ih]
      by_cases hmem : name ∈ firsts names
      · have hagain : f name ∈ firsts ((firsts names).map f) :=
          mem_firsts_iff.2 (List.mem_map_of_mem hmem)
        rw [insert_of_mem hmem, insert_of_mem hagain]
      · rw [insert_of_not_mem hmem, List.map_append, List.map_singleton,
          firsts_append_singleton]

theorem pairwise_firsts (names : List String) :
    (firsts names).Pairwise fun a b => names.idxOf a < names.idxOf b := by
  -- From the right, so that a step leaves the positions of earlier names alone.
  induction names using List.reverseRec with
  | nil => exact List.Pairwise.nil
  | append_singleton names name ih =>
      have hold : ∀ a ∈ firsts names, (names ++ [name]).idxOf a = names.idxOf a :=
        fun a ha => List.idxOf_append_of_mem (mem_firsts_iff.1 ha)
      have hkept : (firsts names).Pairwise fun a b =>
          (names ++ [name]).idxOf a < (names ++ [name]).idxOf b := by
        refine ih.imp_of_mem ?_
        intro a b ha hb hlt
        rw [hold a ha, hold b hb]
        exact hlt
      rw [firsts_append_singleton]
      by_cases hmem : name ∈ firsts names
      · rw [insert_of_mem hmem]
        exact hkept
      · rw [insert_of_not_mem hmem, List.pairwise_append]
        refine ⟨hkept, List.pairwise_singleton _ name, ?_⟩
        intro a ha b hb
        have hlt : names.idxOf a < names.length :=
          List.idxOf_lt_length_iff.2 (mem_firsts_iff.1 ha)
        rw [List.mem_singleton.1 hb, hold a ha,
          List.idxOf_append_of_notMem fun hname => hmem (mem_firsts_iff.2 hname)]
        omega

theorem nodup_firsts (names : List String) : (firsts names).Nodup := by
  refine (pairwise_firsts names).imp ?_
  intro a b hlt hsame
  rw [hsame] at hlt
  exact Nat.lt_irrefl _ hlt

theorem foldl_insert_eq_of_echoes {α : Type} {as as' : List α} (h : Echoes as as')
    (f : α → Option String) (names : List String) :
    (as.filterMap f).foldl insert names = (as'.filterMap f).foldl insert names := by
  induction h generalizing names with
  | refl as => rfl
  | append _ _ ihfirst ihothers =>
      rw [List.filterMap_append, List.filterMap_append, List.foldl_append,
        List.foldl_append, ihfirst, ihothers]
  | again _ met ih =>
      rw [List.filterMap_append, List.foldl_append, ih]
      apply foldl_insert_of_subset
      intro name hname
      obtain ⟨b, hb, hread⟩ := List.mem_filterMap.1 hname
      exact mem_foldl_insert_iff.2 (.inr (List.mem_filterMap.2 ⟨b, met b hb, hread⟩))

/-! ## The walk -/

theorem walk_eq_noting : walk = Walk.noting note Stmt.opensScope := rfl

theorem after_note (es : List Expr) (names : List String) :
    after (forM es note) names = (es.filterMap Expr.readName?).foldl insert names := by
  induction es generalizing names with
  | nil => rfl
  | cons e es ih =>
      have hhead : after (note e) names = e.readName?.toList.foldl insert names := by
        rw [note]
        cases e.readName? <;> rfl
      rw [List.forM_cons, after_bind, ih, hhead, ← List.foldl_append, List.filterMap_cons]
      cases e.readName? <;> rfl

end ReadNames

open ReadNames (firsts)

/-- The names that are read in what is stored outside the functions and classes that the
statements declare, in the order of the reads. -/
def reads (ss : List Stmt) : List String :=
  ((stored.stopAt Stmt.opensScope).exprsIn ss).filterMap Expr.readName?

theorem mem_reads_iff {ss : List Stmt} {name : String} :
    name ∈ reads ss ↔ ∃ s ∈ ss, ∃ type span,
      (stored.stopAt Stmt.opensScope).Reaches (.stmt s)
        (.expr (.readVar (.named name) type span)) := by
  rw [reads, List.mem_filterMap]
  constructor
  · rintro ⟨e, he, hname⟩
    obtain ⟨s, hs, hreaches⟩ := (Route.mem_exprsIn_iff _).1 he
    obtain ⟨type, span, rfl⟩ := Expr.readName?_eq_some_iff.1 hname
    exact ⟨s, hs, type, span, hreaches⟩
  · rintro ⟨s, hs, type, span, hreaches⟩
    exact ⟨_, (Route.mem_exprsIn_iff _).2 ⟨s, hs, hreaches⟩, rfl⟩

theorem readNames_eq_foldl (ss : List Stmt) :
    readNames ss = (((Route.walked.stopAt Stmt.opensScope).exprsIn ss).filterMap
      Expr.readName?).foldl ReadNames.insert [] := by
  calc
    readNames ss = after (ReadNames.walk.stmts ss) [] := rfl
    _ = (((Route.walked.stopAt Stmt.opensScope).exprsIn ss).filterMap
          Expr.readName?).foldl ReadNames.insert [] := by
        rw [ReadNames.walk_eq_noting, Walk.stmts_noting, ReadNames.after_note]

theorem readNames_eq (ss : List Stmt) : readNames ss = firsts (reads ss) := by
  rw [readNames_eq_foldl]
  exact ReadNames.foldl_insert_eq_of_echoes
    (Route.exprsIn_walked_echoes_stored Stmt.opensScope ss) Expr.readName? []

/-- The result is the set of the names that are read, in the order of the first
reads. -/
theorem readNames_exact (ss : List Stmt) :
    (∀ name, name ∈ readNames ss ↔
      ∃ s ∈ ss, ∃ type span, (stored.stopAt Stmt.opensScope).Reaches (.stmt s)
        (.expr (.readVar (.named name) type span))) ∧
    (readNames ss).Nodup ∧
    (readNames ss).Pairwise fun a b => (reads ss).idxOf a < (reads ss).idxOf b := by
  rw [readNames_eq]
  refine ⟨?member, ?once, ?order⟩
  case member =>
    intro name
    rw [ReadNames.mem_firsts_iff, mem_reads_iff]
  case once => exact ReadNames.nodup_firsts (reads ss)
  case order => exact ReadNames.pairwise_firsts (reads ss)

-- The function is passed by, and the type of the sequence, met a second time, changes
-- nothing.
example :
    let read (name : String) (type : Option Ty) : Expr := .readVar (.named name) type none
    readNames
      [.declareFunction "f" [] [.ret (read "a" none) none] none .none none,
        .expr (.comma [read "b" (some (.expr (read "c" none) .none))] none) none,
        .expr (read "b" none) none] =
      ["b", "c"] := by
  rfl

end CodeTree
