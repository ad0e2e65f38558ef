import CodeTree.Proofs.Walk.Stepwise

/-!
# Walks that note expressions

What an analysis comes to is a route, which differs from what is stored at a comma
sequence only: the type of the last part is met again at the end of the sequence.
-/

namespace CodeTree

open Effects

namespace Route

/-- Goes through all parts and then, from an expression that only computes its type, to
that type. -/
def walked : Route where
  next p := p.parts ++ p.computedType?.toList.map .ty
  descends p q h := by
    rcases List.mem_append.1 h with hpart | htype
    · exact Phrase.weight_lt_of_mem_parts hpart
    · obtain ⟨t, ht, rfl⟩ : ∃ t, p.computedType? = some t ∧ .ty t = q := by
        simpa using htype
      exact Phrase.weight_computedType_lt ht

theorem next_walked_expr (e : Expr) :
    walked.next (.expr e) = e.innerParts ++ e.type?.toList.map .ty :=
  e.innerParts_append_type.symm

end Route

section Noting

variable {m : Type → Type} [Monad m] {note : Expr → m Unit} {stop : Stmt → Bool}

/-- Goes everywhere but into certain statements and notes every expression on the way
in. -/
def Walk.noting (note : Expr → m Unit) (stop : Stmt → Bool) : Walk m :=
  { everywhere with
    enterExpr := fun e => do
      note e
      return .into
    enterStmt := fun s => return !stop s }

theorem Walk.entersLists_noting : (noting note stop).EntersLists where
  exprs _ := rfl
  stmts _ := rfl
  params _ := rfl
  method _ := rfl

open Walk (noting entersLists_noting)

variable [LawfulMonad m]

theorem Phrase.walk_noting (p : Phrase) :
    p.walk (noting note stop) = forM ((Route.walked.stopAt stop).exprs p) note := by
  let r := Route.walked.stopAt stop
  induction p using r.induction with
  | phrase p ih =>
      have hnext : forM (r.next p) (Phrase.walk (noting note stop)) =
          forM ((r.next p).flatMap r.exprs) note := by
        rw [forM_flatMap, forM_congr_of_mem ih]
      rw [r.exprs_eq, List.forM_append, ← hnext]
      cases p with
      | ty t =>
          rw [walk, Ty.walk_eq]
          simp [r, Route.stopAt, Route.walked, noting, Walk.everywhere, Walk.atTy,
            Phrase.expr?, Phrase.parts, Phrase.computedType?]
      | expr e =>
          have hparts : r.next (.expr e) = e.innerParts ++ e.type?.toList.map .ty :=
            Route.next_walked_expr e
          rw [hparts, walk, Expr.walk_eq entersLists_noting]
          simp [noting, Walk.everywhere, Walk.atExpr, Walk.visit, Phrase.expr?]
      | stmt s =>
          rw [walk, Stmt.walk_eq entersLists_noting]
          cases hstop : stop s <;>
            simp [r, hstop, Route.stopAt, Route.walked, noting, Walk.goIf, Phrase.expr?,
              Phrase.parts, Phrase.computedType?]

theorem Walk.stmts_noting (ss : List Stmt) :
    (noting note stop).stmts ss = forM ((Route.walked.stopAt stop).exprsIn ss) note := by
  rw [stmts_eq_forM entersLists_noting, Route.exprsIn, forM_flatMap]
  exact forM_congr_of_mem fun s _ => Phrase.walk_noting (.stmt s)

end Noting

/-- The first list is the second one with more put in.  Everything that is put in stands
there before. -/
inductive Echoes {α : Type} : List α → List α → Prop where
  | refl (as : List α) : Echoes as as
  | append {as bs as' bs' : List α} (first : Echoes as as') (others : Echoes bs bs') :
      Echoes (as ++ bs) (as' ++ bs')
  | again {as as' bs : List α} (first : Echoes as as') (met : ∀ b ∈ bs, b ∈ as') :
      Echoes (as ++ bs) as'

namespace Echoes

variable {α β : Type}

theorem mem_iff {as as' : List α} (h : Echoes as as') (a : α) : a ∈ as ↔ a ∈ as' := by
  induction h with
  | refl as => rfl
  | append _ _ ihfirst ihothers =>
      rw [List.mem_append, List.mem_append, ihfirst, ihothers]
  | again _ met ih =>
      rw [List.mem_append, ih]
      exact or_iff_left_of_imp (met a)

theorem flatMap {f g : β → List α} {bs : List β} (h : ∀ b ∈ bs, Echoes (f b) (g b)) :
    Echoes (bs.flatMap f) (bs.flatMap g) := by
  induction bs with
  | nil => exact .refl []
  | cons b bs ih =>
      have htail := ih fun c hc => h c (List.mem_cons_of_mem b hc)
      exact .append (h b List.mem_cons_self) htail

end Echoes

open Route (stored walked)

section Types

variable {stop : Stmt → Bool} {e : Expr} {t : Ty}

theorem Expr.exprs_type_subset (h : e.type? = some t) :
    (stored.stopAt stop).exprs (.ty t) ⊆ e.parts.flatMap (stored.stopAt stop).exprs := by
  induction e using Expr.induction with
  | expr e ih =>
      intro c hc
      rw [List.mem_flatMap]
      rcases annotation_or_computedType h with hstored | hcomputed
      · have hmem : .ty t ∈ e.parts := List.mem_append_right _ (by simp [hstored])
        exact ⟨.ty t, hmem, hc⟩
      · rcases eq_bool_or_type_of_child hcomputed with rfl | ⟨part, hpart, htype⟩
        · rw [Route.exprs_eq] at hc
          cases hc
        · refine ⟨.expr part, Phrase.phrase_mem_parts (p := .expr e) hpart, ?_⟩
          rw [Route.exprs_eq]
          exact List.mem_append_right _ (ih part hpart htype hc)

theorem Route.next_walked_eq (stop : Stmt → Bool) (p : Phrase) :
    (walked.stopAt stop).next p =
      (stored.stopAt stop).next p ++ p.computedType?.toList.map .ty := by
  cases p with
  | stmt s =>
      cases hstop : stop s <;> simp [stopAt, walked, stored, hstop, Phrase.computedType?]
  | _ => rfl

theorem Route.walked_exprs_eq (stop : Stmt → Bool) (p : Phrase) :
    (walked.stopAt stop).exprs p =
      p.expr?.toList ++
        ((stored.stopAt stop).next p).flatMap (walked.stopAt stop).exprs ++
        p.computedType?.toList.flatMap fun t => (walked.stopAt stop).exprs (.ty t) := by
  rw [exprs_eq, next_walked_eq, List.flatMap_append, List.flatMap_map, List.append_assoc]

/-- The walk meets what is stored, and besides nothing that it has not met there
before. -/
theorem Route.walked_echoes_stored (stop : Stmt → Bool) (p : Phrase) :
    Echoes ((walked.stopAt stop).exprs p) ((stored.stopAt stop).exprs p) := by
  induction p using (walked.stopAt stop).induction with
  | phrase p ih =>
      rw [next_walked_eq] at ih
      have hparts : Echoes
          (p.expr?.toList ++
            ((stored.stopAt stop).next p).flatMap (walked.stopAt stop).exprs)
          ((stored.stopAt stop).exprs p) := by
        rw [(stored.stopAt stop).exprs_eq]
        apply Echoes.append (.refl _)
        exact .flatMap fun q hq => ih q (List.mem_append_left _ hq)
      rw [walked_exprs_eq]
      -- What comes last was met in the part that stores the type.
      apply hparts.again
      intro c hc
      obtain ⟨t, ht, hwalked⟩ := List.mem_flatMap.1 hc
      have htype := ih (.ty t) (List.mem_append_right _ (List.mem_map_of_mem ht))
      have hstored := (htype.mem_iff c).1 hwalked
      cases p with
      | expr e =>
          have hanswer : e.type? = some t :=
            Expr.type?_eq_of_computedType (Option.mem_toList.1 ht)
          rw [(stored.stopAt stop).exprs_eq]
          exact List.mem_append_right _ (Expr.exprs_type_subset hanswer hstored)
      | _ => cases ht

theorem Route.exprsIn_walked_echoes_stored (stop : Stmt → Bool) (ss : List Stmt) :
    Echoes ((walked.stopAt stop).exprsIn ss) ((stored.stopAt stop).exprsIn ss) :=
  .flatMap fun s _ => walked_echoes_stored stop (.stmt s)

end Types

end CodeTree
