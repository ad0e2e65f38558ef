import CodeTree.Proofs.Walk.Noting
import CodeTree.Walk.References
import Mathlib.Data.List.Perm.Basic

/-!
# Which references are collected

The walk goes over the type of a comma sequence twice, when it leaves the last part and
when it leaves the sequence, and collects the references in it again.
-/

namespace CodeTree

open Effects
open scoped List
open Route (stored walked)

namespace References

theorem walk_eq_noting : walk = Walk.noting note fun _ => false := rfl

theorem after_note (es : List Expr) (refs : List ExternalRef) :
    after (forM es note) refs = refs ++ es.filterMap Expr.reference? := by
  induction es generalizing refs with
  | nil => exact (List.append_nil refs).symm
  | cons e es ih =>
      have hhead : after (note e) refs = refs ++ e.reference?.toList := by
        rw [note]
        cases e.reference? with
        | none => exact (List.append_nil refs).symm
        | some ref => rfl
      rw [List.forM_cons, after_bind, ih, hhead, List.append_assoc, List.filterMap_cons]
      cases e.reference? <;> rfl

end References

theorem externalRefs_eq (ss : List Stmt) :
    externalRefs ss = (walked.exprsIn ss).filterMap Expr.reference? := by
  calc
    externalRefs ss = after (References.walk.stmts ss) [] := rfl
    _ = ((walked.stopAt fun _ => false).exprsIn ss).filterMap Expr.reference? := by
        rw [References.walk_eq_noting, Walk.stmts_noting, References.after_note,
          List.nil_append]
    _ = (walked.exprsIn ss).filterMap Expr.reference? := by
        rw [Route.stopAt_nowhere]

theorem Route.walked_echoes_all (p : Phrase) :
    Echoes (walked.exprs p) (stored.exprs p) := by
  have hechoes := walked_echoes_stored (fun _ => false) p
  rwa [stopAt_nowhere, stopAt_nowhere] at hechoes

/-- The references of all external expressions that are stored in the statements. -/
def storedRefs (ss : List Stmt) : List ExternalRef :=
  (stored.exprsIn ss).filterMap Expr.reference?

/-- A reference is collected exactly when an external expression with it is stored
somewhere in the statements, at any depth, also inside types and type arguments. -/
theorem mem_externalRefs_iff (ss : List Stmt) (ref : ExternalRef) :
    ref ∈ externalRefs ss ↔ ∃ s ∈ ss, ∃ typeArgs type span,
      stored.Reaches (.stmt s) (.expr (.external ref typeArgs type span)) := by
  have hechoes : Echoes (walked.exprsIn ss) (stored.exprsIn ss) :=
    .flatMap fun s _ => Route.walked_echoes_all (.stmt s)
  rw [externalRefs_eq, List.mem_filterMap]
  constructor
  · rintro ⟨e, he, href⟩
    rw [hechoes.mem_iff] at he
    obtain ⟨s, hs, hreaches⟩ := (Route.mem_exprsIn_iff _).1 he
    obtain ⟨typeArgs, type, span, rfl⟩ := Expr.reference?_eq_some_iff.1 href
    exact ⟨s, hs, typeArgs, type, span, hreaches⟩
  · rintro ⟨s, hs, typeArgs, type, span, hreaches⟩
    refine ⟨.external ref typeArgs type span, ?_, rfl⟩
    rw [hechoes.mem_iff]
    exact (Route.mem_exprsIn_iff _).2 ⟨s, hs, hreaches⟩

/-! ## How often a reference is collected -/

/-- What the walk meets once more when it leaves an expression. -/
def Expr.metAgain (e : Expr) : List Expr :=
  e.computedType?.toList.flatMap fun t => walked.exprs (.ty t)

theorem Phrase.metAgain_eq (p : Phrase) :
    (p.computedType?.toList.flatMap fun t => walked.exprs (.ty t)) =
      p.expr?.toList.flatMap Expr.metAgain := by
  cases p with
  | expr e => exact (List.append_nil _).symm
  | _ => rfl

theorem perm_flatMap_of_perm {α β : Type} {as : List α} {f g : α → List β}
    {again : β → List β} (h : ∀ a ∈ as, f a ~ g a ++ (g a).flatMap again) :
    as.flatMap f ~ as.flatMap g ++ (as.flatMap g).flatMap again := by
  rw [List.flatMap_assoc]
  exact (List.Perm.flatMap_left as h).trans (List.flatMap_append_perm as _ _).symm

/-- What is stored is met, and for each expression that is stored, what is met again
there. -/
theorem Route.walked_exprs_perm (p : Phrase) :
    walked.exprs p ~ stored.exprs p ++ (stored.exprs p).flatMap Expr.metAgain := by
  -- Along what is stored: the walk over a computed type is kept as it is.
  induction p using stored.induction with
  | phrase p ih =>
      let head := p.expr?.toList
      let below := (stored.next p).flatMap stored.exprs
      have hbelow : (stored.next p).flatMap walked.exprs ~
          below ++ below.flatMap Expr.metAgain :=
        perm_flatMap_of_perm ih
      calc
        walked.exprs p =
            head ++ (stored.next p).flatMap walked.exprs ++
              head.flatMap Expr.metAgain := by
            rw [← p.metAgain_eq]
            simpa [stopAt_nowhere] using walked_exprs_eq (fun _ => false) p
        _ ~ head ++ (below ++ below.flatMap Expr.metAgain) ++
              head.flatMap Expr.metAgain :=
            (hbelow.append_left head).append_right _
        _ = head ++ below ++
              (below.flatMap Expr.metAgain ++ head.flatMap Expr.metAgain) := by
            simp only [List.append_assoc]
        _ ~ head ++ below ++
              (head.flatMap Expr.metAgain ++ below.flatMap Expr.metAgain) :=
            List.perm_append_comm.append_left _
        _ = stored.exprs p ++ (stored.exprs p).flatMap Expr.metAgain := by
            rw [stored.exprs_eq p, List.flatMap_append]

def refsMetAgain (ss : List Stmt) : List ExternalRef :=
  ((stored.exprsIn ss).flatMap Expr.metAgain).filterMap Expr.reference?

theorem externalRefs_perm (ss : List Stmt) :
    externalRefs ss ~ storedRefs ss ++ refsMetAgain ss := by
  have hexprs : walked.exprsIn ss ~
      stored.exprsIn ss ++ (stored.exprsIn ss).flatMap Expr.metAgain :=
    perm_flatMap_of_perm fun s _ => Route.walked_exprs_perm (.stmt s)
  rw [externalRefs_eq, storedRefs, refsMetAgain, ← List.filterMap_append]
  exact hexprs.filterMap Expr.reference?

/-- An external expression with this reference stands in the type that a comma sequence
of the statements has from its last part. -/
def RefInCommaType (ss : List Stmt) (ref : ExternalRef) : Prop :=
  ∃ s ∈ ss, ∃ parts span t, stored.Reaches (.stmt s) (.expr (.comma parts span)) ∧
    (Expr.comma parts span).type? = some t ∧
    ∃ typeArgs type span,
      stored.Reaches (.ty t) (.expr (.external ref typeArgs type span))

theorem Expr.mem_metAgain_iff {e c : Expr} :
    c ∈ e.metAgain ↔
      ∃ parts span t, e = .comma parts span ∧ e.type? = some t ∧
        stored.Reaches (.ty t) (.expr c) := by
  rw [metAgain, List.mem_flatMap]
  constructor
  · rintro ⟨t, ht, hc⟩
    rw [(Route.walked_echoes_all _).mem_iff, Route.mem_exprs_iff] at hc
    cases e with
    | comma parts span => exact ⟨parts, span, t, rfl, Option.mem_toList.1 ht, hc⟩
    | not condition span =>
        have hbool : t = Ty.bool := by simpa [computedType?] using ht
        subst hbool
        cases hc with
        | onward step _ => cases step
    | _ => cases ht
  · rintro ⟨parts, span, t, rfl, ht, hc⟩
    refine ⟨t, Option.mem_toList.2 ht, ?_⟩
    rw [(Route.walked_echoes_all _).mem_iff, Route.mem_exprs_iff]
    exact hc

theorem mem_refsMetAgain_iff {ss : List Stmt} {ref : ExternalRef} :
    ref ∈ refsMetAgain ss ↔ RefInCommaType ss ref := by
  rw [refsMetAgain, List.mem_filterMap]
  constructor
  · rintro ⟨c, hc, href⟩
    obtain ⟨e, he, hagain⟩ := List.mem_flatMap.1 hc
    obtain ⟨s, hs, hreaches⟩ := (Route.mem_exprsIn_iff _).1 he
    obtain ⟨parts, span, t, rfl, ht, hc⟩ := Expr.mem_metAgain_iff.1 hagain
    obtain ⟨typeArgs, type, span', rfl⟩ := Expr.reference?_eq_some_iff.1 href
    exact ⟨s, hs, parts, span, t, hreaches, ht, typeArgs, type, span', hc⟩
  · rintro ⟨s, hs, parts, span, t, hreaches, ht, typeArgs, type, span', hc⟩
    refine ⟨.external ref typeArgs type span', List.mem_flatMap.2 ?_, rfl⟩
    exact ⟨.comma parts span, (Route.mem_exprsIn_iff _).2 ⟨s, hs, hreaches⟩,
      Expr.mem_metAgain_iff.2 ⟨parts, span, t, rfl, ht, hc⟩⟩

/-- Each stored reference is collected once, and the references in the types of comma
sequences are collected again.  Without such types there are as many references in the
result as in the statements. -/
theorem externalRefs_once_but_in_comma_types (ss : List Stmt) :
    externalRefs ss ~ storedRefs ss ++ refsMetAgain ss ∧
      (∀ ref, ref ∈ refsMetAgain ss ↔ RefInCommaType ss ref) ∧
      ((externalRefs ss).length = (storedRefs ss).length ↔
        ∀ ref, ¬ RefInCommaType ss ref) := by
  refine ⟨externalRefs_perm ss, fun _ => mem_refsMetAgain_iff, ?_⟩
  have hlength : (externalRefs ss).length =
      (storedRefs ss).length + (refsMetAgain ss).length := by
    rw [(externalRefs_perm ss).length_eq, List.length_append]
  rw [hlength]
  constructor
  · intro hsame ref href
    have hnil : refsMetAgain ss = [] := List.length_eq_zero_iff.1 (by omega)
    rw [← mem_refsMetAgain_iff, hnil] at href
    cases href
  · intro hnone
    have hnil : refsMetAgain ss = [] :=
      List.eq_nil_iff_forall_not_mem.2 fun ref href =>
        hnone ref (mem_refsMetAgain_iff.1 href)
    rw [hnil]
    rfl

/-- A single external expression, in the type of the only part of a comma sequence. -/
def typedSequence : List Stmt :=
  let type : Ty := .expr (.external ⟨some "m", some "T", none⟩ none none none) .none
  [.expr (.comma [.literal .null (some type) none] none) none]

theorem externalRefs_typedSequence :
    externalRefs typedSequence =
      [⟨some "m", some "T", none⟩, ⟨some "m", some "T", none⟩] ∧
      storedRefs typedSequence = [⟨some "m", some "T", none⟩] ∧
      ¬ ∀ ss, (externalRefs ss).length = (storedRefs ss).length := by
  have hcollected : externalRefs typedSequence =
      [⟨some "m", some "T", none⟩, ⟨some "m", some "T", none⟩] := by rfl
  have hstored : storedRefs typedSequence = [⟨some "m", some "T", none⟩] := by
    simp [storedRefs, typedSequence, Route.exprsIn, Route.exprs_eq, stored, Phrase.parts,
      Phrase.expr?, Stmt.parts, Expr.parts, Ty.parts, Expr.innerParts,
      Expr.annotation?, Expr.type?]
    rfl
  refine ⟨hcollected, hstored, ?_⟩
  intro hsame
  have hlength := hsame typedSequence
  rw [hcollected, hstored] at hlength
  cases hlength

end CodeTree
