import CodeTree.Proofs.Rebuild.Backfill
import CodeTree.Proofs.Constant
import CodeTree.Proofs.Tree.ErasedSpans
import CodeTree.Proofs.Walk.ReadNames
import CodeTree.Proofs.Walk.References

namespace CodeTree

open Route (walked)

namespace Route

variable (stop : Stmt → Bool)

theorem next_walked_eraseSpans (p : Phrase) :
    walked.next p.eraseSpans = (walked.next p).map Phrase.eraseSpans := by
  have htype : (p.eraseSpans.computedType?.toList.map Phrase.ty) =
      (p.computedType?.toList.map Phrase.ty).map Phrase.eraseSpans := by
    rw [p.computedType?_eraseSpans]
    cases p.computedType? <;> rfl
  simp only [walked, p.parts_eraseSpans, htype, List.map_append]

theorem next_stopAt_eraseSpans (hstop : ∀ s : Stmt, stop s.eraseSpans = stop s)
    (p : Phrase) :
    (walked.stopAt stop).next p.eraseSpans =
      ((walked.stopAt stop).next p).map Phrase.eraseSpans := by
  cases p with
  | stmt s =>
      cases hs : stop s with
      | true => simp [stopAt, Phrase.eraseSpans, hstop, hs]
      | false =>
          have hnext := next_walked_eraseSpans (.stmt s)
          simpa [stopAt, Phrase.eraseSpans, hstop, hs] using hnext
  | _ => exact next_walked_eraseSpans _

theorem exprsIn_eraseSpans (hstop : ∀ s : Stmt, stop s.eraseSpans = stop s)
    (ss : List Stmt) :
    (walked.stopAt stop).exprsIn (ss.map Stmt.eraseSpans) =
      ((walked.stopAt stop).exprsIn ss).map Expr.eraseSpans := by
  have hexpr : ∀ p : Phrase, p.eraseSpans.expr? = p.expr?.map Expr.eraseSpans := by
    intro p
    cases p <;> rfl
  exact exprsIn_of_next_eq_map _ hexpr (next_stopAt_eraseSpans stop hstop)
    (fun _ => rfl) ss

end Route

theorem Expr.readName?_eraseSpans (e : Expr) : e.eraseSpans.readName? = e.readName? := by
  cases e with
  | readVar name type span => cases name <;> rfl
  | _ => rfl

theorem Expr.reference?_eraseSpans (e : Expr) :
    e.eraseSpans.reference? = e.reference? := by
  cases e <;> rfl

theorem Stmt.opensScope_eraseSpans (s : Stmt) :
    s.eraseSpans.opensScope = s.opensScope := by
  cases s <;> rfl

theorem filterMap_map_eraseSpans {α : Type} {f : Expr → Option α}
    (hf : ∀ e : Expr, f e.eraseSpans = f e) (es : List Expr) :
    (es.map Expr.eraseSpans).filterMap f = es.filterMap f := by
  rw [List.filterMap_map]
  exact List.filterMap_congr fun e _ => hf e

theorem readNames_eraseSpans (ss : List Stmt) :
    readNames (ss.map Stmt.eraseSpans) = readNames ss := by
  rw [readNames_eq_foldl, readNames_eq_foldl,
    Route.exprsIn_eraseSpans _ Stmt.opensScope_eraseSpans,
    filterMap_map_eraseSpans Expr.readName?_eraseSpans]

theorem externalRefs_eraseSpans (ss : List Stmt) :
    externalRefs (ss.map Stmt.eraseSpans) = externalRefs ss := by
  have hexprs : walked.exprsIn (ss.map Stmt.eraseSpans) =
      (walked.exprsIn ss).map Expr.eraseSpans := by
    simpa [Route.stopAt_nowhere] using
      Route.exprsIn_eraseSpans (fun _ => false) (fun _ => rfl) ss
  rw [externalRefs_eq, externalRefs_eq, hexprs,
    filterMap_map_eraseSpans Expr.reference?_eraseSpans]

theorem Expr.isConstant_eraseSpans (e : Expr) :
    e.eraseSpans.isConstant = e.isConstant := by
  rw [eraseSpans_eq_relabel, isConstant_relabel]

section Backfill

variable (span : Option Span)

theorem Stmt.eraseSpans_backfill (s : Stmt) :
    (s.backfill span).eraseSpans = s.eraseSpans := by
  cases span with
  | none => rfl
  | some span => rw [backfill_eq_mapSpans, eraseSpans_mapSpans]

theorem Expr.type?_backfill (e : Expr) : (e.backfill span).type? = e.type? := by
  cases span with
  | none => rfl
  | some span =>
      rw [backfill_eq_mapSpans]
      exact type?_relabel rfl rfl e

theorem map_eraseSpans_backfill (ss : List Stmt) :
    (ss.map fun s => s.backfill span).map Stmt.eraseSpans = ss.map Stmt.eraseSpans := by
  rw [List.map_map]
  exact List.map_congr_left fun s _ => s.eraseSpans_backfill span

end Backfill

theorem analyses_eq_of_eraseSpans_eq {as bs : List Stmt}
    (h : as.map Stmt.eraseSpans = bs.map Stmt.eraseSpans) :
    readNames as = readNames bs ∧ externalRefs as = externalRefs bs := by
  constructor
  · rw [← readNames_eraseSpans, h, readNames_eraseSpans]
  · rw [← externalRefs_eraseSpans, h, externalRefs_eraseSpans]

/-- Where two programs are the same without their spans, also without those in types,
the analyses find the same in both.  No span that is filled in changes what they
find. -/
theorem analyses_blind_to_spans :
    (∀ as bs : List Stmt, as.map Stmt.eraseSpans = bs.map Stmt.eraseSpans →
      readNames as = readNames bs ∧ externalRefs as = externalRefs bs) ∧
    (∀ e e' : Expr, e.eraseSpans = e'.eraseSpans →
      e.isConstant = e'.isConstant ∧
        e.type?.map Ty.eraseSpans = e'.type?.map Ty.eraseSpans) ∧
    ∀ span : Option Span,
      (∀ ss : List Stmt, readNames (ss.map fun s => s.backfill span) = readNames ss ∧
        externalRefs (ss.map fun s => s.backfill span) = externalRefs ss) ∧
      ∀ e : Expr, (e.backfill span).isConstant = e.isConstant ∧
        (e.backfill span).type? = e.type? := by
  refine ⟨?stmts, ?exprs, ?backfill⟩
  case stmts =>
    intro as bs h
    exact analyses_eq_of_eraseSpans_eq h
  case exprs =>
    intro e e' h
    constructor
    · rw [← e.isConstant_eraseSpans, h, e'.isConstant_eraseSpans]
    · rw [← e.type?_eraseSpans, h, e'.type?_eraseSpans]
  case backfill =>
    intro span
    constructor
    · intro ss
      exact analyses_eq_of_eraseSpans_eq (map_eraseSpans_backfill span ss)
    · intro e
      exact ⟨e.isConstant_backfill span, e.type?_backfill span⟩

/-- A comma sequence whose only part is typed by an expression.  All three have the
span. -/
def sequenceSpanned (span : Option Span) : Expr :=
  let type : Ty := .expr (.external ⟨some "m", some "T", none⟩ none none span) .none
  .comma [.readVar (.named "x") (some type) span] span

theorem analyses_of_sequenceSpanned :
    let place : Location := ⟨⟨"x", "a.ts"⟩, 0, 0, 0⟩
    let e := sequenceSpanned (some ⟨place, place, none⟩)
    let e' := sequenceSpanned none
    e.type? ≠ e'.type? ∧ e.eraseSpans = e'.eraseSpans ∧
      (e.isConstant = e'.isConstant ∧
        e.type?.map Ty.eraseSpans = e'.type?.map Ty.eraseSpans) ∧
      readNames [.expr e none] = readNames [.expr e' none] ∧
      externalRefs [.expr e none] = externalRefs [.expr e' none] := by
  intro place e e'
  have htypes : e.type? ≠ e'.type? := by
    simp [e, e', sequenceSpanned, Expr.type?, Expr.lastType?]
  have herased : e.eraseSpans = e'.eraseSpans := by rfl
  exact ⟨htypes, herased, analyses_blind_to_spans.2.1 e e' herased,
    analyses_blind_to_spans.1 [.expr e none] [.expr e' none] (by rfl)⟩

end CodeTree
