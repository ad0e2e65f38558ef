import CodeTree.Proofs.Rebuild.Nodewise
import CodeTree.Proofs.Tree.Spans
import CodeTree.Rebuild.Backfill

namespace CodeTree

theorem Expr.defaultSpan_eq_relabelNode (span : Span) (e : Expr) :
    e.defaultSpan span = e.relabelNode (.onSpans fun own => own.or (some span)) := by
  rw [relabelNode_onSpans, defaultSpan]
  cases hspan : e.span? with
  | none => rfl
  | some own =>
      have hsame : e.withSpan (some own) = e := hspan ▸ e.withSpan_span?
      simp [hsame]

theorem Stmt.defaultSpan_eq_relabelNode (span : Span) (s : Stmt) :
    s.defaultSpan span = s.relabelNode (.onSpans fun own => own.or (some span)) := by
  rw [relabelNode_onSpans, defaultSpan]
  cases hspan : s.span? with
  | none => rfl
  | some own =>
      have hsame : s.withSpan (some own) = s := hspan ▸ s.withSpan_span?
      simp [hsame]

theorem Rebuild.backfill_eq_relabel (span : Span) :
    backfill span = relabel (.onSpans fun own => own.or (some span)) := by
  simp [backfill, relabel, Expr.defaultSpan_eq_relabelNode,
    Stmt.defaultSpan_eq_relabelNode]

theorem Expr.backfill_eq_mapSpans (span : Span) (e : Expr) :
    e.backfill (some span) = e.mapSpans fun own => own.or (some span) := by
  rw [backfill, Rebuild.backfill_eq_relabel, (Tree.rebuild_relabel _).1]
  rfl

theorem Stmt.backfill_eq_mapSpans (span : Span) (s : Stmt) :
    s.backfill (some span) = s.mapSpans fun own => own.or (some span) := by
  rw [backfill, Rebuild.backfill_eq_relabel, (Tree.rebuild_relabel _).2]
  rfl

/-- One tree comes from another by giving the span to the nodes that have none. -/
structure SpansFilled (span : Span) (before after : Node) : Prop where
  /-- The two trees are one as soon as all spans are forgotten. -/
  rest : (after.mapSpans fun _ => none) = before.mapSpans fun _ => none
  /-- Node by node, a span that was there stands and a missing one is the given one. -/
  spans : after.postorder.map Node.span? =
    before.postorder.map fun n => some (n.span?.getD span)

theorem spansFilled_mapSpans (span : Span) (n : Node) :
    SpansFilled span n (n.mapSpans fun own => own.or (some span)) where
  rest := by
    rw [Node.mapSpans_mapSpans]
    rfl
  spans := by
    have hfill : ∀ own : Option Span, own.or (some span) = some (own.getD span) := by
      intro own
      cases own <;> rfl
    rw [Node.map_span?_postorder_mapSpans]
    exact List.map_congr_left fun c _ => hfill c.span?

/-- Backfilling is the default of every span: nothing else changes, and nothing outside
types is passed over. -/
theorem Tree.backfill_fills_spans (span : Span) :
    (∀ e : Expr, e.backfill (some span) = (e.mapSpans fun own => own.or (some span)) ∧
      SpansFilled span (.expr e) (.expr (e.backfill (some span)))) ∧
    ∀ s : Stmt, s.backfill (some span) = (s.mapSpans fun own => own.or (some span)) ∧
      SpansFilled span (.stmt s) (.stmt (s.backfill (some span))) := by
  constructor
  · intro e
    have hbackfill := e.backfill_eq_mapSpans span
    refine ⟨hbackfill, ?_⟩
    rw [hbackfill]
    exact spansFilled_mapSpans span (.expr e)
  · intro s
    have hbackfill := s.backfill_eq_mapSpans span
    refine ⟨hbackfill, ?_⟩
    rw [hbackfill]
    exact spansFilled_mapSpans span (.stmt s)

theorem Relabel.fill_andThen_fill (first later : Span) :
    (onSpans fun own => own.or (some first)).andThen
      (onSpans fun own => own.or (some later)) =
      onSpans fun own => own.or (some first) := by
  have hspans :
      ((fun own => own.or (some later)) ∘ fun own : Option Span => own.or (some first)) =
        fun own => own.or (some first) := by
    funext own
    rw [Function.comp_apply, Option.or_assoc, Option.some_or]
  simp only [andThen, onSpans, hspans, Function.comp_id, Bool.and_self]

theorem Expr.backfill_backfill (e : Expr) (first : Span) (later : Option Span) :
    (e.backfill (some first)).backfill later = e.backfill (some first) := by
  cases later with
  | none => rfl
  | some later =>
      rw [backfill_eq_mapSpans, backfill_eq_mapSpans, mapSpans, mapSpans, relabel_relabel,
        Relabel.fill_andThen_fill]

theorem Stmt.backfill_backfill (s : Stmt) (first : Span) (later : Option Span) :
    (s.backfill (some first)).backfill later = s.backfill (some first) := by
  cases later with
  | none => rfl
  | some later =>
      rw [backfill_eq_mapSpans, backfill_eq_mapSpans, mapSpans, mapSpans, relabel_relabel,
        Relabel.fill_andThen_fill]

theorem SpansFilled.span?_ne_none {span : Span} {before after : Node}
    (h : SpansFilled span before after) : ∀ n ∈ after.postorder, n.span? ≠ none := by
  intro n hn
  have hspan : n.span? ∈ before.postorder.map fun c => some (c.span?.getD span) := by
    rw [← h.spans]
    exact List.mem_map_of_mem hn
  obtain ⟨c, -, hfilled⟩ := List.mem_map.1 hspan
  rw [← hfilled]
  exact Option.some_ne_none _

/-- Of several backfills the first with a span is the only one that has an effect. -/
structure FirstWins {α : Type} (node : α → Node)
    (backfill : α → Option Span → α) : Prop where
  sequence : ∀ a (spans : List (Option Span)), spans.foldl backfill a =
    match spans.findSome? id with
    | none => a
    | some first => backfill a (some first)
  absent : ∀ a, backfill a none = a
  idempotent : ∀ a span, backfill (backfill a span) span = backfill a span
  later : ∀ a first span,
    backfill (backfill a (some first)) span = backfill a (some first)
  /-- Nothing is left to fill in. -/
  filled : ∀ a first, ∀ n ∈ (node (backfill a (some first))).postorder, n.span? ≠ none

theorem FirstWins.of_later {α : Type} {node : α → Node} {backfill : α → Option Span → α}
    (absent : ∀ a, backfill a none = a)
    (later : ∀ a first span,
      backfill (backfill a (some first)) span = backfill a (some first))
    (filled : ∀ a first,
      ∀ n ∈ (node (backfill a (some first))).postorder, n.span? ≠ none) :
    FirstWins node backfill where
  sequence := by
    intro a spans
    induction spans with
    | nil => rfl
    | cons span spans ih =>
        cases span with
        | none =>
            rw [List.foldl_cons, absent, ih]
            rfl
        | some first =>
            rw [List.foldl_cons]
            exact List.foldl_fixed' (later a first) spans
  absent := absent
  idempotent := by
    intro a span
    cases span with
    | none => exact absent _
    | some first => exact later a first (some first)
  later := later
  filled := filled

/-- However often a tree is backfilled, only the first span that is given has an
effect. -/
theorem Tree.first_backfill_wins :
    FirstWins .expr Expr.backfill ∧ FirstWins .stmt Stmt.backfill := by
  constructor
  · refine .of_later (fun _ => rfl) Expr.backfill_backfill ?_
    intro e first
    have hfilled := spansFilled_mapSpans first (.expr e)
    rw [e.backfill_eq_mapSpans]
    exact hfilled.span?_ne_none
  · refine .of_later (fun _ => rfl) Stmt.backfill_backfill ?_
    intro s first
    have hfilled := spansFilled_mapSpans first (.stmt s)
    rw [s.backfill_eq_mapSpans]
    exact hfilled.span?_ne_none

end CodeTree
