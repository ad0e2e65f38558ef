import CodeTree.Proofs.DocComment.Closing
import CodeTree.Tree.Parts

namespace CodeTree

/-- The text of the tag holds a mark that opens or ends a comment. -/
def DocTag.Refused (tag : DocTag) : Prop :=
  ['/', '*'] <:+: tag.note.toList ∨ DocComment.Closes tag.note.toList

instance (tag : DocTag) : Decidable tag.Refused :=
  inferInstanceAs (Decidable (_ ∨ _))

namespace DocComment

variable {tag other : DocTag} {tags : List DocTag} {error : TreeError}

theorem tagText_of_refused (h : tag.Refused) :
    tagText tag = .error (.delimiterInDocText tag.note) :=
  if_pos (hasDelimiter_iff.2 h)

theorem tagText_of_not_refused (h : ¬ tag.Refused) :
    tagText tag = .ok (tag.marker ++ written tag.note.toList) :=
  if_neg (mt hasDelimiter_iff.1 h)

/-- The tag is refused, and no tag before it is. -/
def FirstRefused (tags : List DocTag) (tag : DocTag) : Prop :=
  ∃ before after, tags = before ++ tag :: after ∧
    (∀ other ∈ before, ¬ other.Refused) ∧ tag.Refused

theorem not_firstRefused_nil : ¬ FirstRefused [] tag := by
  rintro ⟨before, after, htags, -⟩
  cases before <;> cases htags

theorem firstRefused_cons_of_refused (h : other.Refused) :
    FirstRefused (other :: tags) tag ↔ tag = other := by
  constructor
  · rintro ⟨before, after, htags, hbefore, -⟩
    cases before with
    | nil => exact (List.cons.inj htags).1.symm
    | cons first before =>
        obtain ⟨rfl, -⟩ := List.cons.inj htags
        exact absurd h (hbefore other List.mem_cons_self)
  · rintro rfl
    exact ⟨[], tags, rfl, by simp, h⟩

theorem firstRefused_cons_of_not_refused (h : ¬ other.Refused) :
    FirstRefused (other :: tags) tag ↔ FirstRefused tags tag := by
  constructor
  · rintro ⟨before, after, htags, hbefore, hrefused⟩
    cases before with
    | nil =>
        obtain ⟨rfl, -⟩ := List.cons.inj htags
        exact absurd hrefused h
    | cons first before =>
        obtain ⟨-, hrest⟩ := List.cons.inj htags
        exact ⟨before, after, hrest,
          fun t ht => hbefore t (List.mem_cons_of_mem first ht), hrefused⟩
  · rintro ⟨before, after, rfl, hbefore, hrefused⟩
    refine ⟨other :: before, after, rfl, ?_, hrefused⟩
    intro t ht
    rcases List.mem_cons.1 ht with rfl | hmem
    · exact h
    · exact hbefore t hmem

theorem exists_firstRefused_iff :
    (∃ tag, FirstRefused tags tag) ↔ ∃ tag ∈ tags, tag.Refused := by
  induction tags with
  | nil => simp [not_firstRefused_nil]
  | cons other tags ih =>
      by_cases h : other.Refused
      · simp [firstRefused_cons_of_refused h, h]
      · simp [firstRefused_cons_of_not_refused h, h, ih]

theorem lines_eq_error_iff :
    lines tags = .error error ↔
      ∃ tag, FirstRefused tags tag ∧ error = .delimiterInDocText tag.note := by
  induction tags with
  | nil => simp [lines, not_firstRefused_nil]
  | cons other tags ih =>
      rw [lines]
      by_cases h : other.Refused
      · simp [tagText_of_refused h, firstRefused_cons_of_refused h, bind,
          Except.bind, eq_comm]
      · rw [tagText_of_not_refused h]
        simp only [firstRefused_cons_of_not_refused h, ← ih]
        cases lines tags <;> simp [bind, Except.bind, pure, Except.pure]

theorem body_eq_error_iff : body tags = .error error ↔ lines tags = .error error := by
  cases tags with
  | nil => simp [body, lines]
  | cons tag tags =>
      rw [body]
      cases lines (tag :: tags) <;> simp [bind, Except.bind, pure, Except.pure]

/-- There is no body exactly when the text of some tag is refused.  The error is then
about the first such text, also where it is the comment as a statement that is asked for
its body. -/
theorem body_refused_for_first (tags : List DocTag) :
    ((∃ error, body tags = .error error) ↔ ∃ tag ∈ tags, tag.Refused) ∧
    (∀ error, body tags = .error error ↔
      ∃ tag, FirstRefused tags tag ∧ error = .delimiterInDocText tag.note) ∧
    ∀ span, (Stmt.docComment tags span).docBody? = some (body tags) := by
  have hfirst : ∀ error, body tags = .error error ↔
      ∃ tag, FirstRefused tags tag ∧ error = .delimiterInDocText tag.note :=
    fun _ => body_eq_error_iff.trans lines_eq_error_iff
  refine ⟨?refused, hfirst, fun _ => rfl⟩
  case refused =>
    rw [← exists_firstRefused_iff]
    constructor
    · rintro ⟨error, herror⟩
      obtain ⟨tag, htag, -⟩ := (hfirst error).1 herror
      exact ⟨tag, htag⟩
    · rintro ⟨tag, htag⟩
      exact ⟨_, (hfirst _).2 ⟨tag, htag, rfl⟩⟩

-- The name with a mark is let through, and of the two texts with one the first is
-- named.
example :
    body [.named "*/" none, .named "id" (some "a\n/* @b"), .text "*/"] =
      .error (.delimiterInDocText "a\n/* @b") := by
  rfl

end DocComment
end CodeTree
