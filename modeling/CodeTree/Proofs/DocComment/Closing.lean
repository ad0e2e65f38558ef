import CodeTree.DocComment
import Mathlib.Data.List.Infix

/-!
# What closes a comment

No two pieces of a body make a `*/` where they meet, and a text that holds one is
refused.  A name is written as it is, so only a name can end a comment too early.
-/

namespace CodeTree

def DocTag.name : DocTag → String
  | .text _ => ""
  | .named name _ => name

namespace DocComment

/-- The mark that ends a comment stands somewhere in the text. -/
def Closes (cs : List Char) : Prop :=
  ['*', '/'] <:+: cs

instance (cs : List Char) : Decidable (Closes cs) :=
  inferInstanceAs (Decidable (['*', '/'] <:+: cs))

/-! ## Pairs of characters -/

theorem pair_infix_cons_iff {a b c : Char} {cs : List Char} :
    [a, b] <:+: c :: cs ↔ (c = a ∧ cs.head? = some b) ∨ [a, b] <:+: cs := by
  have hprefix : [a, b] <+: c :: cs ↔ c = a ∧ cs.head? = some b := by
    cases cs <;> simp [List.cons_prefix_cons, eq_comm]
  rw [List.infix_cons_iff, hprefix]

theorem closes_cons {c : Char} {cs : List Char} :
    Closes (c :: cs) ↔ (c = '*' ∧ cs.head? = some '/') ∨ Closes cs :=
  pair_infix_cons_iff

theorem closes_cons_of_ne {c : Char} {cs : List Char} (hc : c ≠ '*') :
    Closes (c :: cs) ↔ Closes cs := by
  simp [closes_cons, hc]

theorem closes_star_cons {cs : List Char} (hcs : cs.head? ≠ some '/') :
    Closes ('*' :: cs) ↔ Closes cs := by
  simp [closes_cons, hcs]

@[simp] theorem not_closes_nil : ¬ Closes [] := by
  decide

theorem hasDelimiter_iff {cs : List Char} :
    hasDelimiter cs = true ↔ ['/', '*'] <:+: cs ∨ Closes cs := by
  fun_induction hasDelimiter cs with
  | case1 cs => simp [pair_infix_cons_iff]
  | case2 cs => simp [closes_cons]
  | case3 c cs hopen hclose ih =>
      have hopens : ¬ (c = '/' ∧ cs.head? = some '*') := by
        rintro ⟨rfl, hstar⟩
        exact hopen cs.tail rfl (List.cons_head?_tail hstar).symm
      have hcloses : ¬ (c = '*' ∧ cs.head? = some '/') := by
        rintro ⟨rfl, hslash⟩
        exact hclose cs.tail rfl (List.cons_head?_tail hslash).symm
      rw [ih, pair_infix_cons_iff, closes_cons, or_iff_right hopens, or_iff_right hcloses]
  | case4 => simp

/-- No mark comes about where two texts meet, unless the second begins with a slash. -/
theorem closes_append {xs ys : List Char} (hys : ys.head? ≠ some '/') :
    Closes (xs ++ ys) ↔ Closes xs ∨ Closes ys := by
  induction xs with
  | nil => simp
  | cons x xs ih =>
      have hhead : (xs ++ ys).head? = some '/' ↔ xs.head? = some '/' := by
        cases xs <;> simp [hys]
      rw [List.cons_append, closes_cons, closes_cons, ih, hhead, or_assoc]

section Replace

variable {old : Char} {new : List Char}

theorem head?_replace_iff (hslash : old ≠ '/')
    (hhead : ∀ cs, (new ++ cs).head? ≠ some '/') (cs : List Char) :
    (cs.flatMap fun c => if c = old then new else [c]).head? = some '/' ↔
      cs.head? = some '/' := by
  cases cs with
  | nil => simp
  | cons c cs =>
      rw [List.flatMap_cons]
      by_cases hc : c = old
      · rw [if_pos hc, iff_false_left (hhead _)]
        simp [hc, hslash]
      · rw [if_neg hc]
        simp

/-- A character that is neither half of the mark may give way to a piece in which no
mark begins or ends. -/
theorem closes_replace_iff (hstar : old ≠ '*') (hslash : old ≠ '/')
    (hhead : ∀ cs, (new ++ cs).head? ≠ some '/')
    (hnew : ∀ cs, Closes (new ++ cs) ↔ Closes cs)
    (cs : List Char) : Closes (cs.flatMap fun c => if c = old then new else [c]) ↔
      Closes cs := by
  induction cs with
  | nil => simp
  | cons c cs ih =>
      rw [List.flatMap_cons]
      by_cases hc : c = old
      · rw [if_pos hc, hnew, ih, closes_cons, hc]
        simp [hstar]
      · rw [if_neg hc, List.singleton_append, closes_cons, closes_cons, ih,
          head?_replace_iff hslash hhead]

end Replace

/-! ## The parts of a body -/

theorem closes_escapeAt (cs : List Char) : Closes (escapeAt cs) ↔ Closes cs :=
  closes_replace_iff (by decide) (by decide) (by simp) (by simp [closes_cons]) cs

theorem closes_continueLines (cs : List Char) : Closes (continueLines cs) ↔ Closes cs :=
  closes_replace_iff (by decide) (by decide) (by simp) (by simp [closes_cons]) cs

theorem head?_continueLines_iff (cs : List Char) :
    (continueLines cs).head? = some '/' ↔ cs.head? = some '/' :=
  head?_replace_iff (by decide) (by simp) cs

theorem closes_written (cs : List Char) : Closes (written cs) ↔ Closes cs := by
  cases cs with
  | nil => rfl
  | cons c cs => simp [written, closes_cons, closes_escapeAt]

theorem head?_written (cs : List Char) : (written cs).head? ≠ some '/' := by
  cases cs <;> simp [written]

theorem closes_marker (tag : DocTag) : Closes tag.marker ↔ Closes tag.name.toList := by
  cases tag with
  | text note => simp [DocTag.marker, DocTag.name]
  | named name note =>
      rw [DocTag.marker, DocTag.name]
      cases name.toList with
      | nil => rfl
      | cons c cs => simp [closes_cons]

theorem head?_marker (tag : DocTag) : tag.marker.head? ≠ some '/' := by
  cases tag with
  | text note => simp [DocTag.marker]
  | named name note =>
      rw [DocTag.marker]
      cases name.toList <;> simp

theorem tagText_eq_ok_iff {tag : DocTag} {text : List Char} :
    tagText tag = .ok text ↔
      hasDelimiter tag.note.toList = false ∧
        text = tag.marker ++ written tag.note.toList := by
  cases hnote : hasDelimiter tag.note.toList <;> simp [tagText, hnote, eq_comm]

theorem lines_cons_eq_ok_iff {tag : DocTag} {tags : List DocTag} {text : List Char} :
    lines (tag :: tags) = .ok text ↔
      ∃ first rest, tagText tag = .ok first ∧ lines tags = .ok rest ∧
        text = [' ', '*'] ++ continueLines first ++ '\n' :: rest := by
  rw [lines]
  cases tagText tag <;> cases lines tags <;>
    simp [bind, Except.bind, pure, Except.pure, eq_comm]

theorem body_eq_ok_iff {tags : List DocTag} {s : String} :
    body tags = .ok s ↔
      (tags = [] ∧ s = "") ∨
        ∃ text, tags ≠ [] ∧ lines tags = .ok text ∧
          s = String.ofList ('*' :: '\n' :: text ++ [' ']) := by
  cases tags with
  | nil => simp [body, eq_comm]
  | cons tag tags =>
      rw [body]
      cases lines (tag :: tags) <;> simp [bind, Except.bind, pure, Except.pure, eq_comm]

/-! ## The whole body -/

theorem closes_of_tagText {tag : DocTag} {text : List Char} (h : tagText tag = .ok text) :
    Closes text ↔ Closes tag.name.toList := by
  obtain ⟨hdelimiter, rfl⟩ := tagText_eq_ok_iff.1 h
  have hnote : ¬ Closes tag.note.toList := by
    intro hcloses
    have hrefused : hasDelimiter tag.note.toList = true :=
      hasDelimiter_iff.2 (.inr hcloses)
    rw [hdelimiter] at hrefused
    cases hrefused
  rw [closes_append (head?_written _), closes_marker, closes_written, or_iff_left hnote]

theorem head?_tagText {tag : DocTag} {text : List Char} (h : tagText tag = .ok text) :
    text.head? ≠ some '/' := by
  obtain ⟨-, rfl⟩ := tagText_eq_ok_iff.1 h
  rw [List.head?_append]
  cases hmarker : tag.marker.head? with
  | none => exact head?_written _
  | some c =>
      intro hslash
      exact head?_marker tag (hmarker.trans hslash)

theorem closes_lines {tags : List DocTag} {text : List Char} (h : lines tags = .ok text) :
    Closes text ↔ ∃ tag ∈ tags, Closes tag.name.toList := by
  induction tags generalizing text with
  | nil =>
      have hnil : [] = text := Except.ok.inj h
      simp [← hnil]
  | cons tag tags ih =>
      obtain ⟨first, rest, hfirst, hrest, rfl⟩ := lines_cons_eq_ok_iff.1 h
      -- The star in front of the tag is followed by the tag or by the end of the line.
      have hhead : (continueLines first ++ '\n' :: rest).head? ≠ some '/' := by
        have htag := mt (head?_continueLines_iff first).1 (head?_tagText hfirst)
        cases hline : continueLines first <;> simp_all
      have hpieces : [' ', '*'] ++ continueLines first ++ '\n' :: rest =
          ' ' :: '*' :: (continueLines first ++ '\n' :: rest) := by
        simp
      rw [hpieces, closes_cons_of_ne (by decide), closes_star_cons hhead,
        closes_append (by simp), closes_continueLines, closes_of_tagText hfirst,
        closes_cons_of_ne (by decide), ih hrest]
      simp

theorem closes_body {tags : List DocTag} {s : String} (h : body tags = .ok s) :
    Closes s.toList ↔ ∃ tag ∈ tags, Closes tag.name.toList := by
  obtain ⟨rfl, rfl⟩ | ⟨text, -, hlines, rfl⟩ := body_eq_ok_iff.1 h
  · simp
  · have htext : Closes (text ++ [' ']) ↔ Closes text := by
      rw [closes_append (by simp), closes_cons_of_ne (by decide)]
      simp
    rw [String.toList_ofList, List.cons_append, List.cons_append,
      closes_star_cons (by simp), closes_cons_of_ne (by decide), htext,
      closes_lines hlines]

/-! ## The printed comment -/

/-- The comment with its body between the marks that open and close it. -/
def printed (body : String) : List Char :=
  ['/', '*'] ++ body.toList ++ ['*', '/']

/-- A mark stands in the printed comment before its last two characters. -/
def ClosesEarly (body : String) : Prop :=
  ∃ before rest, rest ≠ [] ∧ printed body = before ++ ['*', '/'] ++ rest

theorem exists_rest_iff_closes {cs : List Char} :
    (∃ before rest, rest ≠ [] ∧ cs ++ ['/'] = before ++ ['*', '/'] ++ rest) ↔
      Closes cs := by
  constructor
  · rintro ⟨before, rest, hrest, heq⟩
    have hdrop : cs = before ++ ['*', '/'] ++ rest.dropLast := by
      rw [← List.dropLast_append_of_ne_nil hrest, ← heq, List.dropLast_concat]
    exact ⟨before, rest.dropLast, hdrop.symm⟩
  · rintro ⟨before, rest, rfl⟩
    exact ⟨before, rest ++ ['/'], by simp, by simp⟩

theorem head?_body {tags : List DocTag} {s : String} (h : body tags = .ok s) :
    s.toList.head? ≠ some '/' := by
  obtain ⟨-, rfl⟩ | ⟨text, -, -, rfl⟩ := body_eq_ok_iff.1 h <;> simp

theorem closesEarly_iff {tags : List DocTag} {s : String} (h : body tags = .ok s) :
    ClosesEarly s ↔ Closes s.toList := by
  have hhead : (s.toList ++ ['*']).head? ≠ some '/' := by
    have hbody := head?_body h
    cases hs : s.toList <;> simp_all
  have hinner : Closes (s.toList ++ ['*']) ↔ Closes s.toList := by
    rw [closes_append (by simp)]
    simp [closes_cons]
  have hprinted : printed s = '/' :: '*' :: (s.toList ++ ['*']) ++ ['/'] := by
    simp [printed]
  rw [ClosesEarly, hprinted, exists_rest_iff_closes, closes_cons_of_ne (by decide),
    closes_star_cons hhead, hinner]

/-- A name is the only thing that brings a closing mark into a body.  Without one in a
name, the first mark in the printed comment is the last thing in it. -/
theorem body_closed_by_names_only {tags : List DocTag} {s : String}
    (h : body tags = .ok s) :
    (Closes s.toList ↔ ∃ tag ∈ tags, Closes tag.name.toList) ∧
      (ClosesEarly s ↔ ∃ tag ∈ tags, Closes tag.name.toList) :=
  ⟨closes_body h, (closesEarly_iff h).trans (closes_body h)⟩

/-- Stars and slashes wherever two pieces of a body meet. -/
def starsAndSlashes : List DocTag :=
  [.named "*" (some "/ *\n/ *@/"), .text "/", .named "/*" none, .named "\n/" (some "*")]

theorem body_starsAndSlashes :
    body starsAndSlashes =
        .ok "*\n * @* / *\n * / *\\@/\n * /\n * @/*\n * @\n * / *\n " ∧
      ¬ ClosesEarly "*\n * @* / *\n * / *\\@/\n * /\n * @/*\n * @\n * / *\n " := by
  have hbody : body starsAndSlashes =
      .ok "*\n * @* / *\n * / *\\@/\n * /\n * @/*\n * @\n * / *\n " := by
    rfl
  refine ⟨hbody, ?_⟩
  rw [(body_closed_by_names_only hbody).2]
  decide

/-- A name is not checked, and it may hold the mark. -/
theorem body_of_closing_name :
    body [.named "*/" none] = .ok "*\n * @*/\n " ∧
      ¬ ∀ tags s, body tags = .ok s → ¬ Closes s.toList := by
  have hbody : body [.named "*/" none] = .ok "*\n * @*/\n " := by rfl
  refine ⟨hbody, ?_⟩
  intro hnever
  apply hnever _ _ hbody
  decide

end DocComment
end CodeTree
