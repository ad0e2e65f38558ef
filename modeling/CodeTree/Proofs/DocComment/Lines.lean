import CodeTree.Proofs.DocComment.Closing

namespace CodeTree
namespace DocComment

variable {tag : DocTag} {tags : List DocTag} {s : String}

theorem escapeAt_cons (c : Char) (cs : List Char) :
    escapeAt (c :: cs) = (if c = '@' then ['\\', '@'] else [c]) ++ escapeAt cs :=
  rfl

theorem continueLines_cons (c : Char) (cs : List Char) :
    continueLines (c :: cs) =
      (if c = '\n' then ['\n', ' ', '*', ' '] else [c]) ++ continueLines cs :=
  rfl

/-- A tag as it is to be read.  The name stands behind its marker, and in the text every
at sign stands behind a backslash.  What is empty is left out together with the space
before it. -/
def form (tag : DocTag) : List Char :=
  (if tag.name = "" then [] else ' ' :: '@' :: tag.name.toList) ++
    if tag.note = "" then [] else ' ' :: escapeAt tag.note.toList

def entry (tag : DocTag) : List Char :=
  [' ', '*'] ++ continueLines (form tag) ++ ['\n']

theorem marker_eq (tag : DocTag) :
    tag.marker = if tag.name = "" then [] else ' ' :: '@' :: tag.name.toList := by
  cases tag with
  | text note => rfl
  | named name note =>
      simp only [DocTag.marker, DocTag.name, ← String.toList_eq_nil_iff]
      cases name.toList <;> rfl

theorem written_toList (s : String) :
    written s.toList = if s = "" then [] else ' ' :: escapeAt s.toList := by
  simp only [← String.toList_eq_nil_iff]
  cases s.toList <;> rfl

theorem tagText_eq_form {text : List Char} (h : tagText tag = .ok text) :
    text = form tag := by
  obtain ⟨-, rfl⟩ := tagText_eq_ok_iff.1 h
  rw [marker_eq, written_toList, form]

theorem lines_eq_entries {text : List Char} (h : lines tags = .ok text) :
    text = tags.flatMap entry := by
  induction tags generalizing text with
  | nil => exact (Except.ok.inj h).symm
  | cons tag tags ih =>
      obtain ⟨first, rest, hfirst, hrest, rfl⟩ := lines_cons_eq_ok_iff.1 h
      rw [tagText_eq_form hfirst, ih hrest, List.flatMap_cons, entry, List.append_cons]

theorem toList_body (hne : tags ≠ []) (h : body tags = .ok s) :
    s.toList = ['*', '\n'] ++ tags.flatMap entry ++ [' '] := by
  obtain ⟨rfl, -⟩ | ⟨text, -, hlines, rfl⟩ := body_eq_ok_iff.1 h
  · exact absurd rfl hne
  · rw [String.toList_ofList, lines_eq_entries hlines]
    rfl

/-- Puts one piece in front of the first line and another one in front of all others. -/
def behind (first others : List Char) : List (List Char) → List (List Char)
  | [] => []
  | line :: lines => (first ++ line) :: lines.map (others ++ ·)

theorem behind_modifyHead (first others : List Char) (c : Char) (ls : List (List Char)) :
    behind first others (ls.modifyHead (c :: ·)) = behind (first ++ [c]) others ls := by
  cases ls <;> simp [behind]

theorem behind_same (front : List Char) (ls : List (List Char)) :
    behind front front ls = ls.map (front ++ ·) := by
  cases ls <;> rfl

theorem length_behind (first others : List Char) (ls : List (List Char)) :
    (behind first others ls).length = ls.length := by
  cases ls <;> simp [behind]

theorem splitOn_continueLines {front : List Char} (hfront : '\n' ∉ front)
    (cs : List Char) :
    (front ++ continueLines cs).splitOn '\n' =
      behind front [' ', '*', ' '] (cs.splitOn '\n') := by
  induction cs generalizing front with
  | nil => simp [continueLines, behind, List.splitOn_eq_singleton hfront]
  | cons c cs ih =>
      rw [continueLines_cons, List.splitOn_cons_eq_if_modifyHead]
      by_cases hc : c = '\n'
      · have hrest : ([' ', '*', ' '] ++ continueLines cs).splitOn '\n' =
            (cs.splitOn '\n').map ([' ', '*', ' '] ++ ·) := by
          rw [ih (by decide), behind_same]
        rw [if_pos hc, if_pos (by simpa using hc), List.cons_append,
          List.splitOn_append_cons_self_of_not_mem hfront, hrest, behind, List.append_nil]
      · have hmore : '\n' ∉ front ++ [c] := by simp [hfront, eq_comm, hc]
        rw [if_neg hc, if_neg (by simpa using hc), ← List.append_assoc, ih hmore,
          behind_modifyHead]

def tagLines (tag : DocTag) : List (List Char) :=
  behind [' ', '*'] [' ', '*', ' '] ((form tag).splitOn '\n')

theorem splitOn_entries (tags : List DocTag) (rest : List Char) :
    (tags.flatMap entry ++ rest).splitOn '\n' =
      tags.flatMap tagLines ++ rest.splitOn '\n' := by
  induction tags with
  | nil => rfl
  | cons tag tags ih =>
      have hentry : (tag :: tags).flatMap entry ++ rest =
          [' ', '*'] ++ continueLines (form tag) ++
            '\n' :: (tags.flatMap entry ++ rest) := by
        simp [entry]
      rw [hentry, List.splitOn_append_cons_self, splitOn_continueLines (by decide), ih,
        List.flatMap_cons, List.append_assoc]
      rfl

theorem splitOn_body (hne : tags ≠ []) (h : body tags = .ok s) :
    s.toList.splitOn '\n' = ['*'] :: tags.flatMap tagLines ++ [[' ']] := by
  have hbody : s.toList = ['*'] ++ '\n' :: (tags.flatMap entry ++ [' ']) := by
    rw [toList_body hne h]
    rfl
  rw [hbody, List.splitOn_append_cons_self_of_not_mem (by decide), splitOn_entries,
    List.splitOn_eq_singleton (by decide)]
  rfl

theorem length_splitOn (cs : List Char) :
    (cs.splitOn '\n').length = cs.count '\n' + 1 := by
  induction cs with
  | nil => rfl
  | cons c cs ih =>
      rw [List.splitOn_cons_eq_if_modifyHead, List.count_cons]
      split <;> simp [ih]

theorem count_escapeAt (cs : List Char) : (escapeAt cs).count '\n' = cs.count '\n' := by
  induction cs with
  | nil => rfl
  | cons c cs ih =>
      rw [escapeAt_cons, List.count_append, ih, List.count_cons]
      by_cases hc : c = '@'
      · simp [hc]
      · rw [if_neg hc, List.count_singleton, Nat.add_comm]

theorem count_form (tag : DocTag) :
    (form tag).count '\n' = tag.name.toList.count '\n' + tag.note.toList.count '\n' := by
  rw [form, List.count_append]
  congr 1
  · split
    · next hname => simp [hname]
    · simp
  · split
    · next hnote => simp [hnote]
    · simp [count_escapeAt]

/-- The lines are what is written for the tag.  There is one, and one more for every
line break in the tag, each of them begins with a star, and without their prefixes they
make up the tag. -/
structure Spells (ls : List (List Char)) (tag : DocTag) : Prop where
  length_eq : ls.length = 1 + tag.name.toList.count '\n' + tag.note.toList.count '\n'
  starred : ∀ line ∈ ls, [' ', '*'] <+: line
  rejoined : ∃ first others,
    ls = ([' ', '*'] ++ first) :: others.map ([' ', '*', ' '] ++ ·) ∧
    ['\n'].intercalate (first :: others) = form tag

theorem spells_tagLines (tag : DocTag) : Spells (tagLines tag) tag := by
  obtain ⟨first, others, hlines⟩ :=
    List.exists_cons_of_ne_nil (List.splitOn_ne_nil '\n' (form tag))
  have htag : tagLines tag =
      ([' ', '*'] ++ first) :: others.map ([' ', '*', ' '] ++ ·) := by
    rw [tagLines, hlines, behind]
  refine ⟨?length_eq, ?starred, first, others, htag, ?rejoined⟩
  case length_eq =>
    rw [tagLines, length_behind, length_splitOn, count_form]
    omega
  case starred =>
    intro line hline
    rw [htag, List.mem_cons, List.mem_map] at hline
    rcases hline with rfl | ⟨other, -, rfl⟩
    · exact ⟨first, rfl⟩
    · exact ⟨' ' :: other, rfl⟩
  case rejoined => rw [← hlines, List.intercalate_splitOn]

end DocComment
end CodeTree
