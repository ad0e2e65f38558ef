import CodeTree.Proofs.DocComment.Lines

/-!
# At signs in a comment

The at signs of texts are escaped.  Where no name holds an at sign, those without a
backslash are the markers of the tags that have a name.
-/

namespace CodeTree
namespace DocComment

variable {tag : DocTag} {tags : List DocTag} {s : String} {xs ys before : List Char}

/-- In the text an at sign comes behind the given beginning, and no backslash directly
before it. -/
def BareAt (cs before : List Char) : Prop :=
  (∃ after, cs = before ++ '@' :: after) ∧ before.getLast? ≠ some '\\'

/-! ## Where pieces meet -/

theorem not_bareAt_of_not_mem (h : '@' ∉ xs) : ¬ BareAt xs before := by
  rintro ⟨⟨after, rfl⟩, -⟩
  simp at h

theorem bareAt_append (h : xs.getLast? ≠ some '\\' ∨ ys.head? ≠ some '@') :
    BareAt (xs ++ ys) before ↔
      BareAt xs before ∨ ∃ b, before = xs ++ b ∧ BareAt ys b := by
  constructor
  · rintro ⟨⟨after, heq⟩, hlast⟩
    rcases List.append_eq_append_iff.1 heq with ⟨b, rfl, hys⟩ | ⟨b, rfl, hafter⟩
    · refine .inr ⟨b, rfl, ⟨after, hys⟩, ?_⟩
      cases b with
      | nil => simp
      | cons c b => simpa using hlast
    · cases b with
      | nil => exact .inr ⟨[], by simp, ⟨after, by simpa using hafter.symm⟩, by simp⟩
      | cons c b =>
          obtain ⟨rfl, -⟩ := List.cons.inj hafter
          exact .inl ⟨⟨b, rfl⟩, hlast⟩
  · rintro (⟨⟨after, rfl⟩, hlast⟩ | ⟨b, rfl, ⟨after, rfl⟩, hlast⟩)
    · exact ⟨⟨after ++ ys, by simp⟩, hlast⟩
    · refine ⟨⟨after, by simp⟩, ?_⟩
      cases b with
      | nil =>
          -- The at sign is the first character of the second piece.
          have hbackslash : xs.getLast? ≠ some '\\' := h.resolve_right (by simp)
          simpa using hbackslash
      | cons c b => simpa using hlast

theorem not_bareAt_append (h : ys.head? ≠ some '@') (hxs : ∀ b, ¬ BareAt xs b)
    (hys : ∀ b, ¬ BareAt ys b) : ¬ BareAt (xs ++ ys) before := by
  rw [bareAt_append (.inr h)]
  rintro (hfirst | ⟨b, -, hsecond⟩)
  · exact hxs before hfirst
  · exact hys b hsecond

theorem bareAt_append_at (hlast : xs.getLast? ≠ some '\\') (hxs : ∀ b, ¬ BareAt xs b)
    (hys : ∀ b, ¬ BareAt ys b) : BareAt (xs ++ '@' :: ys) before ↔ before = xs := by
  constructor
  · rw [bareAt_append (.inl hlast)]
    rintro (hfirst | ⟨b, rfl, hsecond⟩)
    · exact absurd hfirst (hxs before)
    · rw [← List.singleton_append, bareAt_append (.inl (by decide))] at hsecond
      rcases hsecond with ⟨⟨after, hb⟩, -⟩ | ⟨b, -, hafter⟩
      · cases b with
        | nil => exact List.append_nil xs
        | cons c b => simp at hb
      · exact absurd hafter (hys b)
  · rintro rfl
    exact ⟨⟨ys, rfl⟩, hlast⟩

/-! ## Names and texts -/

theorem continueLines_append (xs ys : List Char) :
    continueLines (xs ++ ys) = continueLines xs ++ continueLines ys :=
  List.flatMap_append

theorem not_mem_continueLines (h : '@' ∉ xs) : '@' ∉ continueLines xs := by
  rw [continueLines, List.mem_flatMap]
  rintro ⟨c, hc, hat⟩
  split at hat
  · simp at hat
  · exact h (List.mem_singleton.1 hat ▸ hc)

theorem continueLines_escapeAt_cons (c : Char) (cs : List Char) :
    continueLines (escapeAt (c :: cs)) =
      (if c = '@' then ['\\', '@']
        else if c = '\n' then ['\n', ' ', '*', ' '] else [c]) ++
        continueLines (escapeAt cs) := by
  rw [escapeAt_cons, continueLines_append]
  by_cases hat : c = '@'
  · rw [if_pos hat, if_pos hat]
    rfl
  · rw [if_neg hat, if_neg hat, continueLines, List.flatMap_singleton]

theorem head?_continueLines_escapeAt (cs : List Char) :
    (continueLines (escapeAt cs)).head? ≠ some '@' := by
  cases cs with
  | nil => simp [escapeAt, continueLines]
  | cons c cs =>
      rw [continueLines_escapeAt_cons]
      by_cases hat : c = '@'
      · simp [hat]
      · by_cases hbreak : c = '\n' <;> simp [hat, hbreak]

theorem not_bareAt_continueLines_escapeAt (cs : List Char) :
    ¬ BareAt (continueLines (escapeAt cs)) before := by
  induction cs generalizing before with
  | nil => exact not_bareAt_of_not_mem (by simp [escapeAt, continueLines])
  | cons c cs ih =>
      rw [continueLines_escapeAt_cons]
      refine not_bareAt_append (head?_continueLines_escapeAt cs) ?_ fun _ => ih
      intro b
      by_cases hat : c = '@'
      · rw [if_pos hat]
        rintro ⟨⟨after, heq⟩, hlast⟩
        cases b with
        | nil => simp at heq
        | cons d b =>
            cases b with
            | nil =>
                obtain ⟨rfl, -⟩ := List.cons.inj heq
                exact hlast rfl
            | cons d' b => simp at heq
      · apply not_bareAt_of_not_mem
        rw [if_neg hat]
        split <;> simp [eq_comm, hat]

/-! ## The whole body -/

theorem not_bareAt_note (note : String) :
    ¬ BareAt
      (continueLines (if note = "" then [] else ' ' :: escapeAt note.toList) ++ ['\n'])
      before := by
  have hbreak : ∀ b, ¬ BareAt ['\n'] b := fun b => not_bareAt_of_not_mem (by decide)
  refine not_bareAt_append (by decide) ?_ hbreak
  intro b
  split
  · exact not_bareAt_of_not_mem (by decide)
  · rw [← List.singleton_append, continueLines_append]
    exact not_bareAt_append (head?_continueLines_escapeAt _)
      (fun _ => not_bareAt_of_not_mem (by decide))
      fun _ => not_bareAt_continueLines_escapeAt _

theorem bareAt_entry (h : '@' ∉ tag.name.toList) :
    BareAt (entry tag) before ↔ tag.name ≠ "" ∧ before = [' ', '*', ' '] := by
  let note :=
    continueLines (if tag.note = "" then [] else ' ' :: escapeAt tag.note.toList) ++
      ['\n']
  have hnote : ∀ b, ¬ BareAt note b := fun b => not_bareAt_note tag.note
  have hhead : note.head? ≠ some '@' := by
    by_cases hempty : tag.note = "" <;> simp [note, hempty, continueLines]
  by_cases hname : tag.name = ""
  · have hentry : entry tag = [' ', '*'] ++ note := by
      simp [entry, form, hname, note]
    have hnone : ¬ BareAt ([' ', '*'] ++ note) before :=
      not_bareAt_append hhead (fun _ => not_bareAt_of_not_mem (by decide)) hnote
    rw [hentry]
    exact iff_of_false hnone fun hmarked => hmarked.1 hname
  · have hentry : entry tag =
        [' ', '*', ' '] ++ '@' :: (continueLines tag.name.toList ++ note) := by
      have hmarker : continueLines (' ' :: '@' :: tag.name.toList) =
          ' ' :: '@' :: continueLines tag.name.toList := rfl
      rw [entry, form, if_neg hname, continueLines_append, hmarker]
      simp [note]
    have hrest : ∀ b, ¬ BareAt (continueLines tag.name.toList ++ note) b := fun b =>
      not_bareAt_append hhead (fun _ => not_bareAt_of_not_mem (not_mem_continueLines h))
        hnote
    rw [hentry, bareAt_append_at (by decide)
      (fun _ => not_bareAt_of_not_mem (by decide)) hrest]
    simp [hname]

theorem bareAt_entries (h : ∀ tag ∈ tags, '@' ∉ tag.name.toList) :
    BareAt (tags.flatMap entry) before ↔
      ∃ earlier tag later, tags = earlier ++ tag :: later ∧ tag.name ≠ "" ∧
        before = earlier.flatMap entry ++ [' ', '*', ' '] := by
  induction tags generalizing before with
  | nil =>
      have hnone : ¬ BareAt [] before := not_bareAt_of_not_mem (by simp)
      simp [hnone]
  | cons first tags ih =>
      have hlast : (entry first).getLast? ≠ some '\\' := by
        rw [entry, List.getLast?_concat]
        decide
      have htail : ∀ b, BareAt (tags.flatMap entry) b ↔
          ∃ earlier tag later, tags = earlier ++ tag :: later ∧ tag.name ≠ "" ∧
            b = earlier.flatMap entry ++ [' ', '*', ' '] :=
        fun _ => ih fun tag htag => h tag (List.mem_cons_of_mem first htag)
      rw [List.flatMap_cons, bareAt_append (.inl hlast),
        bareAt_entry (h first List.mem_cons_self)]
      constructor
      · rintro (⟨hname, rfl⟩ | ⟨b, rfl, hb⟩)
        · exact ⟨[], first, tags, rfl, hname, rfl⟩
        · obtain ⟨earlier, tag, later, rfl, hname, rfl⟩ := (htail b).1 hb
          exact ⟨first :: earlier, tag, later, rfl, hname, by simp⟩
      · rintro ⟨earlier, tag, later, htags, hname, rfl⟩
        cases earlier with
        | nil =>
            obtain ⟨rfl, -⟩ := List.cons.inj htags
            exact .inl ⟨hname, rfl⟩
        | cons other earlier =>
            obtain ⟨rfl, rfl⟩ := List.cons.inj htags
            exact .inr ⟨_, by simp, (htail _).2 ⟨earlier, tag, later, rfl, hname, rfl⟩⟩

theorem bareAt_body (hne : tags ≠ []) (h : body tags = .ok s)
    (hnames : ∀ tag ∈ tags, '@' ∉ tag.name.toList) :
    BareAt s.toList before ↔
      ∃ earlier tag later, tags = earlier ++ tag :: later ∧ tag.name ≠ "" ∧
        before = ['*', '\n'] ++ earlier.flatMap entry ++ [' ', '*', ' '] := by
  have hopening : ∀ b, ¬ BareAt ['*', '\n'] b :=
    fun _ => not_bareAt_of_not_mem (by decide)
  have hclosing : ∀ b, ¬ BareAt [' '] b := fun _ => not_bareAt_of_not_mem (by decide)
  rw [toList_body hne h, bareAt_append (.inr (by decide)),
    bareAt_append (.inl (by decide))]
  simp only [hopening, hclosing, false_or, and_false, exists_false, or_false,
    bareAt_entries hnames]
  constructor
  · rintro ⟨b, rfl, earlier, tag, later, htags, hname, rfl⟩
    exact ⟨earlier, tag, later, htags, hname, rfl⟩
  · rintro ⟨earlier, tag, later, htags, hname, rfl⟩
    exact ⟨_, List.append_assoc .., earlier, tag, later, htags, hname, rfl⟩

theorem eq_of_flatMap_entry_eq {earlier others : List DocTag}
    (hbegins : earlier <+: others)
    (h : earlier.flatMap entry = others.flatMap entry) : earlier = others := by
  obtain ⟨more, rfl⟩ := hbegins
  have hnothing : more.flatMap entry = [] := by simpa using h.symm
  cases more with
  | nil => exact (List.append_nil earlier).symm
  | cons tag more => simp [entry] at hnothing

theorem earlier_unique {earlier earlier' later later' : List DocTag}
    (htags : tags = earlier ++ later) (htags' : tags = earlier' ++ later')
    (h : earlier.flatMap entry = earlier'.flatMap entry) : earlier = earlier' := by
  have hbegins : earlier <+: tags := ⟨later, htags.symm⟩
  have hbegins' : earlier' <+: tags := ⟨later', htags'.symm⟩
  rcases List.prefix_or_prefix_of_prefix hbegins hbegins' with hle | hle
  · exact eq_of_flatMap_entry_eq hle h
  · exact (eq_of_flatMap_entry_eq hle h.symm).symm

/-- Between a star and a space the lines of a body spell its tags one after the other.
With no at sign in a name, each at sign that is not behind a backslash is the marker of
exactly one tag with a name, and each such tag has one. -/
theorem body_line_by_line (hne : tags ≠ []) (h : body tags = .ok s) :
    s.toList.splitOn '\n' = ['*'] :: tags.flatMap tagLines ++ [[' ']] ∧
    (∀ tag ∈ tags, Spells (tagLines tag) tag) ∧
    ((∀ tag ∈ tags, '@' ∉ tag.name.toList) → ∀ before, BareAt s.toList before ↔
      ∃! earlier, ∃ tag later, tags = earlier ++ tag :: later ∧ tag.name ≠ "" ∧
        before = ['*', '\n'] ++ earlier.flatMap entry ++ [' ', '*', ' ']) := by
  refine ⟨splitOn_body hne h, fun tag _ => spells_tagLines tag, ?_⟩
  intro hnames before
  rw [bareAt_body hne h hnames]
  constructor
  · rintro ⟨earlier, tag, later, htags, hname, hbefore⟩
    refine ⟨earlier, ⟨tag, later, htags, hname, hbefore⟩, ?_⟩
    rintro earlier' ⟨tag', later', htags', -, hbefore'⟩
    refine earlier_unique htags' htags ?_
    simpa using hbefore'.symm.trans hbefore
  · rintro ⟨earlier, hmarked, -⟩
    exact ⟨earlier, hmarked⟩

/-- Line breaks at the ends of a text and in a name, a backslash before an at sign, and
a tag with nothing in it.  Only the first tag and the last one have a marker. -/
theorem body_of_brokenTags :
    let tags : List DocTag :=
      [.named "a\nb" (some "\\@x\n\n"), .text "", .named "" (some "@"), .named "n" none]
    let s := "*\n * @a\n * b \\\\@x\n * \n * \n *\n * \\@\n * @n\n "
    let IsMarker (before : List Char) : Prop :=
      ∃! earlier, ∃ tag later, tags = earlier ++ tag :: later ∧ tag.name ≠ "" ∧
        before = ['*', '\n'] ++ earlier.flatMap entry ++ [' ', '*', ' ']
    tags ≠ [] ∧ body tags = .ok s ∧ (∀ tag ∈ tags, '@' ∉ tag.name.toList) ∧
      s.toList.splitOn '\n' = ["*", " * @a", " * b \\\\@x", " * ", " * ", " *",
        " * \\@", " * @n", " "].map String.toList ∧
      (∀ tag ∈ tags, Spells (tagLines tag) tag) ∧
      (IsMarker "*\n * ".toList ∧
        IsMarker "*\n * @a\n * b \\\\@x\n * \n * \n *\n * \\@\n * ".toList ∧
        ¬ IsMarker "*\n * @a\n * b \\\\".toList) := by
  intro tags s IsMarker
  have hne : tags ≠ [] := by simp [tags]
  have hbody : body tags = .ok s := by rfl
  have hnames : ∀ tag ∈ tags, '@' ∉ tag.name.toList := by decide
  obtain ⟨hlines, hspells, hmarkers⟩ := body_line_by_line hne hbody
  have hbare : ∀ before, BareAt s.toList before ↔ IsMarker before := hmarkers hnames
  refine ⟨hne, hbody, hnames, ?_, hspells, ?first, ?last, ?escaped⟩
  · rw [hlines]
    rfl
  case first => exact (hbare _).1 ⟨⟨s.toList.drop 6, by decide⟩, by decide⟩
  case last => exact (hbare _).1 ⟨⟨"n\n ".toList, by decide⟩, by decide⟩
  case escaped =>
    intro hmarker
    exact ((hbare _).2 hmarker).2 (by decide)

end DocComment
end CodeTree
