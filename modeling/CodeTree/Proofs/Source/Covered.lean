import CodeTree.Source
import Mathlib.Data.String.Basic

/-!
# The text that a span covers

A span covers a text when the content of its file is some text, the covered one and a
rest, with as many bytes before and after the covered one as the two offsets say.
-/

namespace CodeTree

namespace Text

variable {lo hi n : Nat} {cs before middle after : List Char}

theorem cutAt?_of_fits {c : Char} (h : c.utf8Size ≤ n) :
    cutAt? n (c :: cs) =
      (cutAt? (n - c.utf8Size) cs).map fun cut => (c :: cut.1, cut.2) := by
  have hpos : 0 < c.utf8Size := Char.utf8Size_pos c
  cases n with
  | zero => omega
  | succ n =>
      rw [cutAt?, if_pos h]
      cases cutAt? (n + 1 - c.utf8Size) cs <;> rfl

theorem cutAt?_eq_some_iff :
    cutAt? n cs = some (before, after) ↔
      cs = before ++ after ∧ String.utf8Len before = n := by
  constructor
  · intro h
    fun_induction cutAt? n cs generalizing before after with
    | case1 cs =>
        cases h
        exact ⟨rfl, rfl⟩
    | case2 => cases h
    | case3 n c cs hfits front back hcut ih =>
        cases h
        obtain ⟨hcs, hlen⟩ := ih hcut
        constructor
        · rw [hcs, List.cons_append]
        · rw [String.utf8Len_cons, hlen]
          omega
    | case4 => cases h
    | case5 => cases h
  · rintro ⟨rfl, rfl⟩
    induction before with
    | nil => simp [cutAt?]
    | cons c before ih =>
        have hfits : c.utf8Size ≤ String.utf8Len (c :: before) := by
          rw [String.utf8Len_cons]
          omega
        have hrest : String.utf8Len (c :: before) - c.utf8Size =
            String.utf8Len before := by
          rw [String.utf8Len_cons]
          omega
        rw [List.cons_append, cutAt?_of_fits hfits, hrest, ih]
        rfl

theorem slice?_eq_some_iff :
    slice? lo hi cs = some middle ↔ ∃ before after, cs = before ++ middle ++ after ∧
      String.utf8Len before = lo ∧ String.utf8Len (before ++ middle) = hi := by
  unfold slice?
  constructor
  · intro h
    split at h
    · next hle =>
        split at h
        · next front rest hfront =>
            split at h
            · next mid back hback =>
                cases h
                obtain ⟨hcs, hlo⟩ := cutAt?_eq_some_iff.1 hfront
                obtain ⟨hrest, hhi⟩ := cutAt?_eq_some_iff.1 hback
                refine ⟨front, back, ?_, hlo, ?_⟩
                · rw [hcs, hrest, List.append_assoc]
                · rw [String.utf8Len_append, hlo, hhi]
                  omega
            · cases h
        · cases h
    · cases h
  · rintro ⟨before, after, hcs, hlo, hhi⟩
    rw [String.utf8Len_append] at hhi
    have hle : lo ≤ hi := by omega
    have hfront : cutAt? lo cs = some (before, middle ++ after) := by
      rw [cutAt?_eq_some_iff, hcs, List.append_assoc]
      exact ⟨rfl, hlo⟩
    have hback : cutAt? (hi - lo) (middle ++ after) = some (middle, after) := by
      rw [cutAt?_eq_some_iff]
      exact ⟨rfl, by omega⟩
    rw [if_pos hle, hfront]
    simp only [hback]

/-! ## Texts between two offsets -/

variable {content text other : String} {p p' q q' : String}

/-- From one byte offset to another the content reads as the text. -/
def Between (content : String) (lo hi : Nat) (text : String) : Prop :=
  ∃ before after, content = before ++ text ++ after ∧ before.utf8ByteSize = lo ∧
    (before ++ text).utf8ByteSize = hi

theorem between_iff :
    Between content lo hi text ↔ slice? lo hi content.toList = some text.toList := by
  rw [slice?_eq_some_iff]
  constructor
  · rintro ⟨before, after, hcontent, hlo, hhi⟩
    refine ⟨before.toList, after.toList, ?_, ?_, ?_⟩
    · rw [hcontent, String.toList_append, String.toList_append]
    · rw [String.utf8Len_toList, hlo]
    · rw [← String.toList_append, String.utf8Len_toList, hhi]
  · rintro ⟨before, after, hcontent, hlo, hhi⟩
    refine ⟨String.ofList before, String.ofList after, ?_, ?_, ?_⟩
    · rw [← String.toList_inj, hcontent]
      simp
    · rw [String.utf8ByteSize_ofList, hlo]
    · rw [← hhi, ← String.utf8Len_toList]
      simp

theorem append_inj_of_size_eq (h : p ++ q = p' ++ q')
    (hsize : p.utf8ByteSize = p'.utf8ByteSize) : p = p' ∧ q = q' := by
  have hcut : ∀ r r' : String,
      cutAt? r.utf8ByteSize (r ++ r').toList = some (r.toList, r'.toList) := by
    intro r r'
    rw [cutAt?_eq_some_iff, String.toList_append, String.utf8Len_toList]
    exact ⟨rfl, rfl⟩
  have hboth := hcut p q
  rw [h, hsize, hcut p' q'] at hboth
  simp only [Option.some.injEq, Prod.mk.injEq, String.toList_inj] at hboth
  exact ⟨hboth.1.symm, hboth.2.symm⟩

theorem Between.append {mid : Nat} (h : Between content lo mid text)
    (h' : Between content mid hi other) : Between content lo hi (text ++ other) := by
  obtain ⟨before, after, hcontent, hlo, hmid⟩ := h
  obtain ⟨before', after', hcontent', hmid', hhi⟩ := h'
  have hsame : (before ++ text) ++ after = before' ++ (other ++ after') := by
    rw [← hcontent, hcontent', String.append_assoc]
  obtain ⟨hbefore, hafter⟩ := append_inj_of_size_eq hsame (hmid.trans hmid'.symm)
  refine ⟨before, after', ?_, hlo, ?_⟩
  · rw [hcontent, hafter]
    simp only [String.append_assoc]
  · rw [← String.append_assoc, hbefore, hhi]

/-- The offset falls between two characters, or on an end of the content. -/
def Boundary (content : String) (n : Nat) : Prop :=
  String.Pos.Raw.IsValid content ⟨n⟩

instance : Decidable (Boundary content n) :=
  inferInstanceAs (Decidable (String.Pos.Raw.IsValid content ⟨n⟩))

theorem boundary_iff :
    Boundary content n ↔ ∃ p q, content = p ++ q ∧ p.utf8ByteSize = n := by
  unfold Boundary
  rw [String.Pos.Raw.isValid_iff_exists_append]
  constructor
  · rintro ⟨p, q, hcontent, hpos⟩
    exact ⟨p, q, hcontent, (congrArg String.Pos.Raw.byteIdx hpos).symm⟩
  · rintro ⟨p, q, hcontent, hsize⟩
    exact ⟨p, q, hcontent, String.Pos.Raw.ext hsize.symm⟩

theorem exists_append_of_size_le (h : p ++ q = p' ++ q')
    (hle : p.utf8ByteSize ≤ p'.utf8ByteSize) : ∃ text, p' = p ++ text := by
  have hlist : p.toList ++ q.toList = p'.toList ++ q'.toList := by
    rw [← String.toList_append, h, String.toList_append]
  rcases List.append_eq_append_iff.1 hlist with ⟨more, hp', -⟩ | ⟨more, hp, -⟩
  · refine ⟨String.ofList more, String.toList_inj.1 ?_⟩
    simp [hp']
  · have hsize := congrArg String.utf8Len hp
    rw [String.utf8Len_append, String.utf8Len_toList, String.utf8Len_toList] at hsize
    have hnone : more = [] := String.utf8Len_eq_zero.1 (by omega)
    refine ⟨"", String.toList_inj.1 ?_⟩
    simp [hp, hnone]

theorem exists_between_iff :
    (∃ text, Between content lo hi text) ↔
      lo ≤ hi ∧ Boundary content lo ∧ Boundary content hi := by
  rw [boundary_iff, boundary_iff]
  constructor
  · rintro ⟨text, before, after, hcontent, hlo, hhi⟩
    refine ⟨?_, ⟨before, text ++ after, ?_, hlo⟩, ⟨before ++ text, after, hcontent, hhi⟩⟩
    · rw [String.utf8ByteSize_append] at hhi
      omega
    · rw [hcontent, String.append_assoc]
  · rintro ⟨hle, ⟨p, q, hp, hlo⟩, ⟨p', q', hp', hhi⟩⟩
    have hsame : p ++ q = p' ++ q' := hp.symm.trans hp'
    obtain ⟨text, rfl⟩ := exists_append_of_size_le hsame (by omega)
    exact ⟨text, p, q', hp', hlo, hhi⟩

end Text

namespace Span

/-! ## What a span covers -/

/-- The span covers the text in the file of its start. -/
def Covers (s : Span) (text : String) : Prop :=
  Text.Between s.start.file.content s.start.offset.toNat s.stop.offset.toNat text

/-- The span lies between two offsets of a file with the content. -/
structure LiesIn (s : Span) (content : String) (lo hi : UInt64) : Prop where
  content_eq : s.start.file.content = content
  start_eq : s.start.offset = lo
  stop_eq : s.stop.offset = hi

theorem text_of_covers {s : Span} {text : String} (h : s.Covers text) :
    s.text = text := by
  unfold Span.text
  rw [Text.between_iff.1 h]
  exact String.ofList_toList

theorem text_of_not_covers {s : Span} (h : ¬ ∃ text, s.Covers text) : s.text = "" := by
  unfold Span.text
  split
  · next cs hcs =>
      have hcovers : s.Covers (String.ofList cs) := by
        rw [Covers, Text.between_iff, String.toList_ofList, hcs]
      exact absurd ⟨_, hcovers⟩ h
  · rfl

theorem LiesIn.between {s : Span} {content text : String} {lo hi : UInt64}
    (h : s.LiesIn content lo hi) (htext : Text.Between content lo.toNat hi.toNat text) :
    s.text = text := by
  obtain ⟨rfl, rfl, rfl⟩ := h
  exact text_of_covers htext

/-- The text of a span is the text that it covers, and it is empty where the span covers
none: where an offset is no boundary of the content or the offsets are reversed.
Neighbouring texts make up the text of both. -/
theorem text_is_what_is_covered :
    (∀ (s : Span) (text : String), s.Covers text → s.text = text ∧ s.display = text) ∧
    (∀ s : Span, (¬ ∃ text, s.Covers text) → s.text = "" ∧ s.display = "") ∧
    (∀ s : Span, (∃ text, s.Covers text) ↔ s.start.offset ≤ s.stop.offset ∧
      Text.Boundary s.start.file.content s.start.offset.toNat ∧
      Text.Boundary s.start.file.content s.stop.offset.toNat) ∧
    ∀ (content : String) (a b c : UInt64), a ≤ b → b ≤ c → Text.Boundary content a.toNat →
      Text.Boundary content b.toNat → Text.Boundary content c.toNat →
      ∀ first second whole : Span, first.LiesIn content a b → second.LiesIn content b c →
        whole.LiesIn content a c → first.text ++ second.text = whole.text := by
  refine ⟨?covered, ?uncovered, ?exact, ?neighbours⟩
  case covered =>
    intro s text h
    exact ⟨text_of_covers h, text_of_covers h⟩
  case uncovered =>
    intro s h
    exact ⟨text_of_not_covers h, text_of_not_covers h⟩
  case exact =>
    intro s
    rw [UInt64.le_iff_toNat_le]
    exact Text.exists_between_iff
  case neighbours =>
    intro content a b c hab hbc ha hb hc first second whole hfirst hsecond hwhole
    obtain ⟨text, htext⟩ :=
      Text.exists_between_iff.2 ⟨UInt64.le_iff_toNat_le.1 hab, ha, hb⟩
    obtain ⟨other, hother⟩ :=
      Text.exists_between_iff.2 ⟨UInt64.le_iff_toNat_le.1 hbc, hb, hc⟩
    rw [hfirst.between htext, hsecond.between hother,
      hwhole.between (htext.append hother)]

/-- Characters of one to four bytes: an offset inside the second one, reversed offsets
and an offset past the end cover nothing. -/
theorem text_is_what_is_covered_multibyte :
    let file : SourceFile := { content := "aé€😀", url := "" }
    let span (lo hi : UInt64) : Span :=
      { start := { file, offset := lo, line := 0, col := 0 }
        stop := { file, offset := hi, line := 0, col := 0 }
        details := none }
    (span 1 6).Covers "é€" ∧ (span 1 6).text = "é€" ∧
      (¬ ∃ text, (span 2 6).Covers text) ∧ (span 2 6).text = "" ∧
      (¬ ∃ text, (span 6 1).Covers text) ∧ (span 6 1).text = "" ∧
      (¬ ∃ text, (span 6 0xffffffffffffffff).Covers text) ∧
        (span 6 0xffffffffffffffff).text = "" ∧
      (span 1 3).text ++ (span 3 10).text = (span 1 10).text := by
  intro file span
  obtain ⟨hcovered, huncovered, hexact, hneighbours⟩ := text_is_what_is_covered
  have hcovers : (span 1 6).Covers "é€" := ⟨"a", "😀", by decide, by decide, by decide⟩
  have hinside : ¬ ∃ text, (span 2 6).Covers text := by
    rw [hexact]
    decide
  have hreversed : ¬ ∃ text, (span 6 1).Covers text := by
    rw [hexact]
    decide
  have hbeyond : ¬ ∃ text, (span 6 0xffffffffffffffff).Covers text := by
    rw [hexact]
    decide
  refine ⟨hcovers, (hcovered _ _ hcovers).1, hinside, (huncovered _ hinside).1, hreversed,
    (huncovered _ hreversed).1, hbeyond, (huncovered _ hbeyond).1, ?_⟩
  exact hneighbours file.content 1 3 10
    (by decide) (by decide) (by decide) (by decide) (by decide)
    _ _ _ ⟨rfl, rfl, rfl⟩ ⟨rfl, rfl, rfl⟩ ⟨rfl, rfl, rfl⟩

end Span
end CodeTree
