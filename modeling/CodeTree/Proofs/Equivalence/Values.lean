import CodeTree.DocComment
import CodeTree.Literal
import CodeTree.Reference

/-!
# Equivalent literals, references and documentation comments

Equivalence of what a node stores is equality of a core.  The core of a list of tags
that has a body is one tag with the body for its name; names are not checked, so this
tag has a body too and is no list that is refused.
-/

namespace CodeTree

/-! ## Numbers -/

namespace Number

def quietNaN : Number := ⟨0x7ff8000000000000⟩

def zero : Number := ⟨0⟩

theorem isNaN_quietNaN : quietNaN.isNaN = true := by decide

theorem isZero_zero : zero.isZero = true := by decide

theorem isZero_eq_false_of_isNaN {x : Number} (h : x.isNaN = true) :
    x.isZero = false := by
  cases hzero : x.isZero with
  | false => rfl
  | true =>
      have hmagnitude : x.magnitude = 0 := by simpa [isZero] using hzero
      simp [isNaN, hmagnitude] at h

theorem isNaN_eq_false_of_isZero {x : Number} (h : x.isZero = true) :
    x.isNaN = false := by
  cases hnan : x.isNaN with
  | false => rfl
  | true => simp [isZero_eq_false_of_isNaN hnan] at h

theorem sameValue_iff {x y : Number} :
    x.sameValue y = true ↔
      x = y ∨ (x.isNaN = true ∧ y.isNaN = true) ∨
        (x.isZero = true ∧ y.isZero = true) := by
  have hbits : x.bits = y.bits ↔ x = y := by
    cases x
    cases y
    simp
  have hne : x.isNaN ≠ y.isNaN → x ≠ y := by
    intro hnan heq
    exact hnan (congrArg isNaN heq)
  cases hx : x.isNaN with
  | true =>
      cases hy : y.isNaN with
      | true => simp [sameValue, hx, hy]
      | false =>
          have hdiffer : x ≠ y := hne (by simp [hx, hy])
          simp [sameValue, numericEq, hx, hy, hdiffer, isZero_eq_false_of_isNaN hx]
  | false =>
      cases hy : y.isNaN with
      | true =>
          have hdiffer : x ≠ y := hne (by simp [hx, hy])
          simp [sameValue, numericEq, hx, hy, hdiffer, isZero_eq_false_of_isNaN hy]
      | false => simp [sameValue, numericEq, hx, hy, hbits]

def core (x : Number) : Number :=
  if x.isNaN then quietNaN else if x.isZero then zero else x

theorem isNaN_core (x : Number) : x.core.isNaN = x.isNaN := by
  unfold core
  cases hnan : x.isNaN with
  | true => exact isNaN_quietNaN
  | false =>
      cases hzero : x.isZero with
      | true => exact isNaN_eq_false_of_isZero isZero_zero
      | false => exact hnan

theorem isZero_core (x : Number) : x.core.isZero = x.isZero := by
  unfold core
  cases hnan : x.isNaN with
  | true =>
      rw [isZero_eq_false_of_isNaN hnan]
      exact isZero_eq_false_of_isNaN isNaN_quietNaN
  | false =>
      cases hzero : x.isZero with
      | true => exact isZero_zero
      | false => exact hzero

theorem core_eq_iff {x y : Number} : x.core = y.core ↔ x.sameValue y = true := by
  rw [sameValue_iff]
  constructor
  · intro h
    have hnan : x.isNaN = y.isNaN := by rw [← isNaN_core x, h, isNaN_core]
    have hzero : x.isZero = y.isZero := by rw [← isZero_core x, h, isZero_core]
    cases hx : x.isNaN with
    | true => exact .inr (.inl ⟨rfl, hnan ▸ hx⟩)
    | false =>
        cases hx' : x.isZero with
        | true => exact .inr (.inr ⟨rfl, hzero ▸ hx'⟩)
        | false => exact .inl (by simpa [core, ← hnan, ← hzero, hx, hx'] using h)
  · rintro (rfl | ⟨hx, hy⟩ | ⟨hx, hy⟩)
    · rfl
    · simp [core, hx, hy]
    · simp [core, hx, hy, isNaN_eq_false_of_isZero]

end Number

namespace Literal

def core : Literal → Literal
  | .number x => .number x.core
  | value => value

theorem equiv_iff {a b : Literal} : a.equiv b = true ↔ a.core = b.core := by
  cases a <;> cases b <;> simp [equiv, core, Number.core_eq_iff]

end Literal

def ExternalRef.core (ref : ExternalRef) : ExternalRef :=
  { ref with runtime := none }

theorem ExternalRef.core_eq_iff {a b : ExternalRef} :
    a.core = b.core ↔ a.moduleName = b.moduleName ∧ a.name = b.name := by
  simp [core]

/-! ## Documentation comments -/

namespace DocComment

/-- A comment whose only tag has the given name and no text. -/
def nameOnly (name : String) : List DocTag :=
  [.named name none]

def core (tags : List DocTag) : List DocTag :=
  match body tags with
  | .ok text => nameOnly text
  | .error _ => tags

theorem body_nameOnly (name : String) :
    ∃ text, body (nameOnly name) = .ok text := by
  have htag : tagText (.named name none) = .ok (DocTag.marker (.named name none)) := by
    simp [tagText, DocTag.note, hasDelimiter, written]
  simp [body, nameOnly, lines, htag, bind, Except.bind, pure, Except.pure]

theorem nameOnly_ne_of_body_error {tags : List DocTag} {error : TreeError} (name : String)
    (h : body tags = .error error) :
    nameOnly name ≠ tags := by
  rintro rfl
  obtain ⟨text, htext⟩ := body_nameOnly name
  simp [htext] at h

theorem core_of_body_ok {tags : List DocTag} {text : String} (h : body tags = .ok text) :
    core tags = nameOnly text := by
  rw [core, h]

theorem core_of_body_error {tags : List DocTag} {error : TreeError}
    (h : body tags = .error error) :
    core tags = tags := by
  rw [core, h]

theorem equiv_iff {a b : List DocTag} : equiv a b = true ↔ core a = core b := by
  unfold equiv
  cases ha : body a with
  | ok text =>
      rw [core_of_body_ok ha]
      cases hb : body b with
      | ok text' => simp [core_of_body_ok hb, nameOnly]
      | error error =>
          have hne : a ≠ b := by
            rintro rfl
            simp [ha] at hb
          rw [core_of_body_error hb]
          simp [hne, nameOnly_ne_of_body_error text hb]
  | error error =>
      rw [core_of_body_error ha]
      cases hb : body b with
      | ok text =>
          have hne : a ≠ b := by
            rintro rfl
            simp [ha] at hb
          rw [core_of_body_ok hb]
          simp [hne, (nameOnly_ne_of_body_error text ha).symm]
      | error error' => simp [core_of_body_error hb]

end DocComment

end CodeTree
