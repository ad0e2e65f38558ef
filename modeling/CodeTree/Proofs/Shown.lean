import CodeTree.Proofs.Text
import CodeTree.Reference
import CodeTree.Source

namespace CodeTree

/-! ## Locations -/

namespace Location

def numeral (w : UInt64) : List Char :=
  Nat.toDigits 10 w.toNat

theorem numeral_inj {v w : UInt64} : numeral v = numeral w ↔ v = w := by
  constructor
  · intro h
    have hnat : v.toNat = w.toNat := Text.eq_of_toDigits_eq (by decide) (by decide) h
    exact UInt64.toNat_inj.1 hnat
  · rintro rfl
    rfl

theorem not_mem_numeral {c : Char} (hc : c.isDigit = false) (w : UInt64) :
    c ∉ numeral w := by
  intro hmem
  have hdigit : c.isDigit = true :=
    Nat.isDigit_of_mem_toDigits (by decide) (by decide) hmem
  rw [hc] at hdigit
  contradiction

theorem toList_display (l : Location) :
    l.display.toList =
      (l.file.url.toList ++ '@' :: numeral l.line) ++ ':' :: numeral l.col := by
  unfold display numeral
  simp [Nat.toList_repr]

/-- Two locations are shown alike exactly when they name the same position: the url, the
line and the column are the same. -/
theorem display_identifies_position (a b : Location) :
    a.display = b.display ↔
      a.file.url = b.file.url ∧ a.line = b.line ∧ a.col = b.col := by
  have hcolon : ∀ w : UInt64, ':' ∉ numeral w := not_mem_numeral (by decide)
  have hat : ∀ w : UInt64, '@' ∉ numeral w := not_mem_numeral (by decide)
  rw [← String.toList_inj, toList_display, toList_display,
    Text.append_last_separator_inj (hcolon a.col) (hcolon b.col),
    Text.append_last_separator_inj (hat a.line) (hat b.line),
    String.toList_inj, numeral_inj, numeral_inj, and_assoc]

-- A url that looks like a shown location is followed by the line and the column all the
-- same.
example :
    ({ file := { content := "", url := "a@1:2" }, offset := 0, line := 3, col := 40 } :
      Location).display = "a@1:2@3:40" := by
  decide

end Location

/-! ## References -/

namespace ExternalRef

theorem none_append_ne_some_append (s t : String) : "None" ++ s ≠ "Some(" ++ t := by
  intro h
  have hlist := congrArg String.toList h
  simp at hlist

theorem describeName_append_inj {a b : Option String} {u v : String} :
    describeName a ++ u = describeName b ++ v ↔ a = b ∧ u = v := by
  cases a with
  | none =>
      cases b with
      | none => simp [describeName]
      | some name =>
          have hne : describeName none ++ u ≠ describeName (some name) ++ v := by
            simp only [describeName, String.append_assoc]
            exact none_append_ne_some_append u _
          simp [hne]
  | some name =>
      cases b with
      | none =>
          have hne : describeName (some name) ++ u ≠ describeName none ++ v := by
            simp only [describeName, String.append_assoc]
            exact (none_append_ne_some_append v _).symm
          simp [hne]
      | some name' =>
          simp only [describeName, String.append_assoc, String.append_right_inj,
            Text.quote_append_inj, Option.some.injEq]

theorem describeRuntime_eq_iff {a b : Option RuntimeHandle} :
    describeRuntime a = describeRuntime b ↔ a.isSome = b.isSome := by
  cases a <;> cases b <;> simp [describeRuntime]

/-- References are described alike exactly when they have the same module and the same
name, and a runtime value is there in both or in neither.  What the value is makes no
difference. -/
theorem described_alike_iff :
    (∀ a b : ExternalRef, a.describe = b.describe ↔
      a.moduleName = b.moduleName ∧ a.name = b.name ∧
        a.runtime.isSome = b.runtime.isSome) ∧
    ∀ (r : ExternalRef) (value value' : RuntimeHandle),
      ({ r with runtime := some value } : ExternalRef).describe =
        ({ r with runtime := some value' } : ExternalRef).describe := by
  constructor
  · intro a b
    have hruntime : describeRuntime a.runtime ++ " \x7d" =
        describeRuntime b.runtime ++ " \x7d" ↔
        a.runtime.isSome = b.runtime.isSome := by
      rw [String.append_left_inj, describeRuntime_eq_iff]
    -- Every field is read behind the label that is the same in both, from the first to
    -- the last.
    unfold describe
    simp only [String.append_assoc, String.append_right_inj,
      describeName_append_inj, hruntime]
  · intro r value value'
    rfl

-- A module name that spells the labels and a closing quote stays one name.
example :
    describe
        { moduleName := some "m\"), name: None", name := some "n\\", runtime := none } =
      "ExternalReference \x7b module_name: Some(\"m\\\"), name: None\"), " ++
        "name: Some(\"n\\\\\"), " ++
        "runtime: None \x7d" := by
  decide

end ExternalRef

end CodeTree
