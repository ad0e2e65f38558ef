import CodeTree.Source.Json
import Mathlib.Data.List.Basic

/-!
# What is read as a span

One span has many stored forms, and what reading accepts is said here without reading.
The form that is written is one of them.
-/

namespace CodeTree

namespace Json

/-! ## Members of an object -/

variable {members : List (String × Json)} {name : String} {value : Json}

/-- The last member with the name has the value. -/
def Holds (members : List (String × Json)) (name : String) (value : Json) : Prop :=
  ∃ before after, members = before ++ (name, value) :: after ∧ name ∉ after.map Prod.fst

theorem member?_eq_none_iff :
    member? name members = none ↔ name ∉ members.map Prod.fst := by
  induction members with
  | nil => simp [member?]
  | cons member rest ih =>
      obtain ⟨key, other⟩ := member
      rw [member?, List.map_cons, List.mem_cons, not_or, ← ih]
      cases hrest : member? name rest with
      | some later => simp
      | none =>
          by_cases hkey : key = name
          · simp [hkey]
          · simp [hkey, Ne.symm hkey]

theorem member?_of_holds (h : Holds members name value) :
    member? name members = some value := by
  obtain ⟨before, after, rfl, hafter⟩ := h
  induction before with
  | nil =>
      rw [List.nil_append, member?, member?_eq_none_iff.2 hafter]
      simp
  | cons member before ih =>
      rw [List.cons_append, member?, ih]

theorem holds_of_member? (h : member? name members = some value) :
    Holds members name value := by
  induction members with
  | nil => cases h
  | cons member rest ih =>
      obtain ⟨key, other⟩ := member
      rw [member?] at h
      cases hrest : member? name rest with
      | some later =>
          -- A later member of the name counts, whatever this one is called.
          rw [hrest] at h ih
          obtain ⟨before, after, hmembers, hafter⟩ := ih h
          refine ⟨(key, other) :: before, after, ?_, hafter⟩
          rw [hmembers, List.cons_append]
      | none =>
          rw [hrest] at h
          by_cases hkey : key = name
          · simp only [hkey, if_true, Option.some.injEq] at h
            refine ⟨[], rest, ?_, member?_eq_none_iff.1 hrest⟩
            rw [hkey, h, List.nil_append]
          · simp only [hkey, if_false] at h
            cases h

theorem member?_eq_some_iff :
    member? name members = some value ↔ Holds members name value :=
  ⟨holds_of_member?, member?_of_holds⟩

/-! ## Values -/

variable {json : Json}

theorem string?_eq_some_iff {s : String} : json.string? = some s ↔ json = .string s := by
  cases json <;> simp [string?]

theorem word?_eq_some_iff {w : UInt64} : json.word? = some w ↔ json = .count w.toNat := by
  cases json with
  | count n =>
      have hw : w.toNat < 2 ^ 64 := w.toNat_lt
      by_cases hn : n ≤ 0xffffffffffffffff
      · have hsize : n < UInt64.size := Nat.lt_succ_of_le hn
        rw [word?, if_pos hn, Option.some.injEq, ← UInt64.toNat_inj, Json.count.injEq,
          UInt64.toNat_ofNat_of_lt' hsize]
      · -- A count beyond 64 bits is not read, and it is the number of no word.
        have hne : n ≠ w.toNat := by omega
        simp [word?, hn, hne]
  | _ => simp [word?]

def ofOptional : Option String → Json
  | none => .null
  | some s => .string s

theorem optionalString?_eq_some_iff {d : Option String} :
    json.optionalString? = some d ↔ json = ofOptional d := by
  cases json <;> cases d <;> simp [optionalString?, ofOptional]

/-- The last member with the name has the optional string for its value; where there is
no string the member may be missing. -/
inductive HoldsOptional (members : List (String × Json)) (name : String) :
    Option String → Prop
  | present {d : Option String} (h : Holds members name (ofOptional d)) :
      HoldsOptional members name d
  | missing (h : name ∉ members.map Prod.fst) : HoldsOptional members name none

theorem holdsOptional_iff {d : Option String} :
    HoldsOptional members name d ↔
      ((member? name members).getD .null).optionalString? = some d := by
  rw [optionalString?_eq_some_iff]
  constructor
  · intro h
    cases h with
    | present h => rw [member?_of_holds h, Option.getD_some]
    | missing h => rw [member?_eq_none_iff.2 h, Option.getD_none, ofOptional]
  · intro h
    cases hmember : member? name members with
    | some value =>
        rw [hmember, Option.getD_some] at h
        exact .present (member?_eq_some_iff.1 (hmember.trans (congrArg some h)))
    | none =>
        rw [hmember, Option.getD_none] at h
        cases d with
        | some s => cases h
        | none => exact .missing (member?_eq_none_iff.1 hmember)

end Json

/-! ## Files -/

namespace SourceFile

variable {f : SourceFile} {json : Json}

inductive StoredAs (f : SourceFile) : Json → Prop
  | record {members : List (String × Json)}
      (content : Json.Holds members "content" (.string f.content))
      (url : Json.Holds members "url" (.string f.url)) :
      StoredAs f (.object members)
  | values : StoredAs f (.array [.string f.content, .string f.url])

theorem ofValues?_eq_some_iff {content url : Json} :
    ofValues? content url = some f ↔
      content = .string f.content ∧ url = .string f.url := by
  rw [← Json.string?_eq_some_iff, ← Json.string?_eq_some_iff]
  unfold ofValues?
  constructor
  · intro h
    obtain ⟨content', hcontent, h⟩ := Option.bind_eq_some_iff.1 h
    obtain ⟨url', hurl, h⟩ := Option.bind_eq_some_iff.1 h
    cases h
    exact ⟨hcontent, hurl⟩
  · rintro ⟨hcontent, hurl⟩
    rw [hcontent, hurl]
    rfl

theorem ofJson?_eq_some_iff : ofJson? json = some f ↔ f.StoredAs json := by
  constructor
  · intro h
    unfold ofJson? at h
    split at h
    · next members =>
        obtain ⟨content, hcontent, h⟩ := Option.bind_eq_some_iff.1 h
        obtain ⟨url, hurl, h⟩ := Option.bind_eq_some_iff.1 h
        obtain ⟨rfl, rfl⟩ := ofValues?_eq_some_iff.1 h
        exact .record (Json.member?_eq_some_iff.1 hcontent)
          (Json.member?_eq_some_iff.1 hurl)
    · next content url =>
        obtain ⟨rfl, rfl⟩ := ofValues?_eq_some_iff.1 h
        exact .values
    · cases h
  · intro h
    cases h with
    | record content url =>
        rw [ofJson?, Json.member?_of_holds content, Json.member?_of_holds url]
        exact ofValues?_eq_some_iff.2 ⟨rfl, rfl⟩
    | values => exact ofValues?_eq_some_iff.2 ⟨rfl, rfl⟩

theorem storedAs_toJson (f : SourceFile) : f.StoredAs f.toJson := by
  apply ofJson?_eq_some_iff.1
  rfl

end SourceFile

/-! ## Locations -/

namespace Location

variable {l : Location} {json : Json}

inductive StoredAs (l : Location) : Json → Prop
  | record {members : List (String × Json)} {file : Json}
      (file_held : Json.Holds members "file" file) (file_stored : l.file.StoredAs file)
      (offset : Json.Holds members "offset" (.count l.offset.toNat))
      (line : Json.Holds members "line" (.count l.line.toNat))
      (col : Json.Holds members "col" (.count l.col.toNat)) :
      StoredAs l (.object members)
  | values {file : Json} (file_stored : l.file.StoredAs file) :
      StoredAs l
        (.array [file, .count l.offset.toNat, .count l.line.toNat, .count l.col.toNat])

theorem ofValues?_eq_some_iff {file offset line col : Json} :
    ofValues? file offset line col = some l ↔
      l.file.StoredAs file ∧ offset = .count l.offset.toNat ∧ line = .count l.line.toNat ∧
        col = .count l.col.toNat := by
  rw [← SourceFile.ofJson?_eq_some_iff, ← Json.word?_eq_some_iff,
    ← Json.word?_eq_some_iff, ← Json.word?_eq_some_iff]
  unfold ofValues?
  constructor
  · intro h
    obtain ⟨file', hfile, h⟩ := Option.bind_eq_some_iff.1 h
    obtain ⟨offset', hoffset, h⟩ := Option.bind_eq_some_iff.1 h
    obtain ⟨line', hline, h⟩ := Option.bind_eq_some_iff.1 h
    obtain ⟨col', hcol, h⟩ := Option.bind_eq_some_iff.1 h
    cases h
    exact ⟨hfile, hoffset, hline, hcol⟩
  · rintro ⟨hfile, hoffset, hline, hcol⟩
    rw [hfile, hoffset, hline, hcol]
    rfl

theorem ofJson?_eq_some_iff : ofJson? json = some l ↔ l.StoredAs json := by
  constructor
  · intro h
    unfold ofJson? at h
    split at h
    · next members =>
        obtain ⟨file, hfile, h⟩ := Option.bind_eq_some_iff.1 h
        obtain ⟨offset, hoffset, h⟩ := Option.bind_eq_some_iff.1 h
        obtain ⟨line, hline, h⟩ := Option.bind_eq_some_iff.1 h
        obtain ⟨col, hcol, h⟩ := Option.bind_eq_some_iff.1 h
        obtain ⟨hstored, rfl, rfl, rfl⟩ := ofValues?_eq_some_iff.1 h
        exact .record (Json.member?_eq_some_iff.1 hfile) hstored
          (Json.member?_eq_some_iff.1 hoffset) (Json.member?_eq_some_iff.1 hline)
          (Json.member?_eq_some_iff.1 hcol)
    · next file offset line col =>
        obtain ⟨hstored, rfl, rfl, rfl⟩ := ofValues?_eq_some_iff.1 h
        exact .values hstored
    · cases h
  · intro h
    cases h with
    | record hfile hstored hoffset hline hcol =>
        rw [ofJson?, Json.member?_of_holds hfile, Json.member?_of_holds hoffset,
          Json.member?_of_holds hline, Json.member?_of_holds hcol]
        exact ofValues?_eq_some_iff.2 ⟨hstored, rfl, rfl, rfl⟩
    | values hstored => exact ofValues?_eq_some_iff.2 ⟨hstored, rfl, rfl, rfl⟩

theorem storedAs_toJson (l : Location) : l.StoredAs l.toJson := by
  rw [← ofJson?_eq_some_iff]
  exact ofValues?_eq_some_iff.2 ⟨l.file.storedAs_toJson, rfl, rfl, rfl⟩

end Location

/-! ## Spans -/

namespace Span

variable {s : Span} {json : Json}

inductive StoredAs (s : Span) : Json → Prop
  | record {members : List (String × Json)} {start stop : Json}
      (start_held : Json.Holds members "start" start)
      (start_stored : s.start.StoredAs start)
      (stop_held : Json.Holds members "end" stop) (stop_stored : s.stop.StoredAs stop)
      (details : Json.HoldsOptional members "details" s.details) :
      StoredAs s (.object members)
  | values {start stop : Json} (start_stored : s.start.StoredAs start)
      (stop_stored : s.stop.StoredAs stop) :
      StoredAs s (.array [start, stop, Json.ofOptional s.details])

theorem ofValues?_eq_some_iff {start stop details : Json} :
    ofValues? start stop details = some s ↔
      s.start.StoredAs start ∧ s.stop.StoredAs stop ∧
        details.optionalString? = some s.details := by
  rw [← Location.ofJson?_eq_some_iff, ← Location.ofJson?_eq_some_iff]
  unfold ofValues?
  constructor
  · intro h
    obtain ⟨start', hstart, h⟩ := Option.bind_eq_some_iff.1 h
    obtain ⟨stop', hstop, h⟩ := Option.bind_eq_some_iff.1 h
    obtain ⟨details', hdetails, h⟩ := Option.bind_eq_some_iff.1 h
    cases h
    exact ⟨hstart, hstop, hdetails⟩
  · rintro ⟨hstart, hstop, hdetails⟩
    rw [hstart, hstop, hdetails]
    rfl

theorem ofJson?_eq_some_iff : ofJson? json = some s ↔ s.StoredAs json := by
  constructor
  · intro h
    unfold ofJson? at h
    split at h
    · next members =>
        obtain ⟨start, hstart, h⟩ := Option.bind_eq_some_iff.1 h
        obtain ⟨stop, hstop, h⟩ := Option.bind_eq_some_iff.1 h
        obtain ⟨hstartStored, hstopStored, hdetails⟩ := ofValues?_eq_some_iff.1 h
        exact .record (Json.member?_eq_some_iff.1 hstart) hstartStored
          (Json.member?_eq_some_iff.1 hstop) hstopStored
          (Json.holdsOptional_iff.2 hdetails)
    · next start stop details =>
        obtain ⟨hstartStored, hstopStored, hdetails⟩ := ofValues?_eq_some_iff.1 h
        rw [Json.optionalString?_eq_some_iff] at hdetails
        rw [hdetails]
        exact .values hstartStored hstopStored
    · cases h
  · intro h
    cases h with
    | record hstart hstartStored hstop hstopStored hdetails =>
        rw [ofJson?, Json.member?_of_holds hstart, Json.member?_of_holds hstop]
        exact ofValues?_eq_some_iff.2
          ⟨hstartStored, hstopStored, Json.holdsOptional_iff.1 hdetails⟩
    | values hstartStored hstopStored =>
        exact ofValues?_eq_some_iff.2
          ⟨hstartStored, hstopStored, Json.optionalString?_eq_some_iff.2 rfl⟩

theorem storedAs_toJson (s : Span) : s.StoredAs s.toJson := by
  obtain ⟨start, stop, details⟩ := s
  rw [← ofJson?_eq_some_iff]
  refine ofValues?_eq_some_iff.2 ⟨start.storedAs_toJson, stop.storedAs_toJson, ?_⟩
  cases details <;> rfl

/-- What is written for a span is read as that span.  Reading accepts the stored forms
of a span and nothing else, and what is written for a span that was read, from whatever
form, is read as the same span and is written for it again. -/
theorem stored_form_round_trips :
    (∀ s : Span, ofJson? s.toJson = some s) ∧
    (∀ (json : Json) (s : Span), ofJson? json = some s ↔ s.StoredAs json) ∧
    ∀ json written : Json, (ofJson? json).map toJson = some written →
      ofJson? written = ofJson? json ∧ (ofJson? written).map toJson = some written := by
  have hread : ∀ s : Span, ofJson? s.toJson = some s := by
    intro s
    exact ofJson?_eq_some_iff.2 s.storedAs_toJson
  refine ⟨hread, ?forms, ?again⟩
  case forms =>
    intro json s
    exact ofJson?_eq_some_iff
  case again =>
    intro json written h
    obtain ⟨s, hs, rfl⟩ := Option.map_eq_some_iff.1 h
    rw [hread s, hs]
    exact ⟨rfl, rfl⟩

/-- An object with its members in another order, one that is not known and no remark,
whose ends lie in two files, one of them stored as a list, at the largest offset. -/
theorem stored_form_round_trips_untidy :
    let a : SourceFile := { content := "foo", url := "a.ts" }
    let b : SourceFile := { content := "bar", url := "b.ts" }
    let s : Span :=
      { start := { file := a, offset := 0, line := 0, col := 0 }
        stop := { file := b, offset := 0xffffffffffffffff, line := 1, col := 2 }
        details := none }
    let json : Json := .object
      [("end", .object [("col", .count 2), ("line", .count 1),
          ("offset", .count 0xffffffffffffffff),
          ("file", .array [.string "bar", .string "b.ts"])]),
        ("extra", .bool true),
        ("start", .object [("file", a.toJson), ("offset", .count 0), ("line", .count 0),
          ("col", .count 0)])]
    s.StoredAs json ∧ ofJson? s.toJson = ofJson? json ∧
      (ofJson? s.toJson).map toJson = some s.toJson := by
  intro a b s json
  obtain ⟨-, hforms, hagain⟩ := stored_form_round_trips
  have hread : ofJson? json = some s := by decide
  have hwritten : (ofJson? json).map toJson = some s.toJson := by
    rw [hread]
    rfl
  exact ⟨(hforms json s).1 hread, hagain json s.toJson hwritten⟩

end Span
end CodeTree
