import CodeTree.Walk

namespace CodeTree

def Expr.readName? : Expr → Option String
  | .readVar (.named name) _ _ => some name
  | _ => none

theorem Expr.readName?_eq_some_iff {e : Expr} {name : String} :
    e.readName? = some name ↔ ∃ type span, e = .readVar (.named name) type span := by
  constructor
  · intro h
    unfold readName? at h
    split at h
    · next found type span => exact ⟨type, span, by rw [Option.some.inj h]⟩
    · cases h
  · rintro ⟨type, span, rfl⟩
    rfl

def Stmt.opensScope : Stmt → Bool
  | .declareFunction .. => true
  | .declareClass .. => true
  | _ => false

namespace ReadNames

/-- A name goes to the end of the names unless it is there already. -/
def insert (names : List String) (name : String) : List String :=
  if name ∈ names then names else names ++ [name]

variable {name : String} {names : List String}

theorem insert_of_mem (h : name ∈ names) : insert names name = names :=
  if_pos h

theorem insert_of_not_mem (h : name ∉ names) : insert names name = names ++ [name] :=
  if_neg h

theorem mem_insert_iff {a : String} : a ∈ insert names name ↔ a ∈ names ∨ a = name := by
  by_cases hmem : name ∈ names
  · rw [insert_of_mem hmem]
    constructor
    · exact Or.inl
    · rintro (hold | rfl)
      · exact hold
      · exact hmem
  · rw [insert_of_not_mem hmem, List.mem_append, List.mem_singleton]

theorem mem_foldl_insert_iff {a : String} {more : List String} :
    a ∈ more.foldl insert names ↔ a ∈ names ∨ a ∈ more := by
  induction more generalizing names with
  | nil => simp
  | cons b more ih => rw [List.foldl_cons, ih, mem_insert_iff, List.mem_cons, or_assoc]

theorem foldl_insert_of_subset {more : List String} (h : ∀ a ∈ more, a ∈ names) :
    more.foldl insert names = names := by
  induction more with
  | nil => rfl
  | cons a more ih =>
      rw [List.foldl_cons, insert_of_mem (h a List.mem_cons_self)]
      exact ih fun b hb => h b (List.mem_cons_of_mem a hb)

def note (e : Expr) : StateM (List String) Unit :=
  match e.readName? with
  | some name => modify fun names => insert names name
  | none => pure ()

def walk : Walk (StateM (List String)) :=
  { Walk.everywhere with
    enterExpr := fun e => do
      note e
      return .into
    enterStmt := fun s => return !s.opensScope }

end ReadNames

/-- The names of the variables that are read, each once, in the order of the first reads.
Functions and classes that are declared are passed by with all that belongs to them. -/
def readNames (ss : List Stmt) : List String :=
  ((ReadNames.walk.stmts ss).run []).2

end CodeTree
