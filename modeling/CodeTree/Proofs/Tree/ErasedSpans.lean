import CodeTree.Proofs.Tree.Phrases
import CodeTree.Proofs.Tree.Spans
import CodeTree.Tree.Constant

/-!
# Trees without source spans

Erasing takes out every span, also those inside types.  On expressions and statements it
is the relabelling that drops the spans of nodes and erases the types stored with them.
-/

namespace CodeTree

mutual

def Ty.eraseSpans : Ty → Ty
  | .builtin name mods => .builtin name mods
  | .expr value mods => .expr value.eraseSpans mods
  | .array elem mods => .array elem.eraseSpans mods
  | .map value mods => .map (Tree.eraseTyOption value) mods

def Tree.eraseTyOption : Option Ty → Option Ty
  | none => none
  | some t => some t.eraseSpans

def Tree.eraseTys : List Ty → List Ty
  | [] => []
  | t :: ts => t.eraseSpans :: Tree.eraseTys ts

def Tree.eraseTypeArgs : Option (List Ty) → Option (List Ty)
  | none => none
  | some ts => some (Tree.eraseTys ts)

def Param.eraseSpans : Param → Param
  | ⟨name, type⟩ => ⟨name, Tree.eraseTyOption type⟩

def Tree.eraseParams : List Param → List Param
  | [] => []
  | param :: params => param.eraseSpans :: Tree.eraseParams params

def Expr.eraseSpans : Expr → Expr
  | .readVar name type _ => .readVar name (Tree.eraseTyOption type) none
  | .writeVar name value type _ =>
      .writeVar name value.eraseSpans (Tree.eraseTyOption type) none
  | .writeKey receiver index value type _ =>
      .writeKey receiver.eraseSpans index.eraseSpans value.eraseSpans
        (Tree.eraseTyOption type) none
  | .writeProp receiver name value type _ =>
      .writeProp receiver.eraseSpans name value.eraseSpans (Tree.eraseTyOption type) none
  | .callMethod receiver method args type _ =>
      .callMethod receiver.eraseSpans method (Tree.eraseExprs args)
        (Tree.eraseTyOption type) none
  | .call callee args type _ =>
      .call callee.eraseSpans (Tree.eraseExprs args) (Tree.eraseTyOption type) none
  | .instantiate cls args type _ =>
      .instantiate cls.eraseSpans (Tree.eraseExprs args) (Tree.eraseTyOption type) none
  | .literal value type _ => .literal value (Tree.eraseTyOption type) none
  | .external ref typeArgs type _ =>
      .external ref (Tree.eraseTypeArgs typeArgs) (Tree.eraseTyOption type) none
  | .conditional condition trueCase falseCase type _ =>
      .conditional condition.eraseSpans trueCase.eraseSpans (Tree.eraseOption falseCase)
        (Tree.eraseTyOption type) none
  | .not condition _ => .not condition.eraseSpans none
  | .assertNotNull condition type _ =>
      .assertNotNull condition.eraseSpans (Tree.eraseTyOption type) none
  | .cast value type _ => .cast value.eraseSpans (Tree.eraseTyOption type) none
  | .function params body name type _ =>
      .function (Tree.eraseParams params) (Tree.eraseStmts body) name
        (Tree.eraseTyOption type) none
  | .binary op lhs rhs type _ =>
      .binary op lhs.eraseSpans rhs.eraseSpans (Tree.eraseTyOption type) none
  | .readProp receiver name type _ =>
      .readProp receiver.eraseSpans name (Tree.eraseTyOption type) none
  | .readKey receiver index type _ =>
      .readKey receiver.eraseSpans index.eraseSpans (Tree.eraseTyOption type) none
  | .array entries type _ =>
      .array (Tree.eraseExprs entries) (Tree.eraseTyOption type) none
  | .map entries type _ => .map (Tree.eraseEntries entries) (Tree.eraseTyOption type) none
  | .comma parts _ => .comma (Tree.eraseExprs parts) none

def Tree.eraseExprs : List Expr → List Expr
  | [] => []
  | e :: es => e.eraseSpans :: Tree.eraseExprs es

def Tree.eraseOption : Option Expr → Option Expr
  | none => none
  | some e => some e.eraseSpans

def MapEntry.eraseSpans : MapEntry → MapEntry
  | ⟨key, value, quoted⟩ => ⟨key, value.eraseSpans, quoted⟩

def Tree.eraseEntries : List MapEntry → List MapEntry
  | [] => []
  | entry :: entries => entry.eraseSpans :: Tree.eraseEntries entries

def Stmt.eraseSpans : Stmt → Stmt
  | .declareVar name value type mods _ =>
      .declareVar name (Tree.eraseOption value) (Tree.eraseTyOption type) mods none
  | .declareFunction name params body type mods _ =>
      .declareFunction name (Tree.eraseParams params) (Tree.eraseStmts body)
        (Tree.eraseTyOption type) mods none
  | .expr value _ => .expr value.eraseSpans none
  | .ret value _ => .ret value.eraseSpans none
  | .declareClass name parent fields getters ctor methods mods _ =>
      .declareClass name (Tree.eraseOption parent) (Tree.eraseFields fields)
        (Tree.eraseGetters getters) ctor.eraseSpans (Tree.eraseMethods methods) mods none
  | .ifElse condition trueCase falseCase _ =>
      .ifElse condition.eraseSpans (Tree.eraseStmts trueCase)
        (Tree.eraseStmts falseCase) none
  | .tryCatch body handler _ =>
      .tryCatch (Tree.eraseStmts body) (Tree.eraseStmts handler) none
  | .throw error _ => .throw error.eraseSpans none
  | .comment text multiline _ => .comment text multiline none
  | .docComment tags _ => .docComment tags none

def Tree.eraseStmts : List Stmt → List Stmt
  | [] => []
  | s :: ss => s.eraseSpans :: Tree.eraseStmts ss

def Field.eraseSpans : Field → Field
  | ⟨name, type, mods, initializer⟩ =>
      ⟨name, Tree.eraseTyOption type, mods, Tree.eraseOption initializer⟩

def Tree.eraseFields : List Field → List Field
  | [] => []
  | field :: fields => field.eraseSpans :: Tree.eraseFields fields

def Getter.eraseSpans : Getter → Getter
  | ⟨name, body, type, mods⟩ =>
      ⟨name, Tree.eraseStmts body, Tree.eraseTyOption type, mods⟩

def Tree.eraseGetters : List Getter → List Getter
  | [] => []
  | getter :: getters => getter.eraseSpans :: Tree.eraseGetters getters

def Method.eraseSpans : Method → Method
  | ⟨name, params, body, type, mods⟩ =>
      ⟨name, Tree.eraseParams params, Tree.eraseStmts body, Tree.eraseTyOption type, mods⟩

def Tree.eraseMethods : List Method → List Method
  | [] => []
  | method :: methods => method.eraseSpans :: Tree.eraseMethods methods

end

/-! ## Lists are erased element by element -/

namespace Tree

open Effects (eq_map_of_cons)

@[simp] theorem eraseTyOption_eq_map (o : Option Ty) :
    eraseTyOption o = o.map Ty.eraseSpans := by
  cases o <;> rfl

@[simp] theorem eraseTys_eq_map (ts : List Ty) : eraseTys ts = ts.map Ty.eraseSpans :=
  eq_map_of_cons rfl (fun _ _ => rfl) ts

@[simp] theorem eraseTypeArgs_eq_map (typeArgs : Option (List Ty)) :
    eraseTypeArgs typeArgs = typeArgs.map (List.map Ty.eraseSpans) := by
  cases typeArgs with
  | none => rfl
  | some ts => rw [eraseTypeArgs, eraseTys_eq_map, Option.map_some]

@[simp] theorem eraseParams_eq_map (params : List Param) :
    eraseParams params = params.map Param.eraseSpans :=
  eq_map_of_cons rfl (fun _ _ => rfl) params

@[simp] theorem eraseExprs_eq_map (es : List Expr) :
    eraseExprs es = es.map Expr.eraseSpans :=
  eq_map_of_cons rfl (fun _ _ => rfl) es

@[simp] theorem eraseOption_eq_map (o : Option Expr) :
    eraseOption o = o.map Expr.eraseSpans := by
  cases o <;> rfl

@[simp] theorem eraseEntries_eq_map (entries : List MapEntry) :
    eraseEntries entries = entries.map MapEntry.eraseSpans :=
  eq_map_of_cons rfl (fun _ _ => rfl) entries

@[simp] theorem eraseStmts_eq_map (ss : List Stmt) :
    eraseStmts ss = ss.map Stmt.eraseSpans :=
  eq_map_of_cons rfl (fun _ _ => rfl) ss

@[simp] theorem eraseFields_eq_map (fields : List Field) :
    eraseFields fields = fields.map Field.eraseSpans :=
  eq_map_of_cons rfl (fun _ _ => rfl) fields

@[simp] theorem eraseGetters_eq_map (getters : List Getter) :
    eraseGetters getters = getters.map Getter.eraseSpans :=
  eq_map_of_cons rfl (fun _ _ => rfl) getters

@[simp] theorem eraseMethods_eq_map (methods : List Method) :
    eraseMethods methods = methods.map Method.eraseSpans :=
  eq_map_of_cons rfl (fun _ _ => rfl) methods

end Tree

/-! ## Erasing is a relabelling -/

/-- Drops the spans of the nodes and erases the types that are stored with them. -/
@[simps] def Relabel.erasing : Relabel where
  type := Option.map Ty.eraseSpans
  typeArgs := Option.map (List.map Ty.eraseSpans)
  span _ := none

theorem Param.eraseSpans_eq_relabel (param : Param) :
    param.eraseSpans = param.relabel .erasing := by
  cases param
  simp [eraseSpans, relabel]

theorem MapEntry.eraseSpans_eq (entry : MapEntry) :
    entry.eraseSpans = (entry.mapValue Expr.eraseSpans).relabelHeader .erasing := by
  cases entry
  simp [eraseSpans, mapValue, relabelHeader]

theorem Field.eraseSpans_eq (field : Field) :
    field.eraseSpans = (field.mapInitializer Expr.eraseSpans).relabelHeader .erasing := by
  cases field
  simp [eraseSpans, mapInitializer, relabelHeader]

theorem Getter.eraseSpans_eq (getter : Getter) :
    getter.eraseSpans = (getter.mapBody Stmt.eraseSpans).relabelHeader .erasing := by
  cases getter
  simp [eraseSpans, mapBody, relabelHeader]

theorem Method.eraseSpans_eq (method : Method) :
    method.eraseSpans = (method.mapBody Stmt.eraseSpans).relabelHeader .erasing := by
  cases method
  simp [eraseSpans, mapBody, relabelHeader, Param.eraseSpans_eq_relabel]

theorem Expr.eraseSpans_eq (e : Expr) :
    e.eraseSpans =
      (e.mapChildren Expr.eraseSpans Stmt.eraseSpans).relabelNode .erasing := by
  cases e <;>
    simp [eraseSpans, mapChildren, relabelNode, Param.eraseSpans_eq_relabel,
      MapEntry.eraseSpans_eq]

theorem Stmt.eraseSpans_eq (s : Stmt) :
    s.eraseSpans =
      (s.mapChildren Expr.eraseSpans Stmt.eraseSpans).relabelNode .erasing := by
  cases s <;>
    simp [eraseSpans, mapChildren, relabelNode, Param.eraseSpans_eq_relabel,
      Field.eraseSpans_eq, Getter.eraseSpans_eq, Method.eraseSpans_eq]

theorem Tree.eraseSpans_eq_relabel :
    (∀ e : Expr, e.eraseSpans = e.relabel .erasing) ∧
      ∀ s : Stmt, s.eraseSpans = s.relabel .erasing := by
  apply Tree.induction
  · intro e hexpr hstmt
    rw [Expr.eraseSpans_eq, Expr.mapChildren_congr hexpr hstmt, ← Expr.relabel_eq]
  · intro s hexpr hstmt
    rw [Stmt.eraseSpans_eq, Stmt.mapChildren_congr hexpr hstmt, ← Stmt.relabel_eq]

theorem Expr.eraseSpans_eq_relabel (e : Expr) : e.eraseSpans = e.relabel .erasing :=
  Tree.eraseSpans_eq_relabel.1 e

theorem Stmt.eraseSpans_eq_relabel (s : Stmt) : s.eraseSpans = s.relabel .erasing :=
  Tree.eraseSpans_eq_relabel.2 s

theorem Stmt.eraseSpans_mapSpans (f : Option Span → Option Span) (s : Stmt) :
    (s.mapSpans f).eraseSpans = s.eraseSpans := by
  have hforgets : (Relabel.onSpans f).andThen .erasing = .erasing := rfl
  rw [eraseSpans_eq_relabel, eraseSpans_eq_relabel, mapSpans, relabel_relabel, hforgets]

/-! ## The type that an expression answers for -/

section Types

variable {f : Relabel}

/-- A relabelling that leaves absent types absent and the type of a negation as it is
relabels the type that an expression answers for. -/
theorem Expr.type?_relabel (habsent : f.type none = none)
    (hbool : f.type (some Ty.bool) = some Ty.bool) (e : Expr) :
    (e.relabel f).type? = f.type e.type? := by
  induction e using Expr.induction with
  | expr e ih =>
      cases e with
      | not condition span => exact hbool.symm
      | comma parts span =>
          have hparts : ∀ c ∈ parts, (c.relabel f).type? = f.type c.type? :=
            fun c hc => ih c (List.mem_map_of_mem hc)
          rw [relabel, type?, type?, Tree.relabelExprs_eq_map,
            lastType?_map habsent hparts]
      | _ => rfl

theorem Expr.computedType?_relabel (habsent : f.type none = none)
    (hbool : f.type (some Ty.bool) = some Ty.bool) (e : Expr) :
    (e.relabel f).computedType? = f.type e.computedType? := by
  cases e with
  | not condition span => exact hbool.symm
  | comma parts span => exact type?_relabel habsent hbool (.comma parts span)
  | _ => exact habsent.symm

theorem Expr.type?_eraseSpans (e : Expr) :
    e.eraseSpans.type? = e.type?.map Ty.eraseSpans := by
  rw [eraseSpans_eq_relabel]
  exact type?_relabel rfl rfl e

theorem Expr.computedType?_eraseSpans (e : Expr) :
    e.eraseSpans.computedType? = e.computedType?.map Ty.eraseSpans := by
  rw [eraseSpans_eq_relabel]
  exact computedType?_relabel rfl rfl e

theorem Expr.annotation?_eraseSpans (e : Expr) :
    e.eraseSpans.annotation? = e.annotation?.map Ty.eraseSpans := by
  cases e with
  | not condition span => rfl
  | comma parts span => rfl
  | _ => exact type?_eraseSpans _

end Types

/-! ## Parts of an erased phrase -/

def Phrase.eraseSpans : Phrase → Phrase
  | .ty t => .ty t.eraseSpans
  | .expr e => .expr e.eraseSpans
  | .stmt s => .stmt s.eraseSpans

theorem Ty.parts_eraseSpans (t : Ty) :
    t.eraseSpans.parts = t.parts.map Phrase.eraseSpans := by
  cases t <;>
    simp [eraseSpans, parts, Phrase.eraseSpans, Option.toList_map, Function.comp_def]

theorem Param.parts_eraseSpans (param : Param) :
    param.eraseSpans.parts = param.parts.map Phrase.eraseSpans := by
  cases param
  simp [eraseSpans, parts, Phrase.eraseSpans, Option.toList_map, Function.comp_def]

theorem Field.parts_eraseSpans (field : Field) :
    field.eraseSpans.parts = field.parts.map Phrase.eraseSpans := by
  cases field
  simp [eraseSpans, parts, Phrase.eraseSpans, Option.toList_map, Function.comp_def]

theorem Getter.parts_eraseSpans (getter : Getter) :
    getter.eraseSpans.parts = getter.parts.map Phrase.eraseSpans := by
  cases getter
  simp [eraseSpans, parts, Phrase.eraseSpans, Option.toList_map, Function.comp_def]

theorem Method.parts_eraseSpans (method : Method) :
    method.eraseSpans.parts = method.parts.map Phrase.eraseSpans := by
  cases method
  simp [eraseSpans, parts, Phrase.eraseSpans, Option.toList_map, Function.comp_def,
    List.map_flatMap, List.flatMap_map, Param.parts_eraseSpans]

theorem MapEntry.value_eraseSpans (entry : MapEntry) :
    entry.eraseSpans.value = entry.value.eraseSpans := by
  cases entry
  rfl

theorem Expr.innerParts_eraseSpans (e : Expr) :
    e.eraseSpans.innerParts = e.innerParts.map Phrase.eraseSpans := by
  cases e with
  | external ref typeArgs type span =>
      cases typeArgs <;>
        simp [eraseSpans, innerParts, Phrase.eraseSpans, Function.comp_def]
  | _ =>
      simp [eraseSpans, innerParts, Phrase.eraseSpans, Option.toList_map,
        Function.comp_def, List.map_flatMap, List.flatMap_map, Param.parts_eraseSpans,
        MapEntry.value_eraseSpans]

theorem Expr.parts_eraseSpans (e : Expr) :
    e.eraseSpans.parts = e.parts.map Phrase.eraseSpans := by
  simp [parts, innerParts_eraseSpans, annotation?_eraseSpans, Phrase.eraseSpans,
    Option.toList_map]

theorem Stmt.parts_eraseSpans (s : Stmt) :
    s.eraseSpans.parts = s.parts.map Phrase.eraseSpans := by
  cases s <;>
    simp [eraseSpans, parts, Phrase.eraseSpans, Option.toList_map, Function.comp_def,
      List.map_flatMap, List.flatMap_map, Param.parts_eraseSpans, Field.parts_eraseSpans,
      Getter.parts_eraseSpans, Method.parts_eraseSpans]

theorem Phrase.parts_eraseSpans (p : Phrase) :
    p.eraseSpans.parts = p.parts.map eraseSpans := by
  cases p with
  | ty t => exact t.parts_eraseSpans
  | expr e => exact e.parts_eraseSpans
  | stmt s => exact s.parts_eraseSpans

theorem Phrase.computedType?_eraseSpans (p : Phrase) :
    p.eraseSpans.computedType? = p.computedType?.map Ty.eraseSpans := by
  cases p with
  | expr e => exact e.computedType?_eraseSpans
  | _ => rfl

end CodeTree
