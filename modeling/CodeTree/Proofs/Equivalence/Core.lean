import CodeTree.Proofs.Equivalence.Values
import CodeTree.Proofs.Tree.Relabel
import CodeTree.Tree.Equivalence

/-!
# The core of a tree

The core is the tree with everything forgotten that equivalence does not look at.  Two
trees are equivalent exactly when their cores are equal.
-/

namespace CodeTree

@[simps var type typeArgs span mods ref literal quoted functionName commentText
  commentStyle docTags keepInitializers keepMethodParams]
def Relabel.core : Relabel where
  type _ := none
  typeArgs _ := none
  span _ := none
  mods _ := .none
  ref := ExternalRef.core
  literal := Literal.core
  quoted _ := false
  functionName _ := none
  commentText _ := ""
  commentStyle _ := false
  docTags := DocComment.core
  keepInitializers := false
  keepMethodParams := false

def Param.core : Param → Param :=
  Param.relabel .core

def Expr.core : Expr → Expr :=
  Expr.relabel .core

def MapEntry.core : MapEntry → MapEntry :=
  MapEntry.relabel .core

def Stmt.core : Stmt → Stmt :=
  Stmt.relabel .core

def Field.core : Field → Field :=
  Field.relabel .core

def Getter.core : Getter → Getter :=
  Getter.relabel .core

def Method.core : Method → Method :=
  Method.relabel .core

theorem Param.relabel_core : Param.relabel .core = Param.core := rfl

theorem Expr.relabel_core : Expr.relabel .core = Expr.core := rfl

theorem MapEntry.relabel_core : MapEntry.relabel .core = MapEntry.core := rfl

theorem Stmt.relabel_core : Stmt.relabel .core = Stmt.core := rfl

theorem Field.relabel_core : Field.relabel .core = Field.core := rfl

theorem Getter.relabel_core : Getter.relabel .core = Getter.core := rfl

theorem Method.relabel_core : Method.relabel .core = Method.core := rfl

/-! ## Lists are compared element by element -/

namespace Tree

section Generic

variable {α β : Type} {equiv : α → α → Bool} {core : α → β}

theorem eq_isEqv_of_cons {f : List α → List α → Bool} (hnil : f [] [] = true)
    (hleft : ∀ b bs, f [] (b :: bs) = false) (hright : ∀ a as, f (a :: as) [] = false)
    (hcons : ∀ a as b bs, f (a :: as) (b :: bs) = (equiv a b && f as bs))
    (as bs : List α) : f as bs = as.isEqv bs equiv := by
  induction as generalizing bs with
  | nil =>
      cases bs with
      | nil => exact hnil
      | cons b bs => exact hleft b bs
  | cons a as ih =>
      cases bs with
      | nil => exact hright a as
      | cons b bs => rw [hcons, ih, List.isEqv_cons_cons]

theorem isEqv_iff_map_eq {as : List α}
    (h : ∀ a ∈ as, ∀ b, equiv a b = true ↔ core a = core b) (bs : List α) :
    as.isEqv bs equiv = true ↔ as.map core = bs.map core := by
  induction as generalizing bs with
  | nil => cases bs <;> simp
  | cons a as ih =>
      have htail : ∀ bs, as.isEqv bs equiv = true ↔ as.map core = bs.map core :=
        ih fun c hc => h c (List.mem_cons_of_mem a hc)
      cases bs with
      | nil => simp
      | cons b bs => simp [List.isEqv_cons_cons, h a List.mem_cons_self, htail]

theorem allEquiv_iff_map_eq {allEquiv : List α → List α → Bool}
    (h : ∀ a b, equiv a b = true ↔ core a = core b)
    (hall : ∀ as bs, allEquiv as bs = as.isEqv bs equiv) (as bs : List α) :
    allEquiv as bs = true ↔ as.map core = bs.map core := by
  rw [hall]
  exact isEqv_iff_map_eq (fun a _ => h a) bs

theorem presentEquiv_iff_map_eq {o : Option α}
    (h : ∀ a ∈ o, ∀ b, equiv a b = true ↔ core a = core b) (o' : Option α) :
    presentEquiv equiv o o' = true ↔ o.map core = o'.map core := by
  cases o with
  | none => cases o' <;> simp [presentEquiv]
  | some a => cases o' <;> simp [presentEquiv, h a rfl]

end Generic

theorem optionEquiv_eq (o o' : Option Expr) :
    optionEquiv o o' = presentEquiv Expr.equiv o o' := by
  cases o <;> cases o' <;> rfl

theorem paramsEquiv_eq (as bs : List Param) :
    paramsEquiv as bs = as.isEqv bs Param.equiv :=
  eq_isEqv_of_cons rfl (fun _ _ => rfl) (fun _ _ => rfl) (fun _ _ _ _ => rfl) as bs

theorem fieldsEquiv_eq (as bs : List Field) :
    fieldsEquiv as bs = as.isEqv bs Field.equiv :=
  eq_isEqv_of_cons rfl (fun _ _ => rfl) (fun _ _ => rfl) (fun _ _ _ _ => rfl) as bs

theorem exprsEquiv_eq (as bs : List Expr) : exprsEquiv as bs = as.isEqv bs Expr.equiv :=
  eq_isEqv_of_cons rfl (fun _ _ => rfl) (fun _ _ => rfl) (fun _ _ _ _ => rfl) as bs

theorem entriesEquiv_eq (as bs : List MapEntry) :
    entriesEquiv as bs = as.isEqv bs MapEntry.equiv :=
  eq_isEqv_of_cons rfl (fun _ _ => rfl) (fun _ _ => rfl) (fun _ _ _ _ => rfl) as bs

theorem stmtsEquiv_eq (as bs : List Stmt) : stmtsEquiv as bs = as.isEqv bs Stmt.equiv :=
  eq_isEqv_of_cons rfl (fun _ _ => rfl) (fun _ _ => rfl) (fun _ _ _ _ => rfl) as bs

theorem gettersEquiv_eq (as bs : List Getter) :
    gettersEquiv as bs = as.isEqv bs Getter.equiv :=
  eq_isEqv_of_cons rfl (fun _ _ => rfl) (fun _ _ => rfl) (fun _ _ _ _ => rfl) as bs

theorem methodsEquiv_eq (as bs : List Method) :
    methodsEquiv as bs = as.isEqv bs Method.equiv :=
  eq_isEqv_of_cons rfl (fun _ _ => rfl) (fun _ _ => rfl) (fun _ _ _ _ => rfl) as bs

theorem exprsEquiv_iff_of_mem {as : List Expr}
    (h : ∀ a ∈ as, ∀ b, a.equiv b = true ↔ a.core = b.core) (bs : List Expr) :
    exprsEquiv as bs = true ↔ as.map Expr.core = bs.map Expr.core := by
  rw [exprsEquiv_eq]
  exact isEqv_iff_map_eq h bs

theorem stmtsEquiv_iff_of_mem {as : List Stmt}
    (h : ∀ a ∈ as, ∀ b, a.equiv b = true ↔ a.core = b.core) (bs : List Stmt) :
    stmtsEquiv as bs = true ↔ as.map Stmt.core = bs.map Stmt.core := by
  rw [stmtsEquiv_eq]
  exact isEqv_iff_map_eq h bs

theorem optionEquiv_iff_of_mem {o : Option Expr}
    (h : ∀ a ∈ o, ∀ b, a.equiv b = true ↔ a.core = b.core) (o' : Option Expr) :
    optionEquiv o o' = true ↔ o.map Expr.core = o'.map Expr.core := by
  rw [optionEquiv_eq]
  exact presentEquiv_iff_map_eq h o'

end Tree

/-! ## Members -/

theorem Param.equiv_iff {a b : Param} : a.equiv b = true ↔ a.core = b.core := by
  cases a
  cases b
  simp [equiv, core, relabel]

theorem Field.equiv_iff {a b : Field} : a.equiv b = true ↔ a.core = b.core := by
  cases a
  cases b
  simp [equiv, core, relabel]

theorem MapEntry.equiv_iff_of_value {a b : MapEntry}
    (h : a.value.equiv b.value = true ↔ a.value.core = b.value.core) :
    a.equiv b = true ↔ a.core = b.core := by
  cases a
  cases b
  simp_all [equiv, core, relabel, Expr.core]

theorem Getter.equiv_iff_of_body {a b : Getter}
    (h : Tree.stmtsEquiv a.body b.body = true ↔
      a.body.map Stmt.core = b.body.map Stmt.core) :
    a.equiv b = true ↔ a.core = b.core := by
  cases a
  cases b
  simp_all [equiv, core, relabel, Stmt.core]

theorem Method.equiv_iff_of_body {a b : Method}
    (h : Tree.stmtsEquiv a.body b.body = true ↔
      a.body.map Stmt.core = b.body.map Stmt.core) :
    a.equiv b = true ↔ a.core = b.core := by
  cases a
  cases b
  simp_all [equiv, core, relabel, Stmt.core]

theorem Tree.paramsEquiv_iff (as bs : List Param) :
    paramsEquiv as bs = true ↔ as.map Param.core = bs.map Param.core := by
  refine allEquiv_iff_map_eq ?_ paramsEquiv_eq as bs
  intro a b
  exact Param.equiv_iff

theorem Tree.fieldsEquiv_iff (as bs : List Field) :
    fieldsEquiv as bs = true ↔ as.map Field.core = bs.map Field.core := by
  refine allEquiv_iff_map_eq ?_ fieldsEquiv_eq as bs
  intro a b
  exact Field.equiv_iff

/-! ## Nodes -/

theorem Expr.kind_eq_of_equiv {a b : Expr} (h : a.equiv b = true) : a.kind = b.kind := by
  cases a <;> cases b <;> first | rfl | cases h

theorem Stmt.kind_eq_of_equiv {a b : Stmt} (h : a.equiv b = true) : a.kind = b.kind := by
  cases a <;> cases b <;> first | rfl | cases h

theorem Expr.kind_core (e : Expr) : e.core.kind = e.kind := by
  cases e <;> rfl

theorem Stmt.kind_core (s : Stmt) : s.core.kind = s.kind := by
  cases s <;> rfl

theorem Expr.kind_eq_of_core_eq {a b : Expr} (h : a.core = b.core) : a.kind = b.kind := by
  rw [← kind_core, h, kind_core]

theorem Stmt.kind_eq_of_core_eq {a b : Stmt} (h : a.core = b.core) : a.kind = b.kind := by
  rw [← kind_core, h, kind_core]

section SameKind

open CodeTree.Tree

theorem Expr.equiv_iff_of_kind_eq {a b : Expr} (hkind : a.kind = b.kind)
    (hexpr : ∀ c, .expr c ∈ a.children → ∀ b, c.equiv b = true ↔ c.core = b.core)
    (hstmt : ∀ c, .stmt c ∈ a.children → ∀ b, c.equiv b = true ↔ c.core = b.core) :
    a.equiv b = true ↔ a.core = b.core := by
  rw [← relabel_core]
  cases a <;> cases b <;> try (cases hkind; done)
  case literal.literal => simp [equiv, relabel, Literal.equiv_iff]
  case external.external => simp [equiv, relabel, ExternalRef.core_eq_iff]
  case callMethod.callMethod receiver _ args _ _ receiver' _ args' _ _ =>
    have hreceiver : receiver.equiv receiver' = true ↔ receiver.core = receiver'.core :=
      hexpr receiver List.mem_cons_self receiver'
    have hargs : exprsEquiv args args' = true ↔ args.map core = args'.map core :=
      exprsEquiv_iff_of_mem
        (fun c hc => hexpr c (List.mem_cons_of_mem _ (List.mem_map_of_mem hc))) args'
    simp [equiv, relabel, relabel_core, hreceiver, hargs, and_assoc]
  case call.call callee args _ _ callee' args' _ _ =>
    have hcallee : callee.equiv callee' = true ↔ callee.core = callee'.core :=
      hexpr callee List.mem_cons_self callee'
    have hargs : exprsEquiv args args' = true ↔ args.map core = args'.map core :=
      exprsEquiv_iff_of_mem
        (fun c hc => hexpr c (List.mem_cons_of_mem _ (List.mem_map_of_mem hc))) args'
    simp [equiv, relabel, relabel_core, hcallee, hargs]
  case instantiate.instantiate cls args _ _ cls' args' _ _ =>
    have hcls : cls.equiv cls' = true ↔ cls.core = cls'.core :=
      hexpr cls List.mem_cons_self cls'
    have hargs : exprsEquiv args args' = true ↔ args.map core = args'.map core :=
      exprsEquiv_iff_of_mem
        (fun c hc => hexpr c (List.mem_cons_of_mem _ (List.mem_map_of_mem hc))) args'
    simp [equiv, relabel, relabel_core, hcls, hargs]
  case conditional.conditional condition trueCase falseCase _ _ condition' trueCase'
      falseCase' _ _ =>
    have hcondition : condition.equiv condition' = true ↔
        condition.core = condition'.core :=
      hexpr condition (by simp [children]) condition'
    have htrue : trueCase.equiv trueCase' = true ↔ trueCase.core = trueCase'.core :=
      hexpr trueCase (by simp [children]) trueCase'
    have hfalse : optionEquiv falseCase falseCase' = true ↔
        falseCase.map core = falseCase'.map core :=
      optionEquiv_iff_of_mem (fun c hc => hexpr c (by simp_all [children])) falseCase'
    simp [equiv, relabel, relabel_core, hcondition, htrue, hfalse, and_assoc]
  case function.function params body _ _ _ params' body' _ _ _ =>
    have hparams : paramsEquiv params params' = true ↔
        params.map Param.core = params'.map Param.core :=
      paramsEquiv_iff params params'
    have hbody : stmtsEquiv body body' = true ↔
        body.map Stmt.core = body'.map Stmt.core :=
      stmtsEquiv_iff_of_mem (fun c hc => hstmt c (List.mem_map_of_mem hc)) body'
    simp [equiv, relabel, Param.relabel_core, Stmt.relabel_core, hparams, hbody]
  case array.array entries _ _ entries' _ _ =>
    have hentries : exprsEquiv entries entries' = true ↔
        entries.map core = entries'.map core :=
      exprsEquiv_iff_of_mem (fun c hc => hexpr c (List.mem_map_of_mem hc)) entries'
    simp [equiv, relabel, relabel_core, hentries]
  case map.map entries _ _ entries' _ _ =>
    have hentry : ∀ entry ∈ entries, ∀ entry', entry.equiv entry' = true ↔
        entry.core = entry'.core := by
      intro entry hmem entry'
      exact MapEntry.equiv_iff_of_value (hexpr _ (List.mem_map_of_mem hmem) entry'.value)
    simp [equiv, relabel, MapEntry.relabel_core, entriesEquiv_eq, isEqv_iff_map_eq hentry]
  case comma.comma parts _ parts' _ =>
    have hparts : exprsEquiv parts parts' = true ↔ parts.map core = parts'.map core :=
      exprsEquiv_iff_of_mem (fun c hc => hexpr c (List.mem_map_of_mem hc)) parts'
    simp [equiv, relabel, relabel_core, hparts]
  -- Whatever is left has single expressions for its children, if it has any.
  all_goals
    simp_all [equiv, relabel, relabel_core, children, and_assoc]

theorem Stmt.equiv_iff_of_kind_eq {a b : Stmt} (hkind : a.kind = b.kind)
    (hexpr : ∀ c, .expr c ∈ a.children → ∀ b, c.equiv b = true ↔ c.core = b.core)
    (hstmt : ∀ c, .stmt c ∈ a.children → ∀ b, c.equiv b = true ↔ c.core = b.core) :
    a.equiv b = true ↔ a.core = b.core := by
  rw [← relabel_core]
  cases a <;> cases b <;> try (cases hkind; done)
  case docComment.docComment => simp [equiv, relabel, DocComment.equiv_iff]
  case declareVar.declareVar value _ _ _ _ value' _ _ _ =>
    have hvalue : optionEquiv value value' = true ↔
        value.map Expr.core = value'.map Expr.core :=
      optionEquiv_iff_of_mem (fun c hc => hexpr c (by simp_all [children])) value'
    simp [equiv, relabel, Expr.relabel_core, hvalue]
  case declareClass.declareClass parent _ getters ctor methods _ _ _ parent' _ _ ctor'
      _ _ _ =>
    simp only [expr_mem_children_declareClass] at hexpr
    simp only [stmt_mem_children_declareClass] at hstmt
    have hparent : optionEquiv parent parent' = true ↔
        parent.map Expr.core = parent'.map Expr.core :=
      optionEquiv_iff_of_mem (fun c hc => hexpr c (.inl hc)) parent'
    have hgetter : ∀ getter ∈ getters, ∀ getter', getter.equiv getter' = true ↔
        getter.core = getter'.core := by
      intro getter hmem getter'
      exact Getter.equiv_iff_of_body
        (stmtsEquiv_iff_of_mem (fun c hc => hstmt c (.inl ⟨getter, hmem, hc⟩))
          getter'.body)
    have hctor : ctor.equiv ctor' = true ↔ ctor.core = ctor'.core :=
      Method.equiv_iff_of_body
        (stmtsEquiv_iff_of_mem (fun c hc => hstmt c (.inr (.inl hc))) ctor'.body)
    have hmethod : ∀ method ∈ methods, ∀ method', method.equiv method' = true ↔
        method.core = method'.core := by
      intro method hmem method'
      exact Method.equiv_iff_of_body
        (stmtsEquiv_iff_of_mem (fun c hc => hstmt c (.inr (.inr ⟨method, hmem, hc⟩)))
          method'.body)
    simp [equiv, relabel, Expr.relabel_core, Field.relabel_core, Getter.relabel_core,
      Method.relabel_core, hparent, fieldsEquiv_iff, gettersEquiv_eq,
      isEqv_iff_map_eq hgetter, hctor, methodsEquiv_eq, isEqv_iff_map_eq hmethod,
      and_assoc]
  -- Whatever is left has a single expression or lists of statements below it.
  all_goals
    simp_all [equiv, relabel, relabel_core, Expr.relabel_core, Param.relabel_core,
      stmtsEquiv_iff_of_mem, paramsEquiv_iff, children, and_assoc]

end SameKind

theorem Tree.equiv_iff :
    (∀ a b : Expr, a.equiv b = true ↔ a.core = b.core) ∧
      ∀ a b : Stmt, a.equiv b = true ↔ a.core = b.core := by
  apply Tree.induction
  · intro a hexpr hstmt b
    by_cases hkind : a.kind = b.kind
    · exact Expr.equiv_iff_of_kind_eq hkind hexpr hstmt
    · have hequiv : ¬ a.equiv b = true := fun h => hkind (Expr.kind_eq_of_equiv h)
      have hcore : a.core ≠ b.core := fun h => hkind (Expr.kind_eq_of_core_eq h)
      simp [hequiv, hcore]
  · intro a hexpr hstmt b
    by_cases hkind : a.kind = b.kind
    · exact Stmt.equiv_iff_of_kind_eq hkind hexpr hstmt
    · have hequiv : ¬ a.equiv b = true := fun h => hkind (Stmt.kind_eq_of_equiv h)
      have hcore : a.core ≠ b.core := fun h => hkind (Stmt.kind_eq_of_core_eq h)
      simp [hequiv, hcore]

theorem Expr.equiv_iff {a b : Expr} : a.equiv b = true ↔ a.core = b.core :=
  Tree.equiv_iff.1 a b

theorem Stmt.equiv_iff {a b : Stmt} : a.equiv b = true ↔ a.core = b.core :=
  Tree.equiv_iff.2 a b

theorem Tree.exprsEquiv_iff {as bs : List Expr} :
    exprsEquiv as bs = true ↔ as.map Expr.core = bs.map Expr.core :=
  exprsEquiv_iff_of_mem (fun _ _ _ => Expr.equiv_iff) bs

theorem Tree.stmtsEquiv_iff {as bs : List Stmt} :
    stmtsEquiv as bs = true ↔ as.map Stmt.core = bs.map Stmt.core :=
  stmtsEquiv_iff_of_mem (fun _ _ _ => Stmt.equiv_iff) bs

theorem MapEntry.equiv_iff {a b : MapEntry} : a.equiv b = true ↔ a.core = b.core :=
  equiv_iff_of_value Expr.equiv_iff

theorem Getter.equiv_iff {a b : Getter} : a.equiv b = true ↔ a.core = b.core :=
  equiv_iff_of_body Tree.stmtsEquiv_iff

theorem Method.equiv_iff {a b : Method} : a.equiv b = true ↔ a.core = b.core :=
  equiv_iff_of_body Tree.stmtsEquiv_iff

end CodeTree
