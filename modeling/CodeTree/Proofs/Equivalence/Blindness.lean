import CodeTree.Proofs.Equivalence.Rebuild

namespace CodeTree

namespace Relabel

/-- Clears every annotation and keeps everything else. -/
def bare : Relabel where
  type _ := none
  typeArgs _ := none
  span _ := none
  mods _ := .none
  ref := ExternalRef.core

end Relabel

/-- Whatever looks the same when it is cleared is interchangeable on both sides of a
comparison, of that of lists and of that of parts that may be absent. -/
structure BlindTo {α : Type} (clear : α → α) (equiv : α → α → Bool)
    (allEquiv : List α → List α → Bool) : Prop where
  one : ∀ a a' b b', clear a = clear a' → clear b = clear b' → equiv a b = equiv a' b'
  all : ∀ as as' bs bs', as.map clear = as'.map clear → bs.map clear = bs'.map clear →
    allEquiv as bs = allEquiv as' bs'
  present : ∀ o o' p p', o.map clear = o'.map clear → p.map clear = p'.map clear →
    Tree.presentEquiv equiv o p = Tree.presentEquiv equiv o' p'

section OfCore

variable {α β : Type} {clear : α → α} {core : α → β} {equiv : α → α → Bool}

theorem eq_of_core_eq (h : ∀ a b, equiv a b = true ↔ core a = core b) {a a' b b' : α}
    (ha : core a = core a') (hb : core b = core b') : equiv a b = equiv a' b' := by
  have hiff : equiv a b = true ↔ equiv a' b' = true := by rw [h, h, ha, hb]
  exact Bool.eq_iff_iff.2 hiff

theorem BlindTo.of_core {allEquiv : List α → List α → Bool}
    (hone : ∀ a b, equiv a b = true ↔ core a = core b)
    (hall : ∀ as bs, allEquiv as bs = as.isEqv bs equiv)
    (hclear : ∀ a, core (clear a) = core a) : BlindTo clear equiv allEquiv := by
  have hcore : ∀ a b, clear a = clear b → core a = core b := by
    intro a b h
    rw [← hclear a, ← hclear b, h]
  refine ⟨?one, ?all, ?present⟩
  case one =>
    intro a a' b b' ha hb
    exact eq_of_core_eq hone (hcore a a' ha) (hcore b b' hb)
  case all =>
    intro as as' bs bs' has hbs
    apply eq_of_core_eq (Tree.allEquiv_iff_map_eq hone hall)
    · exact Effects.map_eq_map_of_map_eq_map (fun a _ => hcore a) has
    · exact Effects.map_eq_map_of_map_eq_map (fun b _ => hcore b) hbs
  case present =>
    have hoptions : ∀ o p, Tree.presentEquiv equiv o p = true ↔
        o.map core = p.map core := by
      intro o p
      exact Tree.presentEquiv_iff_map_eq (fun a _ => hone a) p
    intro o o' p p' ho hp
    apply eq_of_core_eq hoptions
    · exact Effects.optionMap_eq_of_optionMap_eq hcore ho
    · exact Effects.optionMap_eq_of_optionMap_eq hcore hp

end OfCore

/-- No comparison of trees, or of members of trees, sees an annotation, however deep it
stands. -/
theorem Tree.equiv_blind_to_annotations :
    BlindTo (Expr.relabel .bare) Expr.equiv exprsEquiv ∧
      BlindTo (Stmt.relabel .bare) Stmt.equiv stmtsEquiv ∧
      BlindTo (Param.relabel .bare) Param.equiv paramsEquiv ∧
      BlindTo (MapEntry.relabel .bare) MapEntry.equiv entriesEquiv ∧
      BlindTo (Field.relabel .bare) Field.equiv fieldsEquiv ∧
      BlindTo (Getter.relabel .bare) Getter.equiv gettersEquiv ∧
      BlindTo (Method.relabel .bare) Method.equiv methodsEquiv := by
  refine ⟨?exprs, ?stmts, ?params, ?entries, ?fields, ?getters, ?methods⟩
  -- `Relabel.bare.andThen .core` unfolds to `.core`: clearing first does not change the
  -- core.
  case exprs =>
    exact .of_core (fun _ _ => Expr.equiv_iff) exprsEquiv_eq
      (Expr.relabel_relabel .bare .core)
  case stmts =>
    exact .of_core (fun _ _ => Stmt.equiv_iff) stmtsEquiv_eq
      (Stmt.relabel_relabel .bare .core)
  case params =>
    exact .of_core (fun _ _ => Param.equiv_iff) paramsEquiv_eq
      (Param.relabel_relabel .bare .core)
  case entries =>
    exact .of_core (fun _ _ => MapEntry.equiv_iff) entriesEquiv_eq
      (MapEntry.relabel_relabel .bare .core)
  case fields =>
    exact .of_core (fun _ _ => Field.equiv_iff) fieldsEquiv_eq
      (Field.relabel_relabel .bare .core)
  case getters =>
    exact .of_core (fun _ _ => Getter.equiv_iff) gettersEquiv_eq
      (Getter.relabel_relabel .bare .core)
  case methods =>
    exact .of_core (fun _ _ => Method.equiv_iff) methodsEquiv_eq
      (Method.relabel_relabel .bare .core)

/-- Annotations at every place that has them: a declaration, a parameter, a variable, a
reference and a read. -/
def annotatedFunction (name : String) (type : Option Ty) (mods : Modifiers)
    (runtime : Option RuntimeHandle) (span : Option Span) : Stmt :=
  let ref : Expr :=
    .external ⟨some "m", some "n", runtime⟩ (type.map fun t => [t]) type span
  .declareFunction "f" [⟨"x", type⟩]
    [.declareVar name (some ref) type mods span,
      .ret (.readVar (.named name) type span) span]
    type mods span

def exportedModifiers : Modifiers :=
  { Modifiers.none with isExported := true }

/-- The name of a variable tells two functions apart, with annotations as without
them. -/
theorem Tree.equiv_annotatedFunction :
    (annotatedFunction "y" (some Ty.int) exportedModifiers (some ⟨"n"⟩)
        (some Rebuild.sampleSpan)).relabel .bare =
      (annotatedFunction "y" none .none none none).relabel .bare ∧
    (annotatedFunction "z" (some Ty.string) .none none
        (some Rebuild.sampleSpan)).relabel .bare =
      (annotatedFunction "z" none .none none none).relabel .bare ∧
    (annotatedFunction "y" none .none none none).equiv
      (annotatedFunction "z" none .none none none) = false ∧
    (annotatedFunction "y" (some Ty.int) exportedModifiers (some ⟨"n"⟩)
        (some Rebuild.sampleSpan)).equiv
      (annotatedFunction "z" (some Ty.string) .none none (some Rebuild.sampleSpan)) =
        false := by
  have hplain : (annotatedFunction "y" none .none none none).equiv
      (annotatedFunction "z" none .none none none) = false := by rfl
  refine ⟨rfl, rfl, hplain, ?_⟩
  rw [← hplain]
  exact equiv_blind_to_annotations.2.1.one _ _ _ _ rfl rfl

end CodeTree
