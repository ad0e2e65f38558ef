import CodeTree.Proofs.Tree.Children

/-!
# Relabelling

A relabelling says what becomes of the data that nodes store beside their children.  It
leaves kinds, names and operators alone and does not look into types.
-/

namespace CodeTree

structure Relabel where
  var : VarName → VarName := id
  type : Option Ty → Option Ty := id
  typeArgs : Option (List Ty) → Option (List Ty) := id
  span : Option Span → Option Span := id
  mods : Modifiers → Modifiers := id
  ref : ExternalRef → ExternalRef := id
  literal : Literal → Literal := id
  quoted : Bool → Bool := id
  /-- The name of a function expression. -/
  functionName : Option String → Option String := id
  commentText : String → String := id
  commentStyle : Bool → Bool := id
  docTags : List DocTag → List DocTag := id
  keepInitializers : Bool := true
  keepMethodParams : Bool := true

namespace Relabel

def andThen (f g : Relabel) : Relabel where
  var := g.var ∘ f.var
  type := g.type ∘ f.type
  typeArgs := g.typeArgs ∘ f.typeArgs
  span := g.span ∘ f.span
  mods := g.mods ∘ f.mods
  ref := g.ref ∘ f.ref
  literal := g.literal ∘ f.literal
  quoted := g.quoted ∘ f.quoted
  functionName := g.functionName ∘ f.functionName
  commentText := g.commentText ∘ f.commentText
  commentStyle := g.commentStyle ∘ f.commentStyle
  docTags := g.docTags ∘ f.docTags
  keepInitializers := f.keepInitializers && g.keepInitializers
  keepMethodParams := f.keepMethodParams && g.keepMethodParams

@[simps] def onSpans (f : Option Span → Option Span) : Relabel :=
  { span := f }

end Relabel

def Param.relabel (f : Relabel) (p : Param) : Param :=
  { p with type := f.type p.type }

mutual

def Expr.relabel (f : Relabel) : Expr → Expr
  | .readVar name type span => .readVar (f.var name) (f.type type) (f.span span)
  | .writeVar name value type span =>
      .writeVar name (value.relabel f) (f.type type) (f.span span)
  | .writeKey receiver index value type span =>
      .writeKey (receiver.relabel f) (index.relabel f) (value.relabel f) (f.type type)
        (f.span span)
  | .writeProp receiver name value type span =>
      .writeProp (receiver.relabel f) name (value.relabel f) (f.type type) (f.span span)
  | .callMethod receiver method args type span =>
      .callMethod (receiver.relabel f) method (Tree.relabelExprs f args) (f.type type)
        (f.span span)
  | .call callee args type span =>
      .call (callee.relabel f) (Tree.relabelExprs f args) (f.type type) (f.span span)
  | .instantiate cls args type span =>
      .instantiate (cls.relabel f) (Tree.relabelExprs f args) (f.type type) (f.span span)
  | .literal value type span => .literal (f.literal value) (f.type type) (f.span span)
  | .external ref typeArgs type span =>
      .external (f.ref ref) (f.typeArgs typeArgs) (f.type type) (f.span span)
  | .conditional condition trueCase falseCase type span =>
      .conditional (condition.relabel f) (trueCase.relabel f)
        (Tree.relabelOption f falseCase) (f.type type) (f.span span)
  | .not condition span => .not (condition.relabel f) (f.span span)
  | .assertNotNull condition type span =>
      .assertNotNull (condition.relabel f) (f.type type) (f.span span)
  | .cast value type span => .cast (value.relabel f) (f.type type) (f.span span)
  | .function params body name type span =>
      .function (params.map (Param.relabel f)) (Tree.relabelStmts f body)
        (f.functionName name) (f.type type) (f.span span)
  | .binary op lhs rhs type span =>
      .binary op (lhs.relabel f) (rhs.relabel f) (f.type type) (f.span span)
  | .readProp receiver name type span =>
      .readProp (receiver.relabel f) name (f.type type) (f.span span)
  | .readKey receiver index type span =>
      .readKey (receiver.relabel f) (index.relabel f) (f.type type) (f.span span)
  | .array entries type span =>
      .array (Tree.relabelExprs f entries) (f.type type) (f.span span)
  | .map entries type span =>
      .map (Tree.relabelEntries f entries) (f.type type) (f.span span)
  | .comma parts span => .comma (Tree.relabelExprs f parts) (f.span span)

def Tree.relabelExprs (f : Relabel) : List Expr → List Expr
  | [] => []
  | e :: es => e.relabel f :: Tree.relabelExprs f es

def Tree.relabelOption (f : Relabel) : Option Expr → Option Expr
  | none => none
  | some e => some (e.relabel f)

def MapEntry.relabel (f : Relabel) : MapEntry → MapEntry
  | ⟨key, value, quoted⟩ => ⟨key, value.relabel f, f.quoted quoted⟩

def Tree.relabelEntries (f : Relabel) : List MapEntry → List MapEntry
  | [] => []
  | entry :: entries => entry.relabel f :: Tree.relabelEntries f entries

def Stmt.relabel (f : Relabel) : Stmt → Stmt
  | .declareVar name value type mods span =>
      .declareVar name (Tree.relabelOption f value) (f.type type) (f.mods mods)
        (f.span span)
  | .declareFunction name params body type mods span =>
      .declareFunction name (params.map (Param.relabel f)) (Tree.relabelStmts f body)
        (f.type type) (f.mods mods) (f.span span)
  | .expr value span => .expr (value.relabel f) (f.span span)
  | .ret value span => .ret (value.relabel f) (f.span span)
  | .declareClass name parent fields getters ctor methods mods span =>
      .declareClass name (Tree.relabelOption f parent) (Tree.relabelFields f fields)
        (Tree.relabelGetters f getters) (ctor.relabel f) (Tree.relabelMethods f methods)
        (f.mods mods) (f.span span)
  | .ifElse condition trueCase falseCase span =>
      .ifElse (condition.relabel f) (Tree.relabelStmts f trueCase)
        (Tree.relabelStmts f falseCase) (f.span span)
  | .tryCatch body handler span =>
      .tryCatch (Tree.relabelStmts f body) (Tree.relabelStmts f handler) (f.span span)
  | .throw error span => .throw (error.relabel f) (f.span span)
  | .comment text multiline span =>
      .comment (f.commentText text) (f.commentStyle multiline) (f.span span)
  | .docComment tags span => .docComment (f.docTags tags) (f.span span)

def Tree.relabelStmts (f : Relabel) : List Stmt → List Stmt
  | [] => []
  | s :: ss => s.relabel f :: Tree.relabelStmts f ss

def Field.relabel (f : Relabel) : Field → Field
  | ⟨name, type, mods, initializer⟩ =>
      ⟨name, f.type type, f.mods mods,
        if f.keepInitializers then Tree.relabelOption f initializer else none⟩

def Tree.relabelFields (f : Relabel) : List Field → List Field
  | [] => []
  | field :: fields => field.relabel f :: Tree.relabelFields f fields

def Getter.relabel (f : Relabel) : Getter → Getter
  | ⟨name, body, type, mods⟩ => ⟨name, Tree.relabelStmts f body, f.type type, f.mods mods⟩

def Tree.relabelGetters (f : Relabel) : List Getter → List Getter
  | [] => []
  | getter :: getters => getter.relabel f :: Tree.relabelGetters f getters

def Method.relabel (f : Relabel) : Method → Method
  | ⟨name, params, body, type, mods⟩ =>
      ⟨name, if f.keepMethodParams then params.map (Param.relabel f) else [],
        Tree.relabelStmts f body, f.type type, f.mods mods⟩

def Tree.relabelMethods (f : Relabel) : List Method → List Method
  | [] => []
  | method :: methods => method.relabel f :: Tree.relabelMethods f methods

end

/-! ## Lists are relabelled element by element -/

namespace Tree

open Effects (eq_map_of_cons)

variable (f : Relabel)

@[simp] theorem relabelExprs_eq_map (es : List Expr) :
    relabelExprs f es = es.map (Expr.relabel f) :=
  eq_map_of_cons rfl (fun _ _ => rfl) es

@[simp] theorem relabelOption_eq_map (o : Option Expr) :
    relabelOption f o = o.map (Expr.relabel f) := by
  cases o <;> rfl

@[simp] theorem relabelEntries_eq_map (entries : List MapEntry) :
    relabelEntries f entries = entries.map (MapEntry.relabel f) :=
  eq_map_of_cons rfl (fun _ _ => rfl) entries

@[simp] theorem relabelStmts_eq_map (ss : List Stmt) :
    relabelStmts f ss = ss.map (Stmt.relabel f) :=
  eq_map_of_cons rfl (fun _ _ => rfl) ss

@[simp] theorem relabelFields_eq_map (fields : List Field) :
    relabelFields f fields = fields.map (Field.relabel f) :=
  eq_map_of_cons rfl (fun _ _ => rfl) fields

@[simp] theorem relabelGetters_eq_map (getters : List Getter) :
    relabelGetters f getters = getters.map (Getter.relabel f) :=
  eq_map_of_cons rfl (fun _ _ => rfl) getters

@[simp] theorem relabelMethods_eq_map (methods : List Method) :
    relabelMethods f methods = methods.map (Method.relabel f) :=
  eq_map_of_cons rfl (fun _ _ => rfl) methods

end Tree

/-! ## One node at a time -/

def MapEntry.relabelHeader (f : Relabel) (entry : MapEntry) : MapEntry :=
  { entry with quoted := f.quoted entry.quoted }

def Field.relabelHeader (f : Relabel) (field : Field) : Field :=
  { field with
    type := f.type field.type
    mods := f.mods field.mods
    initializer := if f.keepInitializers then field.initializer else none }

def Getter.relabelHeader (f : Relabel) (getter : Getter) : Getter :=
  { getter with type := f.type getter.type, mods := f.mods getter.mods }

def Method.relabelHeader (f : Relabel) (method : Method) : Method :=
  { method with
    params := if f.keepMethodParams then method.params.map (Param.relabel f) else []
    type := f.type method.type
    mods := f.mods method.mods }

def Expr.relabelNode (f : Relabel) : Expr → Expr
  | .readVar name type span => .readVar (f.var name) (f.type type) (f.span span)
  | .writeVar name value type span => .writeVar name value (f.type type) (f.span span)
  | .writeKey receiver index value type span =>
      .writeKey receiver index value (f.type type) (f.span span)
  | .writeProp receiver name value type span =>
      .writeProp receiver name value (f.type type) (f.span span)
  | .callMethod receiver method args type span =>
      .callMethod receiver method args (f.type type) (f.span span)
  | .call callee args type span => .call callee args (f.type type) (f.span span)
  | .instantiate cls args type span => .instantiate cls args (f.type type) (f.span span)
  | .literal value type span => .literal (f.literal value) (f.type type) (f.span span)
  | .external ref typeArgs type span =>
      .external (f.ref ref) (f.typeArgs typeArgs) (f.type type) (f.span span)
  | .conditional condition trueCase falseCase type span =>
      .conditional condition trueCase falseCase (f.type type) (f.span span)
  | .not condition span => .not condition (f.span span)
  | .assertNotNull condition type span =>
      .assertNotNull condition (f.type type) (f.span span)
  | .cast value type span => .cast value (f.type type) (f.span span)
  | .function params body name type span =>
      .function (params.map (Param.relabel f)) body (f.functionName name) (f.type type)
        (f.span span)
  | .binary op lhs rhs type span => .binary op lhs rhs (f.type type) (f.span span)
  | .readProp receiver name type span =>
      .readProp receiver name (f.type type) (f.span span)
  | .readKey receiver index type span =>
      .readKey receiver index (f.type type) (f.span span)
  | .array entries type span => .array entries (f.type type) (f.span span)
  | .map entries type span =>
      .map (entries.map (MapEntry.relabelHeader f)) (f.type type) (f.span span)
  | .comma parts span => .comma parts (f.span span)

def Stmt.relabelNode (f : Relabel) : Stmt → Stmt
  | .declareVar name value type mods span =>
      .declareVar name value (f.type type) (f.mods mods) (f.span span)
  | .declareFunction name params body type mods span =>
      .declareFunction name (params.map (Param.relabel f)) body (f.type type)
        (f.mods mods) (f.span span)
  | .expr value span => .expr value (f.span span)
  | .ret value span => .ret value (f.span span)
  | .declareClass name parent fields getters ctor methods mods span =>
      .declareClass name parent (fields.map (Field.relabelHeader f))
        (getters.map (Getter.relabelHeader f)) (ctor.relabelHeader f)
        (methods.map (Method.relabelHeader f)) (f.mods mods) (f.span span)
  | .ifElse condition trueCase falseCase span =>
      .ifElse condition trueCase falseCase (f.span span)
  | .tryCatch body handler span => .tryCatch body handler (f.span span)
  | .throw error span => .throw error (f.span span)
  | .comment text multiline span =>
      .comment (f.commentText text) (f.commentStyle multiline) (f.span span)
  | .docComment tags span => .docComment (f.docTags tags) (f.span span)

section Members

variable (f g : Relabel)

@[simp] theorem Param.relabel_relabel (p : Param) :
    (p.relabel f).relabel g = p.relabel (f.andThen g) := by
  cases p
  rfl

theorem MapEntry.relabel_eq (entry : MapEntry) :
    entry.relabel f = (entry.mapValue (Expr.relabel f)).relabelHeader f := by
  cases entry
  rfl

theorem Field.relabel_eq (field : Field) :
    field.relabel f = (field.mapInitializer (Expr.relabel f)).relabelHeader f := by
  cases field
  simp [relabel, mapInitializer, relabelHeader]

theorem Getter.relabel_eq (getter : Getter) :
    getter.relabel f = (getter.mapBody (Stmt.relabel f)).relabelHeader f := by
  cases getter
  simp [relabel, mapBody, relabelHeader]

theorem Method.relabel_eq (method : Method) :
    method.relabel f = (method.mapBody (Stmt.relabel f)).relabelHeader f := by
  cases method
  simp [relabel, mapBody, relabelHeader]

end Members

theorem Expr.relabel_eq (f : Relabel) (e : Expr) :
    e.relabel f = (e.mapChildren (Expr.relabel f) (Stmt.relabel f)).relabelNode f := by
  cases e <;> simp [relabel, mapChildren, relabelNode, MapEntry.relabel_eq]

theorem Stmt.relabel_eq (f : Relabel) (s : Stmt) :
    s.relabel f = (s.mapChildren (Expr.relabel f) (Stmt.relabel f)).relabelNode f := by
  cases s <;>
    simp [relabel, mapChildren, relabelNode, Field.relabel_eq, Getter.relabel_eq,
      Method.relabel_eq]

/-! ## Composition -/

section Members

variable {f g : Relabel} {onExpr : Expr → Expr} {onStmt : Stmt → Stmt}

@[simp] theorem MapEntry.relabelHeader_relabelHeader (entry : MapEntry) :
    (entry.relabelHeader f).relabelHeader g = entry.relabelHeader (f.andThen g) := rfl

@[simp] theorem Field.relabelHeader_relabelHeader (field : Field) :
    (field.relabelHeader f).relabelHeader g = field.relabelHeader (f.andThen g) := by
  cases hf : f.keepInitializers <;> cases hg : g.keepInitializers <;>
    simp [relabelHeader, Relabel.andThen, hf, hg]

@[simp] theorem Getter.relabelHeader_relabelHeader (getter : Getter) :
    (getter.relabelHeader f).relabelHeader g = getter.relabelHeader (f.andThen g) := rfl

@[simp] theorem Method.relabelHeader_relabelHeader (method : Method) :
    (method.relabelHeader f).relabelHeader g = method.relabelHeader (f.andThen g) := by
  cases hf : f.keepMethodParams <;> cases hg : g.keepMethodParams <;>
    simp [relabelHeader, Relabel.andThen, hf, hg]

@[simp] theorem MapEntry.mapValue_relabelHeader (entry : MapEntry) :
    (entry.relabelHeader f).mapValue onExpr =
      (entry.mapValue onExpr).relabelHeader f := rfl

@[simp] theorem Field.mapInitializer_relabelHeader (field : Field) :
    (field.relabelHeader f).mapInitializer onExpr =
      (field.mapInitializer onExpr).relabelHeader f := by
  cases hf : f.keepInitializers <;> simp [relabelHeader, mapInitializer, hf]

@[simp] theorem Getter.mapBody_relabelHeader (getter : Getter) :
    (getter.relabelHeader f).mapBody onStmt =
      (getter.mapBody onStmt).relabelHeader f := rfl

@[simp] theorem Method.mapBody_relabelHeader (method : Method) :
    (method.relabelHeader f).mapBody onStmt =
      (method.mapBody onStmt).relabelHeader f := rfl

end Members

section Nodes

variable {f g : Relabel} {onExpr : Expr → Expr} {onStmt : Stmt → Stmt}

@[simp] theorem Expr.relabelNode_relabelNode (e : Expr) :
    (e.relabelNode f).relabelNode g = e.relabelNode (f.andThen g) := by
  cases e <;> simp [relabelNode] <;> simp [Relabel.andThen]

@[simp] theorem Stmt.relabelNode_relabelNode (s : Stmt) :
    (s.relabelNode f).relabelNode g = s.relabelNode (f.andThen g) := by
  cases s <;> simp [relabelNode] <;> simp [Relabel.andThen]

/-- What becomes of a node's own data does not depend on its children. -/
theorem Expr.mapChildren_relabelNode (e : Expr) :
    (e.relabelNode f).mapChildren onExpr onStmt =
      (e.mapChildren onExpr onStmt).relabelNode f := by
  cases e <;> simp [relabelNode, mapChildren]

theorem Stmt.mapChildren_relabelNode (s : Stmt) :
    (s.relabelNode f).mapChildren onExpr onStmt =
      (s.mapChildren onExpr onStmt).relabelNode f := by
  cases s <;> simp [relabelNode, mapChildren]

theorem Expr.relabel_mapChildren (e : Expr) :
    (e.mapChildren onExpr onStmt).relabel f =
      (e.relabelNode f).mapChildren (Expr.relabel f ∘ onExpr)
        (Stmt.relabel f ∘ onStmt) := by
  rw [relabel_eq, mapChildren_mapChildren, mapChildren_relabelNode]

theorem Stmt.relabel_mapChildren (s : Stmt) :
    (s.mapChildren onExpr onStmt).relabel f =
      (s.relabelNode f).mapChildren (Expr.relabel f ∘ onExpr)
        (Stmt.relabel f ∘ onStmt) := by
  rw [relabel_eq, mapChildren_mapChildren, mapChildren_relabelNode]

theorem Expr.children_relabelNode (e : Expr) :
    (e.relabelNode f).children = e.children := by
  cases e <;> simp [relabelNode, children, MapEntry.relabelHeader, Function.comp_def]

theorem Stmt.mem_children_of_mem_relabelNode {s : Stmt} {n : Node}
    (h : n ∈ (s.relabelNode f).children) : n ∈ s.children := by
  cases s with
  | declareClass name parent fields getters ctor methods mods span =>
      have hchildren : n ∈ parent.toList.map Node.expr ∨
          (f.keepInitializers = true ∧
            n ∈ fields.flatMap fun field => field.initializer.toList.map Node.expr) ∨
          n ∈ (getters.flatMap fun getter => getter.body.map Node.stmt) ++
            ctor.body.map Node.stmt ++
            methods.flatMap fun method => method.body.map Node.stmt := by
        cases hkeep : f.keepInitializers <;>
          simpa [relabelNode, children, Field.relabelHeader, Getter.relabelHeader,
            Method.relabelHeader, List.flatMap_map, hkeep, or_assoc] using h
      rw [children, List.append_assoc, List.append_assoc, List.append_assoc,
        List.mem_append, List.mem_append, ← List.append_assoc]
      exact hchildren.imp_right (Or.imp_left And.right)
  | _ => exact h

end Nodes

/-! ## Relabelling spans only -/

section Spans

variable {f : Option Span → Option Span}

@[simp] theorem Param.relabel_onSpans : Param.relabel (.onSpans f) = id := by
  funext p
  cases p
  rfl

@[simp] theorem MapEntry.relabelHeader_onSpans :
    MapEntry.relabelHeader (.onSpans f) = id := by
  funext entry
  cases entry
  rfl

@[simp] theorem Field.relabelHeader_onSpans : Field.relabelHeader (.onSpans f) = id := by
  funext field
  cases field
  rfl

@[simp] theorem Getter.relabelHeader_onSpans :
    Getter.relabelHeader (.onSpans f) = id := by
  funext getter
  cases getter
  rfl

@[simp] theorem Method.relabelHeader_onSpans :
    Method.relabelHeader (.onSpans f) = id := by
  funext method
  cases method
  simp [relabelHeader]

theorem Expr.relabelNode_onSpans (e : Expr) :
    e.relabelNode (.onSpans f) = e.withSpan (f e.span?) := by
  cases e <;> simp [relabelNode, withSpan, span?]

theorem Stmt.relabelNode_onSpans (s : Stmt) :
    s.relabelNode (.onSpans f) = s.withSpan (f s.span?) := by
  cases s <;> simp [relabelNode, withSpan, span?]

theorem Expr.withSpan_span? (e : Expr) : e.withSpan e.span? = e := by
  cases e <;> rfl

theorem Stmt.withSpan_span? (s : Stmt) : s.withSpan s.span? = s := by
  cases s <;> rfl

theorem Relabel.onSpans_id : onSpans id = {} := rfl

@[simp] theorem Expr.relabelNode_id (e : Expr) : e.relabelNode {} = e := by
  rw [← Relabel.onSpans_id, relabelNode_onSpans]
  exact e.withSpan_span?

@[simp] theorem Stmt.relabelNode_id (s : Stmt) : s.relabelNode {} = s := by
  rw [← Relabel.onSpans_id, relabelNode_onSpans]
  exact s.withSpan_span?

end Spans

/-! ## Relabelling whole trees -/

def Node.relabel (f : Relabel) : Node → Node
  | .expr e => .expr (e.relabel f)
  | .stmt s => .stmt (s.relabel f)

def Node.relabelNode (f : Relabel) : Node → Node
  | .expr e => .expr (e.relabelNode f)
  | .stmt s => .stmt (s.relabelNode f)

namespace Node

section Steps

variable {f g : Relabel} {onExpr : Expr → Expr} {onStmt : Stmt → Stmt}

theorem relabel_eq (f : Relabel) (n : Node) :
    n.relabel f = (n.mapChildren (Expr.relabel f) (Stmt.relabel f)).relabelNode f := by
  cases n with
  | expr e => exact congrArg expr (e.relabel_eq f)
  | stmt s => exact congrArg stmt (s.relabel_eq f)

theorem relabelNode_id (n : Node) : n.relabelNode {} = n := by
  cases n with
  | expr e => exact congrArg expr e.relabelNode_id
  | stmt s => exact congrArg stmt s.relabelNode_id

theorem relabelNode_relabelNode (n : Node) :
    (n.relabelNode f).relabelNode g = n.relabelNode (f.andThen g) := by
  cases n with
  | expr e => exact congrArg expr e.relabelNode_relabelNode
  | stmt s => exact congrArg stmt s.relabelNode_relabelNode

theorem mapChildren_relabelNode (n : Node) :
    (n.relabelNode f).mapChildren onExpr onStmt =
      (n.mapChildren onExpr onStmt).relabelNode f := by
  cases n with
  | expr e => exact congrArg expr e.mapChildren_relabelNode
  | stmt s => exact congrArg stmt s.mapChildren_relabelNode

theorem mem_children_of_mem_relabelNode {n c : Node}
    (h : c ∈ (n.relabelNode f).children) : c ∈ n.children := by
  cases n with
  | expr e => rwa [relabelNode, children, Expr.children_relabelNode] at h
  | stmt s => exact Stmt.mem_children_of_mem_relabelNode h

end Steps

theorem relabel_id (n : Node) : n.relabel {} = n := by
  induction n using Node.induction with
  | node n ih =>
      have hbelow : n.mapChildren (Expr.relabel {}) (Stmt.relabel {}) =
          n.mapChildren id id :=
        mapChildren_congr (fun c hc => expr.inj (ih (.expr c) hc))
          fun c hc => stmt.inj (ih (.stmt c) hc)
      rw [relabel_eq, relabelNode_id, hbelow, mapChildren_id]

theorem relabel_relabel (f g : Relabel) (n : Node) :
    (n.relabel f).relabel g = n.relabel (f.andThen g) := by
  induction n using Node.induction with
  | node n ih =>
      have hbelow : n.mapChildren (Expr.relabel g ∘ Expr.relabel f)
          (Stmt.relabel g ∘ Stmt.relabel f) =
            n.mapChildren (Expr.relabel (f.andThen g)) (Stmt.relabel (f.andThen g)) :=
        mapChildren_congr (fun c hc => expr.inj (ih (.expr c) hc))
          fun c hc => stmt.inj (ih (.stmt c) hc)
      calc
        (n.relabel f).relabel g =
            (((n.mapChildren (Expr.relabel f) (Stmt.relabel f)).relabelNode f).mapChildren
              (Expr.relabel g) (Stmt.relabel g)).relabelNode g := by
            rw [← relabel_eq, ← relabel_eq]
        _ = (n.mapChildren (Expr.relabel g ∘ Expr.relabel f)
              (Stmt.relabel g ∘ Stmt.relabel f)).relabelNode (f.andThen g) := by
            rw [mapChildren_relabelNode, mapChildren_mapChildren, relabelNode_relabelNode]
        _ = n.relabel (f.andThen g) := by
            rw [hbelow, ← relabel_eq]

theorem relabel_congr {f g : Relabel} {n : Node}
    (h : ∀ c ∈ n.postorder, c.relabelNode f = c.relabelNode g) :
    n.relabel f = n.relabel g := by
  induction n using Node.induction with
  | node n ih =>
      obtain ⟨hself, hbelow⟩ := forall_mem_postorder_iff.1 h
      have hchildren : ∀ c ∈ (n.relabelNode g).children, c.relabel f = c.relabel g := by
        intro c hc
        have hmem : c ∈ n.children := mem_children_of_mem_relabelNode hc
        exact ih c hmem (hbelow c hmem)
      calc
        n.relabel f =
            (n.relabelNode f).mapChildren (Expr.relabel f) (Stmt.relabel f) := by
            rw [relabel_eq, mapChildren_relabelNode]
        _ = (n.relabelNode g).mapChildren (Expr.relabel f) (Stmt.relabel f) := by
            rw [hself]
        _ = (n.relabelNode g).mapChildren (Expr.relabel g) (Stmt.relabel g) :=
            mapChildren_congr (fun c hc => expr.inj (hchildren (.expr c) hc))
              fun c hc => stmt.inj (hchildren (.stmt c) hc)
        _ = n.relabel g := by
            rw [mapChildren_relabelNode, ← relabel_eq]

end Node

theorem Tree.relabel_id :
    (∀ e : Expr, e.relabel {} = e) ∧ ∀ s : Stmt, s.relabel {} = s :=
  ⟨fun e => Node.expr.inj (Node.relabel_id (.expr e)),
    fun s => Node.stmt.inj (Node.relabel_id (.stmt s))⟩

section Composition

variable (f g : Relabel)

@[simp] theorem Expr.relabel_relabel (e : Expr) :
    (e.relabel f).relabel g = e.relabel (f.andThen g) :=
  Node.expr.inj (Node.relabel_relabel f g (.expr e))

@[simp] theorem Stmt.relabel_relabel (s : Stmt) :
    (s.relabel f).relabel g = s.relabel (f.andThen g) :=
  Node.stmt.inj (Node.relabel_relabel f g (.stmt s))

theorem Expr.relabel_comp_relabel :
    Expr.relabel g ∘ Expr.relabel f = Expr.relabel (f.andThen g) :=
  funext (Expr.relabel_relabel f g)

theorem Stmt.relabel_comp_relabel :
    Stmt.relabel g ∘ Stmt.relabel f = Stmt.relabel (f.andThen g) :=
  funext (Stmt.relabel_relabel f g)

theorem MapEntry.relabel_relabel (entry : MapEntry) :
    (entry.relabel f).relabel g = entry.relabel (f.andThen g) := by
  rw [relabel_eq, relabel_eq f, relabel_eq (f.andThen g), mapValue_relabelHeader,
    relabelHeader_relabelHeader, mapValue_mapValue, Expr.relabel_comp_relabel]

theorem Field.relabel_relabel (field : Field) :
    (field.relabel f).relabel g = field.relabel (f.andThen g) := by
  rw [relabel_eq, relabel_eq f, relabel_eq (f.andThen g), mapInitializer_relabelHeader,
    relabelHeader_relabelHeader, mapInitializer_mapInitializer, Expr.relabel_comp_relabel]

theorem Getter.relabel_relabel (getter : Getter) :
    (getter.relabel f).relabel g = getter.relabel (f.andThen g) := by
  rw [relabel_eq, relabel_eq f, relabel_eq (f.andThen g), mapBody_relabelHeader,
    relabelHeader_relabelHeader, mapBody_mapBody, Stmt.relabel_comp_relabel]

theorem Method.relabel_relabel (method : Method) :
    (method.relabel f).relabel g = method.relabel (f.andThen g) := by
  rw [relabel_eq, relabel_eq f, relabel_eq (f.andThen g), mapBody_relabelHeader,
    relabelHeader_relabelHeader, mapBody_mapBody, Stmt.relabel_comp_relabel]

end Composition

end CodeTree
