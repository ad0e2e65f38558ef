import CodeTree.Proofs.Tree.Relabel

namespace CodeTree

section Nodes

variable {f : Relabel}

@[simp] theorem MapEntry.value_relabel (entry : MapEntry) :
    (entry.relabel f).value = entry.value.relabel f := by
  cases entry
  rfl

theorem Field.initializer_relabel (hkeep : f.keepInitializers = true) (field : Field) :
    (field.relabel f).initializer = field.initializer.map (Expr.relabel f) := by
  cases field
  simp [relabel, hkeep]

@[simp] theorem Getter.body_relabel (getter : Getter) :
    (getter.relabel f).body = getter.body.map (Stmt.relabel f) := by
  cases getter
  simp [relabel]

@[simp] theorem Method.body_relabel (method : Method) :
    (method.relabel f).body = method.body.map (Stmt.relabel f) := by
  cases method
  simp [relabel]

theorem Expr.children_relabel (e : Expr) :
    (e.relabel f).children = e.children.map (Node.relabel f) := by
  cases e <;> simp [relabel, children, Node.relabel, Function.comp_def, Option.toList_map]

theorem Stmt.children_relabel (hkeep : f.keepInitializers = true) (s : Stmt) :
    (s.relabel f).children = s.children.map (Node.relabel f) := by
  cases s <;>
    simp [relabel, children, Node.relabel, Field.initializer_relabel hkeep,
      Function.comp_def, Option.toList_map, List.map_flatMap, List.flatMap_map]

theorem Stmt.children_relabel_of_kind_ne {s : Stmt} (hkind : s.kind ≠ .declareClass) :
    (s.relabel f).children = s.children.map (Node.relabel f) := by
  cases s with
  | declareClass => exact absurd rfl hkind
  | _ => simp [relabel, children, Node.relabel, Function.comp_def, Option.toList_map]

theorem Node.children_relabel (hkeep : f.keepInitializers = true) (n : Node) :
    (n.relabel f).children = n.children.map (Node.relabel f) := by
  cases n with
  | expr e => exact e.children_relabel
  | stmt s => exact s.children_relabel hkeep

theorem Node.postorder_relabel (hkeep : f.keepInitializers = true) (n : Node) :
    (n.relabel f).postorder = n.postorder.map (Node.relabel f) := by
  induction n using Node.induction with
  | node n ih =>
      have hbelow : (n.children.map (Node.relabel f)).flatMap Node.postorder =
          (n.children.flatMap Node.postorder).map (Node.relabel f) := by
        rw [List.flatMap_map, List.map_flatMap]
        exact List.flatMap_congr ih
      rw [postorder_eq, children_relabel hkeep, hbelow, postorder_eq n, List.map_append,
        List.map_singleton]

theorem Node.span?_relabel (n : Node) : (n.relabel f).span? = f.span n.span? := by
  cases n with
  | expr e => cases e <;> rfl
  | stmt s => cases s <;> rfl

end Nodes

def Expr.mapSpans (f : Option Span → Option Span) (e : Expr) : Expr :=
  e.relabel (.onSpans f)

def Stmt.mapSpans (f : Option Span → Option Span) (s : Stmt) : Stmt :=
  s.relabel (.onSpans f)

def Node.mapSpans (f : Option Span → Option Span) (n : Node) : Node :=
  n.relabel (.onSpans f)

section Spans

variable {f g : Option Span → Option Span}

theorem Node.mapSpans_mapSpans (n : Node) :
    (n.mapSpans f).mapSpans g = n.mapSpans (g ∘ f) :=
  n.relabel_relabel (.onSpans f) (.onSpans g)

theorem Node.map_span?_postorder_mapSpans (n : Node) :
    (n.mapSpans f).postorder.map Node.span? = n.postorder.map fun n => f n.span? := by
  rw [mapSpans, postorder_relabel rfl, List.map_map]
  exact List.map_congr_left fun c _ => c.span?_relabel

end Spans

end CodeTree
