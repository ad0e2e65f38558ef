import CodeTree.Proofs.Effects
import CodeTree.Proofs.Tree.Nodes

/-!
# Exchanging the children of a node

A node is put together again from other children, given by functions (`mapChildren`) or
computed one after the other (`mapChildrenM`).
-/

namespace CodeTree

def MapEntry.mapValue (onExpr : Expr → Expr) (entry : MapEntry) : MapEntry :=
  { entry with value := onExpr entry.value }

def Field.mapInitializer (onExpr : Expr → Expr) (field : Field) : Field :=
  { field with initializer := field.initializer.map onExpr }

def Getter.mapBody (onStmt : Stmt → Stmt) (getter : Getter) : Getter :=
  { getter with body := getter.body.map onStmt }

def Method.mapBody (onStmt : Stmt → Stmt) (method : Method) : Method :=
  { method with body := method.body.map onStmt }

def Expr.mapChildren (onExpr : Expr → Expr) (onStmt : Stmt → Stmt) : Expr → Expr
  | .readVar name type span => .readVar name type span
  | .writeVar name value type span => .writeVar name (onExpr value) type span
  | .writeKey receiver index value type span =>
      .writeKey (onExpr receiver) (onExpr index) (onExpr value) type span
  | .writeProp receiver name value type span =>
      .writeProp (onExpr receiver) name (onExpr value) type span
  | .callMethod receiver method args type span =>
      .callMethod (onExpr receiver) method (args.map onExpr) type span
  | .call callee args type span => .call (onExpr callee) (args.map onExpr) type span
  | .instantiate cls args type span =>
      .instantiate (onExpr cls) (args.map onExpr) type span
  | .literal value type span => .literal value type span
  | .external ref typeArgs type span => .external ref typeArgs type span
  | .conditional condition trueCase falseCase type span =>
      .conditional (onExpr condition) (onExpr trueCase) (falseCase.map onExpr) type span
  | .not condition span => .not (onExpr condition) span
  | .assertNotNull condition type span => .assertNotNull (onExpr condition) type span
  | .cast value type span => .cast (onExpr value) type span
  | .function params body name type span =>
      .function params (body.map onStmt) name type span
  | .binary op lhs rhs type span => .binary op (onExpr lhs) (onExpr rhs) type span
  | .readProp receiver name type span => .readProp (onExpr receiver) name type span
  | .readKey receiver index type span =>
      .readKey (onExpr receiver) (onExpr index) type span
  | .array entries type span => .array (entries.map onExpr) type span
  | .map entries type span => .map (entries.map (MapEntry.mapValue onExpr)) type span
  | .comma parts span => .comma (parts.map onExpr) span

def Stmt.mapChildren (onExpr : Expr → Expr) (onStmt : Stmt → Stmt) : Stmt → Stmt
  | .declareVar name value type mods span =>
      .declareVar name (value.map onExpr) type mods span
  | .declareFunction name params body type mods span =>
      .declareFunction name params (body.map onStmt) type mods span
  | .expr value span => .expr (onExpr value) span
  | .ret value span => .ret (onExpr value) span
  | .declareClass name parent fields getters ctor methods mods span =>
      .declareClass name (parent.map onExpr) (fields.map (Field.mapInitializer onExpr))
        (getters.map (Getter.mapBody onStmt)) (ctor.mapBody onStmt)
        (methods.map (Method.mapBody onStmt)) mods span
  | .ifElse condition trueCase falseCase span =>
      .ifElse (onExpr condition) (trueCase.map onStmt) (falseCase.map onStmt) span
  | .tryCatch body handler span => .tryCatch (body.map onStmt) (handler.map onStmt) span
  | .throw error span => .throw (onExpr error) span
  | .comment text multiline span => .comment text multiline span
  | .docComment tags span => .docComment tags span

section Monadic

variable {m : Type → Type} [Monad m]

def MapEntry.mapValueM (onExpr : Expr → m Expr) (entry : MapEntry) : m MapEntry := do
  let value ← onExpr entry.value
  return { entry with value }

def Field.mapInitializerM (onExpr : Expr → m Expr) (field : Field) : m Field := do
  let initializer ← field.initializer.mapM onExpr
  return { field with initializer }

def Getter.mapBodyM (onStmt : Stmt → m Stmt) (getter : Getter) : m Getter := do
  let body ← getter.body.mapM onStmt
  return { getter with body }

def Method.mapBodyM (onStmt : Stmt → m Stmt) (method : Method) : m Method := do
  let body ← method.body.mapM onStmt
  return { method with body }

def Expr.mapChildrenM (onExpr : Expr → m Expr) (onStmt : Stmt → m Stmt) : Expr → m Expr
  | .readVar name type span => return .readVar name type span
  | .writeVar name value type span => do
      let value ← onExpr value
      return .writeVar name value type span
  | .writeKey receiver index value type span => do
      let receiver ← onExpr receiver
      let index ← onExpr index
      let value ← onExpr value
      return .writeKey receiver index value type span
  | .writeProp receiver name value type span => do
      let receiver ← onExpr receiver
      let value ← onExpr value
      return .writeProp receiver name value type span
  | .callMethod receiver method args type span => do
      let receiver ← onExpr receiver
      let args ← args.mapM onExpr
      return .callMethod receiver method args type span
  | .call callee args type span => do
      let callee ← onExpr callee
      let args ← args.mapM onExpr
      return .call callee args type span
  | .instantiate cls args type span => do
      let cls ← onExpr cls
      let args ← args.mapM onExpr
      return .instantiate cls args type span
  | .literal value type span => return .literal value type span
  | .external ref typeArgs type span => return .external ref typeArgs type span
  | .conditional condition trueCase falseCase type span => do
      let condition ← onExpr condition
      let trueCase ← onExpr trueCase
      let falseCase ← falseCase.mapM onExpr
      return .conditional condition trueCase falseCase type span
  | .not condition span => do
      let condition ← onExpr condition
      return .not condition span
  | .assertNotNull condition type span => do
      let condition ← onExpr condition
      return .assertNotNull condition type span
  | .cast value type span => do
      let value ← onExpr value
      return .cast value type span
  | .function params body name type span => do
      let body ← body.mapM onStmt
      return .function params body name type span
  | .binary op lhs rhs type span => do
      let lhs ← onExpr lhs
      let rhs ← onExpr rhs
      return .binary op lhs rhs type span
  | .readProp receiver name type span => do
      let receiver ← onExpr receiver
      return .readProp receiver name type span
  | .readKey receiver index type span => do
      let receiver ← onExpr receiver
      let index ← onExpr index
      return .readKey receiver index type span
  | .array entries type span => do
      let entries ← entries.mapM onExpr
      return .array entries type span
  | .map entries type span => do
      let entries ← entries.mapM (MapEntry.mapValueM onExpr)
      return .map entries type span
  | .comma parts span => do
      let parts ← parts.mapM onExpr
      return .comma parts span

def Stmt.mapChildrenM (onExpr : Expr → m Expr) (onStmt : Stmt → m Stmt) : Stmt → m Stmt
  | .declareVar name value type mods span => do
      let value ← value.mapM onExpr
      return .declareVar name value type mods span
  | .declareFunction name params body type mods span => do
      let body ← body.mapM onStmt
      return .declareFunction name params body type mods span
  | .expr value span => do
      let value ← onExpr value
      return .expr value span
  | .ret value span => do
      let value ← onExpr value
      return .ret value span
  | .declareClass name parent fields getters ctor methods mods span => do
      let parent ← parent.mapM onExpr
      let fields ← fields.mapM (Field.mapInitializerM onExpr)
      let getters ← getters.mapM (Getter.mapBodyM onStmt)
      let ctor ← ctor.mapBodyM onStmt
      let methods ← methods.mapM (Method.mapBodyM onStmt)
      return .declareClass name parent fields getters ctor methods mods span
  | .ifElse condition trueCase falseCase span => do
      let condition ← onExpr condition
      let trueCase ← trueCase.mapM onStmt
      let falseCase ← falseCase.mapM onStmt
      return .ifElse condition trueCase falseCase span
  | .tryCatch body handler span => do
      let body ← body.mapM onStmt
      let handler ← handler.mapM onStmt
      return .tryCatch body handler span
  | .throw error span => do
      let error ← onExpr error
      return .throw error span
  | .comment text multiline span => return .comment text multiline span
  | .docComment tags span => return .docComment tags span

/-- The members of a class one after the other, methods as they are given. -/
def Stmt.mapMembersM (onExpr : Expr → m Expr) (onStmt : Stmt → m Stmt)
    (onMethod : Method → m Method) : Stmt → m Stmt
  | .declareClass name parent fields getters ctor methods mods span => do
      let parent ← parent.mapM onExpr
      let fields ← fields.mapM (Field.mapInitializerM onExpr)
      let getters ← getters.mapM (Getter.mapBodyM onStmt)
      let ctor ← onMethod ctor
      let methods ← methods.mapM onMethod
      return .declareClass name parent fields getters ctor methods mods span
  | s => s.mapChildrenM onExpr onStmt

theorem Stmt.mapMembersM_mapBodyM (onExpr : Expr → m Expr) (onStmt : Stmt → m Stmt)
    (s : Stmt) :
    s.mapMembersM onExpr onStmt (Method.mapBodyM onStmt) =
      s.mapChildrenM onExpr onStmt := by
  cases s <;> rfl

end Monadic

/-! ## Laws of exchanging children -/

section Laws

variable {f g : Expr → Expr} {f' g' : Stmt → Stmt}

theorem MapEntry.mapValue_congr {entry : MapEntry} (h : f entry.value = g entry.value) :
    entry.mapValue f = entry.mapValue g := by
  rw [mapValue, mapValue, h]

theorem Field.mapInitializer_congr {field : Field}
    (h : ∀ c ∈ field.initializer, f c = g c) :
    field.mapInitializer f = field.mapInitializer g := by
  rw [mapInitializer, mapInitializer, Option.map_congr h]

theorem Getter.mapBody_congr {getter : Getter} (h : ∀ c ∈ getter.body, f' c = g' c) :
    getter.mapBody f' = getter.mapBody g' := by
  rw [mapBody, mapBody, List.map_congr_left h]

theorem Method.mapBody_congr {method : Method} (h : ∀ c ∈ method.body, f' c = g' c) :
    method.mapBody f' = method.mapBody g' := by
  rw [mapBody, mapBody, List.map_congr_left h]

theorem Expr.mapChildren_congr {e : Expr} (hexpr : ∀ c, .expr c ∈ e.children → f c = g c)
    (hstmt : ∀ c, .stmt c ∈ e.children → f' c = g' c) :
    e.mapChildren f f' = e.mapChildren g g' := by
  cases e with
  | conditional condition trueCase falseCase type span =>
      have hfalse : falseCase.map f = falseCase.map g :=
        Option.map_congr fun c hc => hexpr c (by simp_all [children])
      simp_all [children, mapChildren]
  | map entries type span =>
      have hentries : ∀ entry ∈ entries, entry.mapValue f = entry.mapValue g :=
        fun entry hentry => MapEntry.mapValue_congr (hexpr _ (List.mem_map_of_mem hentry))
      rw [mapChildren, mapChildren, List.map_congr_left hentries]
  | _ => simp_all [children, mapChildren]

theorem Stmt.mapChildren_congr {s : Stmt} (hexpr : ∀ c, .expr c ∈ s.children → f c = g c)
    (hstmt : ∀ c, .stmt c ∈ s.children → f' c = g' c) :
    s.mapChildren f f' = s.mapChildren g g' := by
  cases s with
  | declareVar name value type mods span =>
      have hvalue : value.map f = value.map g :=
        Option.map_congr fun c hc => hexpr c (by simp_all [children])
      rw [mapChildren, mapChildren, hvalue]
  | declareClass name parent fields getters ctor methods mods span =>
      simp only [expr_mem_children_declareClass] at hexpr
      simp only [stmt_mem_children_declareClass] at hstmt
      have hparent : parent.map f = parent.map g :=
        Option.map_congr fun c hc => hexpr c (.inl hc)
      have hfields : ∀ field ∈ fields, field.mapInitializer f = field.mapInitializer g :=
        fun field hfield => Field.mapInitializer_congr fun c hc =>
          hexpr c (.inr ⟨field, hfield, hc⟩)
      have hgetters : ∀ getter ∈ getters, getter.mapBody f' = getter.mapBody g' :=
        fun getter hgetter => Getter.mapBody_congr fun c hc =>
          hstmt c (.inl ⟨getter, hgetter, hc⟩)
      have hctor : ctor.mapBody f' = ctor.mapBody g' :=
        Method.mapBody_congr fun c hc => hstmt c (.inr (.inl hc))
      have hmethods : ∀ method ∈ methods, method.mapBody f' = method.mapBody g' :=
        fun method hmethod => Method.mapBody_congr fun c hc =>
          hstmt c (.inr (.inr ⟨method, hmethod, hc⟩))
      rw [mapChildren, mapChildren, hparent, List.map_congr_left hfields,
        List.map_congr_left hgetters, hctor, List.map_congr_left hmethods]
  | _ => simp_all [children, mapChildren]

@[simp] theorem MapEntry.mapValue_id : MapEntry.mapValue id = id := by
  funext entry
  cases entry
  rfl

@[simp] theorem Field.mapInitializer_id : Field.mapInitializer id = id := by
  funext field
  cases field
  simp [mapInitializer]

@[simp] theorem Getter.mapBody_id : Getter.mapBody id = id := by
  funext getter
  cases getter
  simp [mapBody]

@[simp] theorem Method.mapBody_id : Method.mapBody id = id := by
  funext method
  cases method
  simp [mapBody]

@[simp] theorem Expr.mapChildren_id (e : Expr) : e.mapChildren id id = e := by
  cases e <;> simp [mapChildren]

@[simp] theorem Stmt.mapChildren_id (s : Stmt) : s.mapChildren id id = s := by
  cases s <;> simp [mapChildren]

@[simp] theorem MapEntry.mapValue_mapValue (entry : MapEntry) :
    (entry.mapValue f).mapValue g = entry.mapValue (g ∘ f) := rfl

@[simp] theorem Field.mapInitializer_mapInitializer (field : Field) :
    (field.mapInitializer f).mapInitializer g = field.mapInitializer (g ∘ f) := by
  simp [mapInitializer]

@[simp] theorem Getter.mapBody_mapBody (getter : Getter) :
    (getter.mapBody f').mapBody g' = getter.mapBody (g' ∘ f') := by
  simp [mapBody]

@[simp] theorem Method.mapBody_mapBody (method : Method) :
    (method.mapBody f').mapBody g' = method.mapBody (g' ∘ f') := by
  simp [mapBody]

@[simp] theorem Expr.mapChildren_mapChildren (e : Expr) :
    (e.mapChildren f f').mapChildren g g' = e.mapChildren (g ∘ f) (g' ∘ f') := by
  cases e <;> simp [mapChildren]

@[simp] theorem Stmt.mapChildren_mapChildren (s : Stmt) :
    (s.mapChildren f f').mapChildren g g' = s.mapChildren (g ∘ f) (g' ∘ f') := by
  cases s <;> simp [mapChildren]

def Node.mapChildren (onExpr : Expr → Expr) (onStmt : Stmt → Stmt) : Node → Node
  | .expr e => .expr (e.mapChildren onExpr onStmt)
  | .stmt s => .stmt (s.mapChildren onExpr onStmt)

theorem Node.mapChildren_congr {n : Node} (hexpr : ∀ c, .expr c ∈ n.children → f c = g c)
    (hstmt : ∀ c, .stmt c ∈ n.children → f' c = g' c) :
    n.mapChildren f f' = n.mapChildren g g' := by
  cases n with
  | expr e => exact congrArg expr (Expr.mapChildren_congr hexpr hstmt)
  | stmt s => exact congrArg stmt (Stmt.mapChildren_congr hexpr hstmt)

theorem Node.mapChildren_id (n : Node) : n.mapChildren id id = n := by
  cases n with
  | expr e => exact congrArg expr e.mapChildren_id
  | stmt s => exact congrArg stmt s.mapChildren_id

theorem Node.mapChildren_mapChildren (n : Node) :
    (n.mapChildren f f').mapChildren g g' = n.mapChildren (g ∘ f) (g' ∘ f') := by
  cases n with
  | expr e => exact congrArg expr e.mapChildren_mapChildren
  | stmt s => exact congrArg stmt s.mapChildren_mapChildren

end Laws

/-! ## Children that are computed -/

section Pure

open Effects

variable {m : Type → Type} [Monad m] [LawfulMonad m] {f : Expr → Expr} {f' : Stmt → Stmt}
  {F : Expr → m Expr} {F' : Stmt → m Stmt}

theorem MapEntry.mapValueM_eq_pure {entry : MapEntry}
    (h : F entry.value = pure (f entry.value)) :
    entry.mapValueM F = pure (entry.mapValue f) := by
  simp [mapValueM, mapValue, h]

theorem Field.mapInitializerM_eq_pure {field : Field}
    (h : ∀ c ∈ field.initializer, F c = pure (f c)) :
    field.mapInitializerM F = pure (field.mapInitializer f) := by
  simp [mapInitializerM, mapInitializer, optionMapM_eq_pure_map h]

theorem Getter.mapBodyM_eq_pure {getter : Getter}
    (h : ∀ c ∈ getter.body, F' c = pure (f' c)) :
    getter.mapBodyM F' = pure (getter.mapBody f') := by
  simp [mapBodyM, mapBody, mapM_eq_pure_map h]

theorem Method.mapBodyM_eq_pure {method : Method}
    (h : ∀ c ∈ method.body, F' c = pure (f' c)) :
    method.mapBodyM F' = pure (method.mapBody f') := by
  simp [mapBodyM, mapBody, mapM_eq_pure_map h]

theorem Expr.mapChildrenM_eq_pure {e : Expr}
    (hexpr : ∀ c, .expr c ∈ e.children → F c = pure (f c))
    (hstmt : ∀ c, .stmt c ∈ e.children → F' c = pure (f' c)) :
    e.mapChildrenM F F' = pure (e.mapChildren f f') := by
  have hexprs : ∀ es : List Expr, (∀ c ∈ es, F c = pure (f c)) →
      es.mapM F = pure (es.map f) :=
    fun _ => mapM_eq_pure_map
  have hstmts : ∀ ss : List Stmt, (∀ c ∈ ss, F' c = pure (f' c)) →
      ss.mapM F' = pure (ss.map f') :=
    fun _ => mapM_eq_pure_map
  cases e with
  | conditional condition trueCase falseCase type span =>
      have hfalse : falseCase.mapM F = pure (falseCase.map f) :=
        optionMapM_eq_pure_map fun c hc => hexpr c (by simp_all [children])
      simp_all [children, mapChildrenM, mapChildren]
  | map entries type span =>
      have hentries : ∀ entry ∈ entries, entry.mapValueM F = pure (entry.mapValue f) :=
        fun entry hentry =>
          MapEntry.mapValueM_eq_pure (hexpr _ (List.mem_map_of_mem hentry))
      simp [mapChildrenM, mapChildren, mapM_eq_pure_map hentries]
  | _ => simp_all [children, mapChildrenM, mapChildren]

theorem Stmt.mapChildrenM_eq_pure {s : Stmt}
    (hexpr : ∀ c, .expr c ∈ s.children → F c = pure (f c))
    (hstmt : ∀ c, .stmt c ∈ s.children → F' c = pure (f' c)) :
    s.mapChildrenM F F' = pure (s.mapChildren f f') := by
  have hstmts : ∀ ss : List Stmt, (∀ c ∈ ss, F' c = pure (f' c)) →
      ss.mapM F' = pure (ss.map f') :=
    fun _ => mapM_eq_pure_map
  cases s with
  | declareVar name value type mods span =>
      have hvalue : value.mapM F = pure (value.map f) :=
        optionMapM_eq_pure_map fun c hc => hexpr c (by simp_all [children])
      simp [mapChildrenM, mapChildren, hvalue]
  | declareClass name parent fields getters ctor methods mods span =>
      simp only [expr_mem_children_declareClass] at hexpr
      simp only [stmt_mem_children_declareClass] at hstmt
      have hparent : parent.mapM F = pure (parent.map f) :=
        optionMapM_eq_pure_map fun c hc => hexpr c (.inl hc)
      have hfields : ∀ field ∈ fields,
          field.mapInitializerM F = pure (field.mapInitializer f) :=
        fun field hfield => Field.mapInitializerM_eq_pure fun c hc =>
          hexpr c (.inr ⟨field, hfield, hc⟩)
      have hgetters : ∀ getter ∈ getters, getter.mapBodyM F' = pure (getter.mapBody f') :=
        fun getter hgetter => Getter.mapBodyM_eq_pure fun c hc =>
          hstmt c (.inl ⟨getter, hgetter, hc⟩)
      have hctor : ctor.mapBodyM F' = pure (ctor.mapBody f') :=
        Method.mapBodyM_eq_pure fun c hc => hstmt c (.inr (.inl hc))
      have hmethods : ∀ method ∈ methods, method.mapBodyM F' = pure (method.mapBody f') :=
        fun method hmethod => Method.mapBodyM_eq_pure fun c hc =>
          hstmt c (.inr (.inr ⟨method, hmethod, hc⟩))
      simp [mapChildrenM, mapChildren, hparent, mapM_eq_pure_map hfields,
        mapM_eq_pure_map hgetters, hctor, mapM_eq_pure_map hmethods]
  | _ => simp_all [children, mapChildrenM, mapChildren]

end Pure

section Stateful

open Effects

variable {σ : Type} {f g : Expr → Expr} {f' g' : Stmt → Stmt} {F : Expr → StateM σ Expr}
  {F' : Stmt → StateM σ Stmt}

theorem MapEntry.mapValue_result_mapValueM {entry : MapEntry}
    (h : ∀ s, f (result (F entry.value) s) = g entry.value) (s : σ) :
    (result (entry.mapValueM F) s).mapValue f = entry.mapValue g := by
  simp [mapValueM, mapValue, h]

theorem Field.mapInitializer_result_mapInitializerM {field : Field}
    (h : ∀ c ∈ field.initializer, ∀ s, f (result (F c) s) = g c) (s : σ) :
    (result (field.mapInitializerM F) s).mapInitializer f = field.mapInitializer g := by
  simp [mapInitializerM, mapInitializer, map_result_optionMapM h]

theorem Getter.mapBody_result_mapBodyM {getter : Getter}
    (h : ∀ c ∈ getter.body, ∀ s, f' (result (F' c) s) = g' c) (s : σ) :
    (result (getter.mapBodyM F') s).mapBody f' = getter.mapBody g' := by
  simp [mapBodyM, mapBody, map_result_mapM h]

theorem Method.mapBody_result_mapBodyM {method : Method}
    (h : ∀ c ∈ method.body, ∀ s, f' (result (F' c) s) = g' c) (s : σ) :
    (result (method.mapBodyM F') s).mapBody f' = method.mapBody g' := by
  simp [mapBodyM, mapBody, map_result_mapM h]

/-- Where every child goes to a node that looks the same, the node goes to one that
looks the same but for its children, whatever states the computation goes through. -/
theorem Expr.mapChildren_result_mapChildrenM {e : Expr}
    (hexpr : ∀ c, .expr c ∈ e.children → ∀ s, f (result (F c) s) = g c)
    (hstmt : ∀ c, .stmt c ∈ e.children → ∀ s, f' (result (F' c) s) = g' c) (s : σ) :
    (result (e.mapChildrenM F F') s).mapChildren f f' = e.mapChildren g g' := by
  cases e with
  | conditional condition trueCase falseCase type span =>
      have hfalse : ∀ s, (result (falseCase.mapM F) s).map f = falseCase.map g :=
        map_result_optionMapM fun c hc => hexpr c (by simp_all [children])
      simp_all [children, mapChildrenM, mapChildren]
  | map entries type span =>
      have hentries : ∀ entry ∈ entries, ∀ s,
          (result (entry.mapValueM F) s).mapValue f = entry.mapValue g :=
        fun entry hentry => MapEntry.mapValue_result_mapValueM
          (hexpr _ (List.mem_map_of_mem hentry))
      simp [mapChildrenM, mapChildren, map_result_mapM hentries]
  | _ => simp_all [children, mapChildrenM, mapChildren, map_result_mapM]

theorem Stmt.mapChildren_result_mapChildrenM {stmt : Stmt}
    (hexpr : ∀ c, .expr c ∈ stmt.children → ∀ s, f (result (F c) s) = g c)
    (hstmt : ∀ c, .stmt c ∈ stmt.children → ∀ s, f' (result (F' c) s) = g' c) (s : σ) :
    (result (stmt.mapChildrenM F F') s).mapChildren f f' = stmt.mapChildren g g' := by
  cases stmt with
  | declareVar name value type mods span =>
      have hvalue : ∀ s, (result (value.mapM F) s).map f = value.map g :=
        map_result_optionMapM fun c hc => hexpr c (by simp_all [children])
      simp [mapChildrenM, mapChildren, hvalue]
  | declareClass name parent fields getters ctor methods mods span =>
      simp only [expr_mem_children_declareClass] at hexpr
      simp only [stmt_mem_children_declareClass] at hstmt
      have hparent : ∀ s, (result (parent.mapM F) s).map f = parent.map g :=
        map_result_optionMapM fun c hc => hexpr c (.inl hc)
      have hfields : ∀ field ∈ fields, ∀ s,
          (result (field.mapInitializerM F) s).mapInitializer f =
            field.mapInitializer g :=
        fun field hfield => Field.mapInitializer_result_mapInitializerM fun c hc =>
          hexpr c (.inr ⟨field, hfield, hc⟩)
      have hgetters : ∀ getter ∈ getters, ∀ s,
          (result (getter.mapBodyM F') s).mapBody f' = getter.mapBody g' :=
        fun getter hgetter => Getter.mapBody_result_mapBodyM fun c hc =>
          hstmt c (.inl ⟨getter, hgetter, hc⟩)
      have hctor : ∀ s, (result (ctor.mapBodyM F') s).mapBody f' = ctor.mapBody g' :=
        Method.mapBody_result_mapBodyM fun c hc => hstmt c (.inr (.inl hc))
      have hmethods : ∀ method ∈ methods, ∀ s,
          (result (method.mapBodyM F') s).mapBody f' = method.mapBody g' :=
        fun method hmethod => Method.mapBody_result_mapBodyM fun c hc =>
          hstmt c (.inr (.inr ⟨method, hmethod, hc⟩))
      simp [mapChildrenM, mapChildren, hparent, map_result_mapM hfields,
        map_result_mapM hgetters, hctor, map_result_mapM hmethods]
  | _ => simp_all [children, mapChildrenM, mapChildren, map_result_mapM]

end Stateful

end CodeTree
