import CodeTree.Proofs.Rebuild.Backfill
import CodeTree.Proofs.Rebuild.Nodewise
import CodeTree.Proofs.Tree.Conversions
import CodeTree.Proofs.Tree.ErasedSpans

/-!
# Types that are taken from operands

A tree is defaulted when, outside types, no node lacks a type that its operand could
give.  Functions that build trees make defaulted trees from defaulted ones.
-/

namespace CodeTree

/-! ## Defaulted trees -/

/-- The operand that a missing type is taken from. -/
def Expr.typeSource? : Expr → Option Expr
  | .writeVar _ value _ _ => some value
  | .writeKey _ _ value _ _ => some value
  | .writeProp _ _ value _ _ => some value
  | .conditional _ trueCase _ _ _ => some trueCase
  | .assertNotNull condition _ _ => some condition
  | .binary _ lhs _ _ _ => some lhs
  | _ => none

def Stmt.typeSource? : Stmt → Option Expr
  | .declareVar _ value _ _ _ => value
  | _ => none

def Stmt.annotation? : Stmt → Option Ty
  | .declareVar _ _ type _ _ => type
  | .declareFunction _ _ _ type _ _ => type
  | _ => none

namespace Node

def typeSource? : Node → Option Expr
  | .expr e => e.typeSource?
  | .stmt s => s.typeSource?

def annotation? : Node → Option Ty
  | .expr e => e.annotation?
  | .stmt s => s.annotation?

/-- The node does not lack a type that its operand has. -/
def TypeFilled (n : Node) : Prop :=
  ∀ operand, n.typeSource? = some operand → n.annotation? = none → operand.type? = none

/-- No node of the tree lacks a type that its operand has. -/
def Defaulted (n : Node) : Prop :=
  ∀ c ∈ n.postorder, c.TypeFilled

theorem defaulted_iff {n : Node} :
    n.Defaulted ↔ n.TypeFilled ∧ ∀ c ∈ n.children, c.Defaulted :=
  forall_mem_postorder_iff

/-! ## Nodes over defaulted children -/

section Filled

variable {n n' c : Node} {operand : Expr}

theorem typeFilled_of_no_source (h : n.typeSource? = none) : n.TypeFilled := by
  intro operand hsource
  rw [h] at hsource
  cases hsource

theorem typeFilled_of_default (given : Option Ty) (hsource : n.typeSource? = some operand)
    (htype : n.annotation? = given.or operand.type?) : n.TypeFilled := by
  intro operand' hsource' hmissing
  have hsame : operand' = operand := Option.some.inj (hsource'.symm.trans hsource)
  rw [htype, Option.or_eq_none_iff] at hmissing
  rw [hsame]
  exact hmissing.2

theorem Defaulted.of_children (hself : n.TypeFilled)
    (hchildren : ∀ c ∈ n.children, c.Defaulted) : n.Defaulted :=
  defaulted_iff.2 ⟨hself, hchildren⟩

theorem Defaulted.child (h : n.Defaulted) (hc : c ∈ n.children) : c.Defaulted :=
  (defaulted_iff.1 h).2 c hc

theorem Defaulted.of_same (h : n.Defaulted) (hsource : n'.typeSource? = n.typeSource?)
    (htype : n'.annotation? = n.annotation?) (hchildren : n'.children = n.children) :
    n'.Defaulted := by
  obtain ⟨hself, hbelow⟩ := defaulted_iff.1 h
  refine .of_children ?_ ?_
  · intro operand hoperand hmissing
    rw [hsource] at hoperand
    rw [htype] at hmissing
    exact hself operand hoperand hmissing
  · rw [hchildren]
    exact hbelow

end Filled
end Node

/-! ## Changing spans -/

section Spans

variable {f : Option Span → Option Span}

theorem Expr.type?_mapSpans (e : Expr) : (e.mapSpans f).type? = e.type? :=
  type?_relabel rfl rfl e

namespace Node

theorem typeSource?_mapSpans (n : Node) :
    (n.mapSpans f).typeSource? = n.typeSource?.map (Expr.mapSpans f) := by
  cases n with
  | expr e => cases e <;> rfl
  | stmt s =>
      cases s with
      | declareVar name value type mods span =>
          exact Tree.relabelOption_eq_map (.onSpans f) value
      | _ => rfl

theorem annotation?_mapSpans (n : Node) : (n.mapSpans f).annotation? = n.annotation? := by
  cases n with
  | expr e => cases e <;> rfl
  | stmt s => cases s <;> rfl

theorem TypeFilled.mapSpans {n : Node} (h : n.TypeFilled) :
    (n.mapSpans f).TypeFilled := by
  intro operand hoperand hmissing
  rw [typeSource?_mapSpans] at hoperand
  rw [annotation?_mapSpans] at hmissing
  obtain ⟨old, hold, rfl⟩ := Option.map_eq_some_iff.1 hoperand
  rw [Expr.type?_mapSpans]
  exact h old hold hmissing

theorem Defaulted.mapSpans {n : Node} (h : n.Defaulted) : (n.mapSpans f).Defaulted := by
  intro c hc
  have hmapped : c ∈ n.postorder.map (Node.mapSpans f) := by
    rw [Node.mapSpans, postorder_relabel rfl] at hc
    exact hc
  obtain ⟨old, hold, rfl⟩ := List.mem_map.1 hmapped
  exact (h old hold).mapSpans

theorem Defaulted.exprWithSpan {e : Expr} (h : (Node.expr e).Defaulted)
    (span : Option Span) : (Node.expr (e.withSpan span)).Defaulted := by
  apply h.of_same
  · cases e <;> rfl
  · cases e <;> rfl
  · cases e <;> rfl

theorem Defaulted.stmtWithSpan {s : Stmt} (h : (Node.stmt s).Defaulted)
    (span : Option Span) : (Node.stmt (s.withSpan span)).Defaulted := by
  apply h.of_same
  · cases s <;> rfl
  · cases s <;> rfl
  · cases s <;> rfl

theorem Defaulted.exprBackfill {e : Expr} (h : (Node.expr e).Defaulted)
    (span : Option Span) : (Node.expr (e.backfill span)).Defaulted := by
  cases span with
  | none => exact h
  | some span =>
      rw [Expr.backfill_eq_mapSpans]
      exact h.mapSpans

theorem Defaulted.stmtBackfill {s : Stmt} (h : (Node.stmt s).Defaulted)
    (span : Option Span) : (Node.stmt (s.backfill span)).Defaulted := by
  cases span with
  | none => exact h
  | some span =>
      rw [Stmt.backfill_eq_mapSpans]
      exact h.mapSpans

end Node
end Spans

theorem Expr.run_rebuild_identity (e : Expr) : Id.run (e.rebuild .identity) = e := by
  rw [Rebuild.identity_eq_relabel, (Tree.rebuild_relabel {}).1, Tree.relabel_id.1]
  rfl

theorem Stmt.run_rebuild_identity (s : Stmt) : Id.run (s.rebuild .identity) = s := by
  rw [Rebuild.identity_eq_relabel, (Tree.rebuild_relabel {}).2, Tree.relabel_id.2]
  rfl

/-! ## Building -/

/-- One call of a function that builds or changes a tree: the trees it takes and the
tree it makes.  Types are taken as they are. -/
inductive Construction : List Node → Node → Prop
  -- Every kind of expression from its parts.
  | readVar name type span : Construction [] (.expr (.readVar name type span))
  | writeVar name value type span :
      Construction [.expr value] (.expr (.mkWriteVar name value type span))
  | writeKey receiver index value type span :
      Construction [.expr receiver, .expr index, .expr value]
        (.expr (.mkWriteKey receiver index value type span))
  | writeProp receiver name value type span :
      Construction [.expr receiver, .expr value]
        (.expr (.mkWriteProp receiver name value type span))
  | callMethod receiver method args type span :
      Construction (.expr receiver :: args.map .expr)
        (.expr (.callMethod receiver method args type span))
  | call callee args type span :
      Construction (.expr callee :: args.map .expr) (.expr (.call callee args type span))
  | instantiate cls args type span :
      Construction (.expr cls :: args.map .expr) (.expr (.instantiate cls args type span))
  | literal value type span : Construction [] (.expr (.literal value type span))
  | external ref typeArgs type span :
      Construction [] (.expr (.external ref typeArgs type span))
  | conditional condition trueCase falseCase type span :
      Construction (.expr condition :: .expr trueCase :: falseCase.toList.map .expr)
        (.expr (.mkConditional condition trueCase falseCase type span))
  | not condition span : Construction [.expr condition] (.expr (.not condition span))
  | assertNotNull condition span :
      Construction [.expr condition] (.expr (.mkAssertNotNull condition span))
  | cast value type span : Construction [.expr value] (.expr (.cast value type span))
  | function params body name type span :
      Construction (body.map .stmt) (.expr (.function params body name type span))
  | binary op lhs rhs type span :
      Construction [.expr lhs, .expr rhs] (.expr (.mkBinary op lhs rhs type span))
  | readProp receiver name type span :
      Construction [.expr receiver] (.expr (.readProp receiver name type span))
  | readKey receiver index type span :
      Construction [.expr receiver, .expr index]
        (.expr (.readKey receiver index type span))
  | array entries type span :
      Construction (entries.map .expr) (.expr (.array entries type span))
  | map entries type span :
      Construction (entries.map fun entry => .expr entry.value)
        (.expr (.mkMap entries type span))
  | comma parts span : Construction (parts.map .expr) (.expr (.comma parts span))
  -- Every kind of statement from its parts.
  | declareVar name value type mods span :
      Construction (value.toList.map .expr)
        (.stmt (.mkDeclareVar name value type mods span))
  | declareFunction name params body type mods span :
      Construction (body.map .stmt)
        (.stmt (.declareFunction name params body type mods span))
  | expr value span : Construction [.expr value] (.stmt (.expr value span))
  | ret value span : Construction [.expr value] (.stmt (.ret value span))
  | declareClass name parent fields getters ctor methods mods span :
      Construction
        (Stmt.declareClass name parent fields getters ctor methods mods span).children
        (.stmt (.declareClass name parent fields getters ctor methods mods span))
  | ifElse condition trueCase falseCase span :
      Construction (.expr condition :: (trueCase.map .stmt ++ falseCase.map .stmt))
        (.stmt (.ifElse condition trueCase falseCase span))
  | tryCatch body handler span :
      Construction (body.map .stmt ++ handler.map .stmt)
        (.stmt (.tryCatch body handler span))
  | throw error span : Construction [.expr error] (.stmt (.throw error span))
  | comment text multiline span : Construction [] (.stmt (.comment text multiline span))
  | docComment tags span : Construction [] (.stmt (.docComment tags span))
  -- Fixed expressions.
  | this : Construction [] (.expr .this)
  | super : Construction [] (.expr .super)
  | catchError : Construction [] (.expr .catchError)
  | catchStack : Construction [] (.expr .catchStack)
  | null : Construction [] (.expr .null)
  | typedNull : Construction [] (.expr .typedNull)
  -- Short ways to write expressions and statements.
  | var name type span : Construction [] (.expr (.var name type span))
  | arrayOf entries : Construction (entries.map .expr) (.expr (.arrayOf entries))
  | mapOf entries type :
      Construction (entries.map fun entry => .expr entry.value)
        (.expr (.mapOf entries type))
  | imported ref typeArgs span : Construction [] (.expr (.imported ref typeArgs span))
  | branch condition trueCase falseCase :
      Construction
        (.expr condition :: (trueCase.map .stmt ++ (falseCase.getD []).map .stmt))
        (.stmt (.branch condition trueCase falseCase))
  -- Expressions and statements from an expression.
  | prop (e : Expr) name span : Construction [.expr e] (.expr (e.prop name span))
  | key (e : Expr) index type span :
      Construction [.expr e, .expr index] (.expr (e.key index type span))
  | invoke (e : Expr) method args span :
      Construction (.expr e :: args.map .expr) (.expr (e.invoke method args span))
  | apply (e : Expr) args span :
      Construction (.expr e :: args.map .expr) (.expr (e.apply args span))
  | construct (e : Expr) args type span :
      Construction (.expr e :: args.map .expr) (.expr (e.construct args type span))
  | choose (e : Expr) trueCase falseCase span :
      Construction (.expr e :: .expr trueCase :: falseCase.toList.map .expr)
        (.expr (e.choose trueCase falseCase span))
  | operate (e : Expr) op rhs span :
      Construction [.expr e, .expr rhs] (.expr (e.operate op rhs span))
  | isBlank (e : Expr) span : Construction [.expr e] (.expr (e.isBlank span))
  | castTo (e : Expr) type span : Construction [.expr e] (.expr (e.castTo type span))
  | toStmt (e : Expr) : Construction [.expr e] (.stmt e.toStmt)
  -- Writes from reads, and declarations from expressions.
  | assign {target value write : Expr} (hwrite : target.assign value = .ok write) :
      Construction [.expr target, .expr value] (.expr write)
  | toVarDecl {e : Expr} {type mods decl} (hdecl : e.toVarDecl? type mods = some decl) :
      Construction [.expr e] (.stmt decl)
  | toFunctionDecl {e : Expr} {name mods decl}
      (hdecl : e.toFunctionDecl? name mods = some decl) :
      Construction [.expr e] (.stmt decl)
  -- The same tree with other spans, or put together anew.
  | exprWithSpan (e : Expr) span : Construction [.expr e] (.expr (e.withSpan span))
  | stmtWithSpan (s : Stmt) span : Construction [.stmt s] (.stmt (s.withSpan span))
  | exprBackfill (e : Expr) span : Construction [.expr e] (.expr (e.backfill span))
  | stmtBackfill (s : Stmt) span : Construction [.stmt s] (.stmt (s.backfill span))
  | exprIdentity (e : Expr) :
      Construction [.expr e] (.expr (Id.run (e.rebuild .identity)))
  | stmtIdentity (s : Stmt) :
      Construction [.stmt s] (.stmt (Id.run (s.rebuild .identity)))

/-- What can be built, in any number of calls. -/
inductive Built : Node → Prop
  | made {taken : List Node} {n : Node} (call : Construction taken n)
      (htaken : ∀ c ∈ taken, Built c) : Built n

/-! ## One call -/

namespace Node

theorem typeFilled_mkDeclareVar (name : String) (value : Option Expr) (type : Option Ty)
    (mods : Modifiers) (span : Option Span) :
    (Node.stmt (.mkDeclareVar name value type mods span)).TypeFilled := by
  cases value with
  | none => exact typeFilled_of_no_source rfl
  | some value => exact typeFilled_of_default type rfl rfl

theorem defaulted_typedNull : (Node.expr .typedNull).Defaulted := by
  refine .of_children (typeFilled_of_no_source rfl) ?_
  intro c hc
  cases hc

section Conversions

variable {e target value write : Expr} {type : Option Ty} {name : String}
  {mods : Modifiers} {decl : Stmt}

theorem Defaulted.assign (htarget : (Node.expr target).Defaulted)
    (hvalue : (Node.expr value).Defaulted) (h : target.assign value = .ok write) :
    (Node.expr write).Defaulted := by
  rcases Expr.assign_eq_ok h with ⟨name, type, span, rfl, rfl⟩ |
    ⟨receiver, name, type, span, rfl, rfl⟩ | ⟨receiver, index, type, span, rfl, rfl⟩
  · have hchildren : ∀ c ∈ [Node.expr value], c.Defaulted := by
      simpa using hvalue
    exact .of_children (typeFilled_of_default none rfl rfl) hchildren
  · have hreceiver : (Node.expr receiver).Defaulted :=
      htarget.child (by simp [children, Expr.children])
    have hchildren : ∀ c ∈ [Node.expr receiver, .expr value], c.Defaulted := by
      simpa using ⟨hreceiver, hvalue⟩
    exact .of_children (typeFilled_of_default none rfl rfl) hchildren
  · have hreceiver : (Node.expr receiver).Defaulted :=
      htarget.child (by simp [children, Expr.children])
    have hindex : (Node.expr index).Defaulted :=
      htarget.child (by simp [children, Expr.children])
    have hchildren : ∀ c ∈ [Node.expr receiver, .expr index, .expr value],
        c.Defaulted := by
      simpa using ⟨hreceiver, hindex, hvalue⟩
    exact .of_children (typeFilled_of_default none rfl rfl) hchildren

theorem Defaulted.toVarDecl (he : (Node.expr e).Defaulted)
    (h : e.toVarDecl? type mods = some decl) : (Node.stmt decl).Defaulted := by
  obtain ⟨name, value, own, span, rfl, rfl⟩ := Expr.toVarDecl?_eq_some h
  have hvalue : ∀ c ∈ [Node.expr value], c.Defaulted := (defaulted_iff.1 he).2
  exact .of_children (typeFilled_mkDeclareVar name (some value) type mods span) hvalue

theorem Defaulted.toFunctionDecl (he : (Node.expr e).Defaulted)
    (h : e.toFunctionDecl? name mods = some decl) : (Node.stmt decl).Defaulted := by
  obtain ⟨params, body, own, type, span, rfl, rfl⟩ := Expr.toFunctionDecl?_eq_some h
  have hbody : ∀ c ∈ body.map Node.stmt, c.Defaulted := (defaulted_iff.1 he).2
  exact .of_children (typeFilled_of_no_source rfl) hbody

end Conversions
end Node

theorem Construction.defaulted {taken : List Node} {n : Node}
    (call : Construction taken n)
    (htaken : ∀ c ∈ taken, c.Defaulted) : n.Defaulted := by
  cases call with
  -- The type that is given, or else that of the operand.
  | writeVar name value type span | writeKey receiver index value type span
  | writeProp receiver name value type span
  | conditional condition trueCase falseCase type span | binary op lhs rhs type span =>
      exact .of_children (Node.typeFilled_of_default type rfl rfl) htaken
  | assertNotNull condition span | choose e trueCase falseCase span
  | operate e op rhs span =>
      exact .of_children (Node.typeFilled_of_default none rfl rfl) htaken
  | declareVar name value type mods span =>
      exact .of_children (Node.typeFilled_mkDeclareVar name value type mods span) htaken
  | isBlank e span =>
      have hoperand : (Node.expr e).Defaulted := htaken _ List.mem_cons_self
      have hchildren : ∀ c ∈ [Node.expr e, .expr .typedNull], c.Defaulted := by
        simpa using ⟨hoperand, Node.defaulted_typedNull⟩
      exact .of_children (Node.typeFilled_of_default none rfl rfl) hchildren
  | @assign target value write hwrite =>
      have htarget : (Node.expr target).Defaulted := htaken _ List.mem_cons_self
      have hvalue : (Node.expr value).Defaulted :=
        htaken _ (List.mem_cons_of_mem _ List.mem_cons_self)
      exact htarget.assign hvalue hwrite
  | toVarDecl hdecl => exact (htaken _ List.mem_cons_self).toVarDecl hdecl
  | toFunctionDecl hdecl => exact (htaken _ List.mem_cons_self).toFunctionDecl hdecl
  | exprWithSpan e span => exact (htaken _ List.mem_cons_self).exprWithSpan span
  | stmtWithSpan s span => exact (htaken _ List.mem_cons_self).stmtWithSpan span
  | exprBackfill e span => exact (htaken _ List.mem_cons_self).exprBackfill span
  | stmtBackfill s span => exact (htaken _ List.mem_cons_self).stmtBackfill span
  | exprIdentity e =>
      rw [e.run_rebuild_identity]
      exact htaken _ List.mem_cons_self
  | stmtIdentity s =>
      rw [s.run_rebuild_identity]
      exact htaken _ List.mem_cons_self
  -- All other nodes are of kinds without a default.
  | _ => exact .of_children (Node.typeFilled_of_no_source rfl) htaken

/-! ## Any number of calls -/

theorem Built.defaulted {n : Node} (h : Built n) : n.Defaulted := by
  induction h with
  | made call _ ih => exact call.defaulted ih

/-- Whatever is built is defaulted.  A defaulted tree stays defaulted with another span
at its root, with its missing spans filled in, and when it is put together anew. -/
theorem Tree.defaulted_by_construction :
    (∀ n, Built n → n.Defaulted) ∧
    (∀ e : Expr, (Node.expr e).Defaulted →
      (∀ span, (Node.expr (e.withSpan span)).Defaulted) ∧
      (∀ span, (Node.expr (e.backfill span)).Defaulted) ∧
      (Node.expr (Id.run (e.rebuild .identity))).Defaulted) ∧
    ∀ s : Stmt, (Node.stmt s).Defaulted →
      (∀ span, (Node.stmt (s.withSpan span)).Defaulted) ∧
      (∀ span, (Node.stmt (s.backfill span)).Defaulted) ∧
      (Node.stmt (Id.run (s.rebuild .identity))).Defaulted := by
  refine ⟨fun _ => Built.defaulted, ?exprs, ?stmts⟩
  case exprs =>
    intro e he
    refine ⟨he.exprWithSpan, he.exprBackfill, ?_⟩
    rw [e.run_rebuild_identity]
    exact he
  case stmts =>
    intro s hs
    refine ⟨hs.stmtWithSpan, hs.stmtBackfill, ?_⟩
    rw [s.run_rebuild_identity]
    exact hs

/-- A sequence of a variable and a negation, which is a `bool` although neither stores a
type. -/
def negatedLast : Expr :=
  .comma [.var "y" none none, .not (.var "z" none none) none] none

theorem built_negatedLast : Built (.expr negatedLast) := by
  have hvar : ∀ name, Built (.expr (.var name none none)) := by
    intro name
    exact .made (.var name none none) (by simp)
  have hnot : Built (.expr (.not (.var "z" none none) none)) :=
    .made (.not (.var "z" none none) none) (by simpa using hvar "z")
  refine .made (.comma [.var "y" none none, .not (.var "z" none none) none] none) ?_
  simpa using ⟨hvar "y", hnot⟩

/-- The write and the declaration of a variable take the type of the sequence.  A write
whose parts are stored directly does not. -/
theorem Tree.defaulted_negatedLast :
    let write : Expr := .mkWriteVar "x" negatedLast none none
    let decl : Stmt := .mkDeclareVar "x" (some negatedLast) none .none none
    Built (.expr write) ∧ Built (.stmt decl) ∧
      (Node.expr write).Defaulted ∧ (Node.stmt decl).Defaulted ∧
      (Node.expr (write.backfill none)).Defaulted ∧
        (Node.stmt (decl.withSpan none)).Defaulted ∧
      write.type? = some Ty.bool ∧ decl.annotation? = some Ty.bool ∧
      ¬ (Node.expr (.writeVar "x" negatedLast none none)).Defaulted := by
  intro write decl
  have htarget : Built (.expr (.var "x" none none)) :=
    .made (.var "x" none none) (by simp)
  have hassign : (Expr.var "x" none none).assign negatedLast = .ok write := rfl
  have hwrite : Built (.expr write) := by
    refine .made (.assign hassign) ?_
    simpa using ⟨htarget, built_negatedLast⟩
  have hdecl : Built (.stmt decl) := by
    refine .made (.toVarDecl (e := write) rfl) ?_
    simpa using hwrite
  have hwriteDefaulted := defaulted_by_construction.1 _ hwrite
  have hdeclDefaulted := defaulted_by_construction.1 _ hdecl
  refine ⟨hwrite, hdecl, hwriteDefaulted, hdeclDefaulted,
    (defaulted_by_construction.2.1 write hwriteDefaulted).2.1 none,
    (defaulted_by_construction.2.2 decl hdeclDefaulted).1 none, rfl, rfl, ?_⟩
  intro h
  have hfilled := (Node.defaulted_iff.1 h).1
  have hmissing : negatedLast.type? = none := hfilled negatedLast rfl rfl
  cases hmissing

end CodeTree
