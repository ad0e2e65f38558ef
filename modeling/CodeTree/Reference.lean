import CodeTree.Text.Quoted

namespace CodeTree

inductive BuiltinVar where
  | this
  | super
  | catchError
  | catchStack
deriving DecidableEq

def BuiltinVar.name : BuiltinVar → String
  | .this => "This"
  | .super => "Super"
  | .catchError => "CatchError"
  | .catchStack => "CatchStack"

inductive VarName where
  | named (name : String)
  | builtin (target : BuiltinVar)
deriving DecidableEq

inductive BuiltinMethod where
  | concatArray
  | subscribeObservable
  | bind
deriving DecidableEq

def BuiltinMethod.name : BuiltinMethod → String
  | .concatArray => "ConcatArray"
  | .subscribeObservable => "SubscribeObservable"
  | .bind => "Bind"

inductive MethodName where
  | named (name : String)
  | builtin (method : BuiltinMethod)
deriving DecidableEq

/-- A runtime value known only by the token that stands for it. -/
structure RuntimeHandle where
  token : String
deriving DecidableEq

structure ExternalRef where
  moduleName : Option String
  name : Option String
  runtime : Option RuntimeHandle
deriving DecidableEq

namespace ExternalRef

def describeName : Option String → String
  | none => "None"
  | some name => "Some(" ++ Text.quote name ++ ")"

def describeRuntime : Option RuntimeHandle → String
  | none => "None"
  | some _ => "Some(\"..\")"

def describe (r : ExternalRef) : String :=
  "ExternalReference \x7b module_name: " ++ describeName r.moduleName ++ ", name: " ++
    describeName r.name ++ ", runtime: " ++ describeRuntime r.runtime ++ " \x7d"

end ExternalRef

end CodeTree
