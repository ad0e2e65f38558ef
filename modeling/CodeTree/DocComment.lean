import CodeTree.Kind

/-!
# Documentation comments

The body of a comment stands between the `/*` and `*/` that a printer adds.  It has one
line for each tag and one more for each line break inside a tag.
-/

namespace CodeTree

inductive KnownTag where
  | desc
  | id
  | meaning
deriving DecidableEq

def KnownTag.name : KnownTag → String
  | .desc => "desc"
  | .id => "id"
  | .meaning => "meaning"

/-- A stretch of plain text, or a name with an optional text. -/
inductive DocTag where
  | text (note : String)
  | named (name : String) (note : Option String)
deriving DecidableEq

namespace DocTag

def known (tag : KnownTag) (note : Option String) : DocTag :=
  .named tag.name note

/-- The marker that opens a named tag.  An empty name has none. -/
def marker : DocTag → List Char
  | .text _ => []
  | .named name _ =>
      match name.toList with
      | [] => []
      | cs => ' ' :: '@' :: cs

def note : DocTag → String
  | .text s => s
  | .named _ (some s) => s
  | .named _ none => ""

end DocTag

namespace DocComment

/-- Whether a text contains `/*` or `*/`. -/
def hasDelimiter : List Char → Bool
  | '/' :: '*' :: _ => true
  | '*' :: '/' :: _ => true
  | _ :: cs => hasDelimiter cs
  | [] => false

def escapeAt (cs : List Char) : List Char :=
  cs.flatMap fun c => if c = '@' then ['\\', '@'] else [c]

/-- A line break goes on to a line of the same comment. -/
def continueLines (cs : List Char) : List Char :=
  cs.flatMap fun c => if c = '\n' then ['\n', ' ', '*', ' '] else [c]

def written (note : List Char) : List Char :=
  match note with
  | [] => []
  | cs => ' ' :: escapeAt cs

def tagText (tag : DocTag) : Except TreeError (List Char) :=
  if hasDelimiter tag.note.toList then .error (.delimiterInDocText tag.note)
  else .ok (tag.marker ++ written tag.note.toList)

def lines : List DocTag → Except TreeError (List Char)
  | [] => .ok []
  | tag :: tags => do
      let text ← tagText tag
      let rest ← lines tags
      return [' ', '*'] ++ continueLines text ++ '\n' :: rest

/-- The body of a comment.  The first tag whose text has a delimiter is the one that is
refused. -/
def body : List DocTag → Except TreeError String
  | [] => .ok ""
  | tag :: tags => do
      let text ← lines (tag :: tags)
      return String.ofList ('*' :: '\n' :: text ++ [' '])

/-- Two comments are equivalent when they have one body, or, where a tag is refused, the
same tags. -/
def equiv (a b : List DocTag) : Bool :=
  match body a, body b with
  | .ok s, .ok t => s == t
  | _, _ => decide (a = b)

end DocComment
end CodeTree
