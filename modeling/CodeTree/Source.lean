namespace CodeTree

namespace Text

/-- The characters before and after the cut at a byte offset. -/
def cutAt? : Nat → List Char → Option (List Char × List Char)
  | 0, cs => some ([], cs)
  | _ + 1, [] => none
  | n + 1, c :: cs =>
      if c.utf8Size ≤ n + 1 then
        match cutAt? (n + 1 - c.utf8Size) cs with
        | some (before, after) => some (c :: before, after)
        | none => none
      else none

def slice? (lo hi : Nat) (cs : List Char) : Option (List Char) :=
  if lo ≤ hi then
    match cutAt? lo cs with
    | some (_, rest) =>
        match cutAt? (hi - lo) rest with
        | some (middle, _) => some middle
        | none => none
    | none => none
  else none

end Text

structure SourceFile where
  content : String
  url : String
deriving DecidableEq

/-- The offset counts the bytes of the UTF-8 form of the content. -/
structure Location where
  file : SourceFile
  offset : UInt64
  line : UInt64
  col : UInt64
deriving DecidableEq

/-- A stretch of source text, with an optional remark on it. -/
structure Span where
  start : Location
  stop : Location
  details : Option String
deriving DecidableEq

/-- A location is shown as `url@line:col`. -/
def Location.display (l : Location) : String :=
  l.file.url ++ "@" ++ Nat.repr l.line.toNat ++ ":" ++ Nat.repr l.col.toNat

/-- The text a span covers in the file of its start; empty when the offsets cut no text
out. -/
def Span.text (s : Span) : String :=
  match Text.slice? s.start.offset.toNat s.stop.offset.toNat
      s.start.file.content.toList with
  | some cs => String.ofList cs
  | none => ""

def Span.display (s : Span) : String :=
  s.text

end CodeTree
