import CodeTree.Json.Text
import CodeTree.Source

namespace CodeTree

namespace SourceFile

def toJson (f : SourceFile) : Json :=
  .object [("content", .string f.content), ("url", .string f.url)]

def ofValues? (content url : Json) : Option SourceFile := do
  let content ← content.string?
  let url ← url.string?
  return { content, url }

def ofJson? : Json → Option SourceFile
  | .object members => do
      ofValues? (← Json.member? "content" members) (← Json.member? "url" members)
  | .array [content, url] => ofValues? content url
  | _ => none

end SourceFile

namespace Location

def toJson (l : Location) : Json :=
  .object [("file", l.file.toJson), ("offset", .count l.offset.toNat),
    ("line", .count l.line.toNat), ("col", .count l.col.toNat)]

def ofValues? (file offset line col : Json) : Option Location := do
  let file ← SourceFile.ofJson? file
  let offset ← offset.word?
  let line ← line.word?
  let col ← col.word?
  return { file, offset, line, col }

def ofJson? : Json → Option Location
  | .object members => do
      ofValues? (← Json.member? "file" members) (← Json.member? "offset" members)
        (← Json.member? "line" members) (← Json.member? "col" members)
  | .array [file, offset, line, col] => ofValues? file offset line col
  | _ => none

end Location

namespace Span

def toJson (s : Span) : Json :=
  .object [("start", s.start.toJson), ("end", s.stop.toJson),
    ("details", match s.details with
      | some details => .string details
      | none => .null)]

def ofValues? (start stop details : Json) : Option Span := do
  let start ← Location.ofJson? start
  let stop ← Location.ofJson? stop
  let details ← details.optionalString?
  return { start, stop, details }

def ofJson? : Json → Option Span
  | .object members => do
      ofValues? (← Json.member? "start" members) (← Json.member? "end" members)
        ((Json.member? "details" members).getD .null)
  | .array [start, stop, details] => ofValues? start stop details
  | _ => none

end Span
end CodeTree
