namespace CodeTree

/-- A whole number that is not negative is a `count`; others keep their written form. -/
inductive Json where
  | null
  | bool (value : Bool)
  | count (value : Nat)
  | number (written : String)
  | string (value : String)
  | array (items : List Json)
  | object (members : List (String × Json))
deriving Inhabited

namespace Json

/-- The member of an object with a given name.  The last of several counts. -/
def member? (name : String) : List (String × Json) → Option Json
  | [] => none
  | (key, value) :: rest =>
      match member? name rest with
      | some later => some later
      | none => if key = name then some value else none

def string? : Json → Option String
  | .string s => some s
  | _ => none

def word? : Json → Option UInt64
  | .count n => if n ≤ 0xffffffffffffffff then some (UInt64.ofNat n) else none
  | _ => none

/-- A string that may be absent: `null` stands for none. -/
def optionalString? : Json → Option (Option String)
  | .null => some none
  | .string s => some (some s)
  | _ => none

/-! ## Text -/

def hexDigits (width n : Nat) : List Char :=
  let digits := Nat.toDigits 16 n
  List.replicate (width - digits.length) '0' ++ digits

def escapeChar (c : Char) : List Char :=
  if c = '"' then ['\\', '"']
  else if c = '\\' then ['\\', '\\']
  else if c.toNat < 0x20 || c.toNat == 0x85 || c.toNat == 0x2028 || c.toNat == 0x2029 then
    '\\' :: 'u' :: hexDigits 4 c.toNat
  else [c]

def writeString (s : String) : String :=
  String.ofList ('"' :: s.toList.flatMap escapeChar ++ ['"'])

mutual

def write (out : String) : Json → String
  | .null => out ++ "null"
  | .bool true => out ++ "true"
  | .bool false => out ++ "false"
  | .count n => out ++ Nat.repr n
  | .number written => out ++ written
  | .string s => out ++ writeString s
  | .array items => writeItems (out ++ "[") items ++ "]"
  | .object members => writeMembers (out ++ "\x7b") members ++ "\x7d"

def writeItems (out : String) : List Json → String
  | [] => out
  | [item] => item.write out
  | item :: next :: items => writeItems (item.write out ++ ",") (next :: items)

def writeMembers (out : String) : List (String × Json) → String
  | [] => out
  | [(name, value)] => value.write (out ++ writeString name ++ ":")
  | (name, value) :: next :: members =>
      writeMembers (value.write (out ++ writeString name ++ ":") ++ ",") (next :: members)

end

end Json

end CodeTree
