import DiddiGo.Data.Json

/-!
# JSON texts

`json.dumps(j, sort_keys=True, separators=(",", ":"))`: members in the order of their keys, no blanks, and
escapes for everything outside printable ASCII.
-/

namespace DiddiGo.Data.Json

/-- Four hexadecimal digits. -/
def hex4 (n : Nat) : String :=
  String.ofList ([4096, 256, 16, 1].map fun p => "0123456789abcdef".toList.getD (n / p % 16) '0')

/-- The escape of a code unit. -/
def unicodeEscape (n : Nat) : List Char := Char.ofNat 92 :: 'u' :: (hex4 n).toList

/-- A character of a text, between the quotes. -/
def escape (c : Char) : List Char :=
  match c.toNat with
  | 34 => [Char.ofNat 92, Char.ofNat 34]
  | 92 => [Char.ofNat 92, Char.ofNat 92]
  | 8 => [Char.ofNat 92, 'b']
  | 9 => [Char.ofNat 92, 't']
  | 10 => [Char.ofNat 92, 'n']
  | 12 => [Char.ofNat 92, 'f']
  | 13 => [Char.ofNat 92, 'r']
  | n =>
    if 32 ≤ n ∧ n ≤ 126 then [c]
    else if n < 65536 then unicodeEscape n
    -- Beyond the first plane a character is written as two surrogates.
    else unicodeEscape (55296 + (n - 65536) / 1024) ++ unicodeEscape (56320 + (n - 65536) % 1024)

/-- A text in quotes. -/
def quote (s : String) : String :=
  String.ofList (Char.ofNat 34 :: (s.toList.flatMap escape ++ [Char.ofNat 34]))

/-- The text of a value, and the texts of its items or members. -/
structure Rendering where
  text : String
  items : List String := []
  members : List (String × String) := []

/-- The text of an array. -/
def arrayText (items : List String) : String := "[" ++ ",".intercalate items ++ "]"

/-- The text of an object. -/
def objectText (members : List (String × String)) : String :=
  "\x7b" ++ ",".intercalate (members.map fun m => quote m.1 ++ ":" ++ m.2) ++ "\x7d"

/-- A member takes its place in the order of the keys. -/
def insertMember (m : String × String) : List (String × String) → List (String × String)
  | [] => [m]
  | m' :: rest => if m'.1 < m.1 then m' :: insertMember m rest else m :: m' :: rest

/-- The texts of a value and of its parts. -/
def render : Json → Rendering
  | null => { text := "null" }
  | bool true => { text := "true" }
  | bool false => { text := "false" }
  | int n => { text := toString n }
  | float _ text => { text := text }
  | str s => { text := quote s }
  | arrNil => { text := arrayText [] }
  | arrCons x xs =>
    let items := x.render.text :: xs.render.items
    { text := arrayText items, items := items }
  | objNil => { text := objectText [] }
  | objCons k v rest =>
    let members := insertMember (k, v.render.text) rest.render.members
    { text := objectText members, members := members }

/-- `json.dumps(j, sort_keys=True, separators=(",", ":"))`. -/
def dumps (j : Json) : String := j.render.text

example : (ofMembers [("b", .arrCons (.int 1) (.arrCons .null .arrNil)), ("a", .str "x\n")]).dumps =
    "\x7b\"a\":\"x\\n\",\"b\":[1,null]\x7d" := by decide +kernel

end DiddiGo.Data.Json
