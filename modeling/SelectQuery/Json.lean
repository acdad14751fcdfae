import SelectQuery.Text.Quoted

/-!
# JSON values and their text

The values that a statement is made of: texts, absent texts, lists, and objects whose members keep
their order. A value is written in one of two layouts, on a single line (`Json.compact`) or on
indented lines (`Json.indented`). The layouts differ only in the white space between the parts.
-/

namespace SelectQuery

/-- A JSON value without numbers and truth values. -/
inductive Json where
  | null
  | string (s : String)
  | array (elements : List Json)
  | object (members : List (String × Json))

namespace Json

/-! ## Texts -/

/-- How a character is written in a JSON string. The controls below the space are escaped, five of
them by a letter, and beyond those only the quotation mark and the backslash. -/
def escape (c : Char) : List Char :=
  match c with
  | '"' => ['\\', '"']
  | '\\' => ['\\', '\\']
  | '\x08' => ['\\', 'b']
  | '\t' => ['\\', 't']
  | '\n' => ['\\', 'n']
  | '\x0c' => ['\\', 'f']
  | '\r' => ['\\', 'r']
  | c =>
    if c.toNat < 0x20 then
      ['\\', 'u', '0', '0', Nat.digitChar (c.toNat / 16), Nat.digitChar (c.toNat % 16)]
    else [c]

def quote (s : String) : List Char := Text.quoted escape s.toList

/-! ## Layouts -/

/-- The white space between the parts of a value. -/
structure Layout where
  /-- What starts the line of an element, or of a closing bracket, at a depth of nesting. -/
  line : Nat → List Char
  /-- What stands between the colon behind a name and the value of the member. -/
  gap : List Char

namespace Layout

def compact : Layout := ⟨fun _ => [], []⟩

/-- Two spaces for each level of nesting, and one before the value of a member. -/
def indented : Layout := ⟨fun depth => '\n' :: List.replicate (2 * depth) ' ', [' ']⟩

/-- The parts of a list or an object between their brackets, each on a line of its own. Nothing
stands between the brackets if there are no parts. -/
def enclose (l : Layout) (depth : Nat) (opening closing : Char) (parts : List (List Char)) :
    List Char :=
  match parts with
  | [] => [opening, closing]
  | part :: parts =>
    opening :: (l.line (depth + 1) ++ part ++
      parts.flatMap (fun p => ',' :: (l.line (depth + 1) ++ p)) ++ l.line depth ++ [closing])

end Layout

/-! ## Values -/

mutual

/-- The text of a value at a depth of nesting. -/
def write (l : Layout) (depth : Nat) : Json → List Char
  | .null => ['n', 'u', 'l', 'l']
  | .string s => quote s
  | .array elements => l.enclose depth '[' ']' (writeElements l (depth + 1) elements)
  | .object members => l.enclose depth '\x7b' '\x7d' (writeMembers l (depth + 1) members)

def writeElements (l : Layout) (depth : Nat) : List Json → List (List Char)
  | [] => []
  | j :: js => write l depth j :: writeElements l depth js

/-- The texts of the members of an object, each a name and a value. -/
def writeMembers (l : Layout) (depth : Nat) : List (String × Json) → List (List Char)
  | [] => []
  | (name, j) :: ms => (quote name ++ ':' :: (l.gap ++ write l depth j)) :: writeMembers l depth ms

end

def compact (j : Json) : String := String.ofList (write .compact 0 j)

/-- The value on indented lines, without a line feed at the end (`to_string_pretty`). -/
def indented (j : Json) : String := String.ofList (write .indented 0 j)

end Json

end SelectQuery
