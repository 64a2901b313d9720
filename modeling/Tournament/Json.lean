import Tournament.Text.Quoted

/-!
# JSON values

A value of the JSON format. A number is kept as it is written. A string may be written with an
escape that stands for half of a character; such a string is a value of the format but spells no
text.
-/

namespace Tournament

/-- A JSON value. Objects keep their members in order, repetitions included. -/
inductive Json where
  | null
  | bool (b : Bool)
  /-- A number, by the characters it is written with. -/
  | number (literal : List Char)
  | text (s : String)
  /-- A string with an unpaired half of a character. -/
  | brokenText
  | list (elements : List Json)
  /-- The members; a name is missing if its string spells no text. -/
  | object (members : List (Option String × Json))

namespace Json

def ofNat (n : Nat) : Json :=
  .number (Nat.toDigits 10 n)

def ofOption {α : Type} (f : α → Json) : Option α → Json
  | none => .null
  | some a => f a

def hex4 (n : Nat) : List Char :=
  let ds := Text.hex n
  List.replicate (4 - ds.length) '0' ++ ds

/-- One character of a string. Quotation marks, backslashes and control characters are escaped. -/
def escape (c : Char) : List Char :=
  match c with
  | '"' => ['\\', '"']
  | '\\' => ['\\', '\\']
  | '\x08' => ['\\', 'b']
  | '\x0c' => ['\\', 'f']
  | '\n' => ['\\', 'n']
  | '\r' => ['\\', 'r']
  | '\t' => ['\\', 't']
  | c => if c.toNat < 0x20 then ['\\', 'u'] ++ hex4 c.toNat else [c]

def printText (s : String) : List Char :=
  '"' :: s.toList.flatMap escape ++ ['"']

def printName : Option String → List Char
  | some s => printText s
  | none => ['"', '"']

mutual

def print : Json → List Char
  | .null => ['n', 'u', 'l', 'l']
  | .bool true => ['t', 'r', 'u', 'e']
  | .bool false => ['f', 'a', 'l', 's', 'e']
  | .number literal => literal
  | .text s => printText s
  | .brokenText => ['"', '"']
  | .list elements => '[' :: (printElements elements ++ [']'])
  | .object members => '{' :: (printMembers members ++ ['}'])

def printElements : List Json → List Char
  | [] => []
  | [v] => print v
  | v :: vs => print v ++ ',' :: printElements vs

def printMembers : List (Option String × Json) → List Char
  | [] => []
  | [(name, v)] => printName name ++ ':' :: print v
  | (name, v) :: rest => printName name ++ ':' :: (print v ++ ',' :: printMembers rest)

end

/-- A line feed and the indentation of a depth, two blanks for each level. -/
def newline (depth : Nat) : List Char :=
  '\n' :: List.replicate (2 * depth) ' '

mutual

/-- The text of a value with each element and each member on a line of its own. -/
def printPretty (depth : Nat) : Json → List Char
  | .list [] => ['[', ']']
  | .list elements =>
    '[' :: (prettyElements (depth + 1) elements ++ newline depth ++ [']'])
  | .object [] => ['{', '}']
  | .object members =>
    '{' :: (prettyMembers (depth + 1) members ++ newline depth ++ ['}'])
  | v => print v

def prettyElements (depth : Nat) : List Json → List Char
  | [] => []
  | [v] => newline depth ++ printPretty depth v
  | v :: vs => newline depth ++ printPretty depth v ++ ',' :: prettyElements depth vs

def prettyMembers (depth : Nat) : List (Option String × Json) → List Char
  | [] => []
  | [(name, v)] => newline depth ++ printName name ++ [':', ' '] ++ printPretty depth v
  | (name, v) :: rest =>
    newline depth ++ printName name ++ [':', ' '] ++ printPretty depth v ++
      ',' :: prettyMembers depth rest

end

def compact (v : Json) : String :=
  String.ofList v.print

def pretty (v : Json) : String :=
  String.ofList (v.printPretty 0)

end Json

end Tournament
