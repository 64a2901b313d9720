import Tournament.Record
import Tournament.SpecError
import Tournament.Text.Blank

/-!
# Metadata

A metadata line is a list of items `key:value` with commas between them. A schema names the keys
of an entity and the shape of their values; reading a line gives every key of the schema a value
or leaves it unset. Keys that the schema does not name are reported and skipped.
-/

namespace Tournament

inductive Shape where
  | one
  | words
  /-- A pair `subkey:subvalue`. The key may come again, and each time adds a pair. -/
  | pairs
  deriving DecidableEq, Repr

/-- The metadata keys of an entity. -/
structure Schema where
  entity : String
  keys : List (String × Shape)
  deriving DecidableEq, Repr

inductive TagValue where
  | unset
  | one (text : String)
  | words (texts : List String)
  | pairs (entries : List (String × String))
  deriving DecidableEq, Repr

/-- Every key of a schema, in the order of the schema, with its value. -/
structure Tags where
  entries : List (String × TagValue)
  deriving DecidableEq, Repr

namespace Tags

/-- The value of a key; a key outside the schema is unset. -/
def get (t : Tags) (key : String) : TagValue :=
  (t.entries.lookup key).getD .unset

def one? (t : Tags) (key : String) : Option String :=
  match t.get key with
  | .one text => some text
  | _ => none

def words? (t : Tags) (key : String) : Option (List String) :=
  match t.get key with
  | .words texts => some texts
  | _ => none

def pairs? (t : Tags) (key : String) : Option (List (String × String)) :=
  match t.get key with
  | .pairs entries => some entries
  | _ => none

def words (t : Tags) (key : String) : List String :=
  (t.words? key).getD []

def pairs (t : Tags) (key : String) : List (String × String) :=
  (t.pairs? key).getD []

def set (t : Tags) (key : String) (value : TagValue) : Tags :=
  ⟨t.entries.map fun e => if e.1 = key then (e.1, value) else e⟩

def blank (schema : Schema) : Tags :=
  ⟨schema.keys.map fun k => (k.1, .unset)⟩

/-- The items of a line: what stands between its commas, without blanks around it. Empty items
count for nothing. -/
def items (s : String) : List (List Char) :=
  ((Text.splitBy (· = ',') s.toList).map Text.trim).filter (!·.isEmpty)

/-- An item as a key and a value, both without blanks around them. The value may not be empty. -/
def readItem (item : List Char) : Except SpecError (String × List Char) :=
  match Text.cut ':' item with
  | none => .error (.malformedTag (String.ofList item))
  | some (key, value) =>
    if Text.trim value = [] then .error (.malformedTag (String.ofList (Text.trim key)))
    else .ok (String.ofList (Text.trim key), Text.trim value)

/-- A value as a pair. The second half may not be blank. -/
def readPair (value : List Char) : Except SpecError (String × String) :=
  match Text.cut ':' value with
  | none => .error (.malformedTag (String.ofList value))
  | some (left, right) =>
    if Text.trim right = [] then .error (.malformedTag (String.ofList value))
    else .ok (String.ofList (Text.trim left), String.ofList (Text.trim right))

/-- Adds one item whose key has the given shape. Only pairs may be added to. -/
def put (t : Tags) (key : String) (shape : Shape) (value : List Char) : Except SpecError Tags :=
  match t.get key, shape with
  | .pairs entries, _ => (readPair value).map fun p => t.set key (.pairs (entries ++ [p]))
  | .unset, .one => .ok (t.set key (.one (String.ofList value)))
  | .unset, .words => .ok (t.set key (.words ((Text.words value).map String.ofList)))
  | .unset, .pairs => (readPair value).map fun p => t.set key (.pairs [p])
  | _, _ => .error (.malformedTag (key ++ " (defined twice)"))

/-- Adds one item of a line. A key that the schema does not name changes nothing. -/
def add (schema : Schema) (t : Tags) (item : List Char) : Except SpecError Tags :=
  match readItem item with
  | .error e => .error e
  | .ok (key, value) =>
    match schema.keys.lookup key with
    | none => .ok t
    | some shape => t.put key shape value

def addAll (schema : Schema) : Tags → List (List Char) → Except SpecError Tags
  | t, [] => .ok t
  | t, item :: rest =>
    match t.add schema item with
    | .error e => .error e
    | .ok t => t.addAll schema rest

def read (schema : Schema) (s : String) : Except SpecError Tags :=
  if schema.keys = [] then .error (.unknownEntity schema.entity)
  else (blank schema).addAll schema (items s)

/-- What there is to report about an item that was added: a key that the schema does not name. -/
def remark (schema : Schema) (item : List Char) : List Record :=
  match readItem item with
  | .error _ => []
  | .ok (key, _) =>
    if (schema.keys.lookup key).isSome then []
    else [⟨.warning, s!"{schema.entity}: ignoring unknown metatag {Text.quoted key}"⟩]

/-- The reports about the items up to the first that cannot be added. -/
def remarksFrom (schema : Schema) : Tags → List (List Char) → List Record
  | _, [] => []
  | t, item :: rest =>
    match t.add schema item with
    | .error _ => []
    | .ok t => remark schema item ++ t.remarksFrom schema rest

def remarks (schema : Schema) (s : String) : List Record :=
  if schema.keys = [] then [] else (blank schema).remarksFrom schema (items s)

end Tags

end Tournament
