/-!
# TOML values and tables

A table remembers how it has come about, since that decides who may still add to it: a header opens a
table once, and the way to it may be named before; dotted keys add to tables that dotted keys have made;
an inline table is closed.
-/

namespace SoqlSelect.Toml

/-- How a table has come about: by its own header, on the way to another header, on the way of a dotted
key, or inline. -/
inductive Origin
  | header
  | implied
  | dotted
  | inline
deriving DecidableEq

/-- Of a float only its being in range is kept, and of a date or time nothing. An integer has no number
if its spelling passes as part of the text but cannot be read. An array of tables that headers make is
apart from other arrays, because headers can add to it. -/
inductive Value
  | string (s : String)
  | integer (number : Option Int)
  | float (inRange : Bool)
  | boolean (b : Bool)
  | dateTime
  | array (items : List Value)
  | table (origin : Origin) (members : List (String × Value))
  | tables (elements : List (List (String × Value)))

abbrev Table := List (String × Value)

/-- A line of a document. -/
inductive Line
  | blank
  | header (path : List String)
  | element (path : List String)
  | member (path : List String) (value : Value)

namespace Table

/-! ### Adding -/

/-- Changes the value of a key, or gives it one. -/
def alter (key : String) (f : Option Value → Option Value) : Table → Option Table
  | [] => (f none).map fun v => [(key, v)]
  | (k, v) :: rest =>
    if k = key then (f (some v)).map fun v => (k, v) :: rest
    else (alter key f rest).map fun rest => (k, v) :: rest

/-- Changes the last element of an array of tables. -/
def alterLast (f : Table → Option Table) : List Table → Option (List Table)
  | [] => none
  | [t] => (f t).map fun t => [t]
  | t :: rest => (alterLast f rest).map fun rest => t :: rest

/-- Changes the table at a path of headers, which goes to the last element of an array of tables and
makes the tables that are not there. -/
def descend (f : Table → Option Table) : List String → Table → Option Table
  | [], t => f t
  | key :: path, t => t.alter key fun
    | none => (descend f path []).map (.table .implied)
    | some (.table .inline _) => none
    | some (.table origin members) => (descend f path members).map (.table origin)
    | some (.tables elements) => (alterLast (descend f path) elements).map .tables
    | some _ => none

/-- Opens the table of a header. -/
def openTable (key : String) (t : Table) : Option Table :=
  t.alter key fun
    | none => some (.table .header [])
    | some (.table .implied members) => some (.table .header members)
    | some _ => none

/-- Opens the next element of an array of tables. -/
def openElement (key : String) (t : Table) : Option Table :=
  t.alter key fun
    | none => some (.tables [[]])
    | some (.tables elements) => some (.tables (elements ++ [[]]))
    | some _ => none

/-- Adds a member under a dotted key. The last table on the way is one that dotted keys have made. -/
def addDotted (value : Value) : List String → Table → Option Table
  | [], _ => none
  | [key], t => t.alter key fun
    | none => some value
    | some _ => none
  | key :: path, t => t.alter key fun
    | none => (addDotted value path []).map (.table .dotted)
    | some (.table .dotted members) => (addDotted value path members).map (.table .dotted)
    | some (.table .implied members) =>
      if path.length = 1 then none else (addDotted value path members).map (.table .implied)
    | some (.tables elements) =>
      if path.length = 1 then none else (alterLast (addDotted value path) elements).map .tables
    | some _ => none

end Table

/-! ### Documents -/

/-- The root table and the path of the header that is in force. -/
structure Document where
  root : Table := []
  path : List String := []

namespace Document

def add (d : Document) : Line → Option Document
  | .blank => some d
  | .header path =>
    (path.getLast?.bind fun key => Table.descend (Table.openTable key) path.dropLast d.root).map
      fun root => { root, path }
  | .element path =>
    (path.getLast?.bind fun key => Table.descend (Table.openElement key) path.dropLast d.root).map
      fun root => { root, path }
  | .member path value =>
    (Table.descend (Table.addDotted value path) d.path d.root).map fun root => { d with root }

/-- The root table of the lines. -/
def ofLines? (lines : List Line) : Option Table :=
  (lines.foldlM add {}).map (·.root)

end Document

/-! ### Range -/

mutual

/-- Every integer has a number of at most 128 bits, with or without a sign, and every float is in
range. -/
def Value.inRange : Value → Bool
  | .integer none => false
  | .integer (some n) =>
    -0x80000000000000000000000000000000 ≤ n && n < 0x100000000000000000000000000000000
  | .float inRange => inRange
  | .array items => itemsInRange items
  | .table _ members => membersInRange members
  | .tables elements => elementsInRange elements
  | _ => true

def itemsInRange : List Value → Bool
  | [] => true
  | item :: rest => item.inRange && itemsInRange rest

def membersInRange : List (String × Value) → Bool
  | [] => true
  | (_, value) :: rest => value.inRange && membersInRange rest

def elementsInRange : List (List (String × Value)) → Bool
  | [] => true
  | members :: rest => membersInRange members && elementsInRange rest

end

end SoqlSelect.Toml
