import Perfmon.Assoc
import Perfmon.Toml
/-!
# Tables under construction

The tables of a document while it is being read. A table that was only mentioned, as part of a
longer name, can still be defined; one that was defined, by a header or by its fields, cannot be
defined a second time. So a table remembers how it came about: by a mention (`implicit`), and
whether the mention was in a header or in a dotted key (`dotted`).
-/

namespace Perfmon.Toml

/-- What stands behind a name in a table under construction. -/
inductive Node where
  /-- A value, which nothing can be added to. -/
  | value (v : Value)
  /-- A table. -/
  | table (implicit dotted : Bool) (fields : List (String × Node))
  /-- An array of tables; what is added goes to the last one. -/
  | tables (elements : List (List (String × Node)))

namespace Node

/-- The fields of a table. -/
abbrev Fields := List (String × Node)

mutual

/-- The value that a node has in the end. -/
def toValue : Node → Value
  | .value v => v
  | .table _ _ fields => .table (toValues fields)
  | .tables elements => .array (toTables elements)

/-- The values of the fields of a table. -/
def toValues : List (String × Node) → List (String × Value)
  | [] => []
  | (k, n) :: r => (k, n.toValue) :: toValues r

/-- The values of the elements of an array of tables. -/
def toTables : List (List (String × Node)) → List Value
  | [] => []
  | fields :: r => .table (toValues fields) :: toTables r

end

/-- Changes the table at the end of a path, creating the tables on the way that are missing. A
dotted path does not lead into a table that has been defined, and no path leads into a value. The
change is told whether its table came about by a dotted key. -/
def update (dotted : Bool) (change : Bool → Fields → Option Fields) :
    (isDotted : Bool) → (path : List String) → Fields → Option Fields
  | isDotted, [], fields => change isDotted fields
  | _, k :: path, fields =>
    match Assoc.lookup k fields with
    | none =>
      (update dotted change dotted path []).map fun sub =>
        Assoc.put k (.table true dotted sub) fields
    | some (.table implicit d sub) =>
      if dotted && !implicit then none
      else
        (update dotted change d path sub).map fun sub =>
          Assoc.put k (.table implicit d sub) fields
    | some (.tables elements) =>
      (elements.getLast?.bind (update dotted change false path)).map fun sub =>
        Assoc.put k (.tables (elements.dropLast ++ [sub])) fields
    | some (.value _) => none

/-- Gives a field of a table its value: it must have none yet. A dotted key defines fields of tables
that came about by dotted keys, and a key that is not dotted those of other tables. -/
def define (path : List String) (key : String) (v : Value) (fields : Fields) : Option Fields :=
  let change (isDotted : Bool) (fields : Fields) : Option Fields :=
    if isDotted == path.isEmpty || (Assoc.lookup key fields).isSome then none
    else some (Assoc.put key (.value v) fields)
  update true change false path fields

end Node

/-- A document under construction. The table that is being filled is kept apart from the others and
put in its place when the next header comes. -/
structure Document where
  /-- The tables that have been filled. -/
  root : Node.Fields
  /-- The table that is being filled. -/
  current : Node.Fields
  /-- The path of the table that is being filled, and its name; none for the outermost table. -/
  header : Option (List String × String)
  /-- Whether the table that is being filled is an element of an array of tables. -/
  isElement : Bool

namespace Document

/-- The document in which nothing is defined. -/
def empty : Document :=
  ⟨[], [], none, false⟩

/-- Defines a field of the table that is being filled. -/
def define (d : Document) (path : List String) (key : String) (v : Value) : Option Document :=
  (Node.define path key v d.current).map fun current => { d with current }

/-- Changes the table that the path of a header leads to. -/
def updateParent (d : Document) (path : List String) (change : Node.Fields → Option Node.Fields) :
    Option Document :=
  (Node.update false (fun _ => change) false path d.root).map fun root => { d with root }

/-- Puts the table that is being filled in its place. -/
def finish (d : Document) : Option Document :=
  match d.header with
  | none => some { d with root := d.current, current := [] }
  | some (path, key) =>
    d.updateParent path fun parent =>
      if d.isElement then
        match Assoc.lookup key parent with
        | none => some (Assoc.put key (.tables [d.current]) parent)
        | some (.tables elements) => some (Assoc.put key (.tables (elements ++ [d.current])) parent)
        | some _ => none
      else some (Assoc.put key (.table false false d.current) parent)

/-- The fields that a table has before its header comes: those of a table that was mentioned in
another header only. -/
def mentioned (key : String) (parent : Node.Fields) : Option Node.Fields :=
  match Assoc.lookup key parent with
  | none => some []
  | some (.table true false fields) => some fields
  | some _ => none

/-- The table at the end of a path in the outermost table. -/
def parentOf (d : Document) (path : List String) : Option Node.Fields :=
  go path d.root
where
  /-- The table at the end of a path in a table. -/
  go : List String → Node.Fields → Option Node.Fields
    | [], fields => some fields
    | k :: path, fields =>
      match Assoc.lookup k fields with
      | none => go path []
      | some (.table _ _ sub) => go path sub
      | some (.tables elements) => elements.getLast?.bind (go path)
      | some (.value _) => none

/-- Begins the table of a header. -/
def beginTable (d : Document) (path : List String) (key : String) : Option Document := do
  let d ← d.finish
  let current ← (d.parentOf path).bind (mentioned key)
  return { d with current, header := some (path, key), isElement := false }

/-- Begins a new element of an array of tables. -/
def beginElement (d : Document) (path : List String) (key : String) : Option Document := do
  let d ← d.finish
  let parent ← d.parentOf path
  match Assoc.lookup key parent with
  | none | some (.tables _) =>
    return { d with current := [], header := some (path, key), isElement := true }
  | some _ => none

/-- The value of the whole document. -/
def toValue (d : Document) : Option Value :=
  d.finish.map fun d => .table (Node.toValues d.root)

end Document

end Perfmon.Toml
