import Perfmon.Toml.Scalar
import Perfmon.Toml.Table
import Perfmon.Toml.Token
/-!
# Reading TOML

The value that the tokens of a document stand for. The reader goes through the tokens one by one. It
keeps the arrays and inline tables that have been opened on a stack, and the tables of the document
in a `Document`, which knows what may be defined where.

A plain value is put together from the words and points that follow each other, because a point is a
mark elsewhere. A date may go on with a time of day behind a single space.
-/

namespace Perfmon.Toml

/-- The depth of nesting, of values and of keys, that is refused. -/
def depthLimit : Nat := 80

/-- A key that is being read: the parts so far, the last first, and whether another one must come.
-/
structure PartialKey where
  /-- The parts so far, the last first. -/
  parts : List String
  /-- Whether another part must come. -/
  wanted : Bool

namespace PartialKey

/-- The key of which nothing has been read. -/
def start : PartialKey :=
  ⟨[], true⟩

/-- The key behind a token; none if the token cannot be part of a key. -/
def step (k : PartialKey) : Token → Option PartialKey
  | .space _ => some k
  | .word cs =>
    if k.wanted && cs.all Token.isKeyChar then some ⟨String.ofList cs :: k.parts, false⟩ else none
  | .string false s => if k.wanted then some ⟨s :: k.parts, false⟩ else none
  | .mark '.' => if k.wanted then none else some { k with wanted := true }
  | _ => none

/-- The path and the last part of a key that is complete and not too long. -/
def complete? (k : PartialKey) : Option (List String × String) :=
  match k.parts with
  | last :: path =>
    if k.wanted || depthLimit ≤ k.parts.length then none else some (path.reverse, last)
  | [] => none

end PartialKey

/-- An array or an inline table that has been opened. -/
inductive Frame where
  /-- An array with its items, the last first. -/
  | array (items : List Value)
  /-- An inline table, and the key whose value is being read. -/
  | table (fields : Node.Fields) (path : List String) (key : String)

/-- What the reader is at. -/
inductive Place where
  /-- The beginning of a line. -/
  | lineStart
  /-- The end of a line, behind a statement. -/
  | lineEnd
  /-- Directly behind the bracket that opens a header. -/
  | headerStart
  /-- In a header, of an element of an array or not. -/
  | header (element : Bool) (key : PartialKey)
  /-- Directly behind the first of the two brackets that close the header of an element. -/
  | headerEnd (path : List String) (key : String)
  /-- In the key of a line. -/
  | key (key : PartialKey)
  /-- In a key of an inline table, which may also be closed if nothing has been read of it yet. -/
  | inlineKey (fields : Node.Fields) (mayClose : Bool) (key : PartialKey) (stack : List Frame)
  /-- In front of a value. -/
  | value (stack : List Frame)
  /-- In a plain value, of which the text has been read in reverse. -/
  | plain (text : List Char) (stack : List Frame)
  /-- Behind a date and a single space. -/
  | date (text : List Char) (stack : List Frame)
  /-- Behind a value. -/
  | behind (v : Value) (stack : List Frame)

/-- The reader: its document, its place, and the key of the line that it is in. -/
structure Reader where
  /-- The document so far. -/
  document : Document
  /-- The path and the last part of the key of the line. -/
  key : List String × String
  /-- What the reader is at. -/
  place : Place

namespace Reader

/-- The reader in front of a document. -/
def start : Reader :=
  ⟨.empty, ([], ""), .lineStart⟩

/-- The reader at another place. -/
def goto (r : Reader) (p : Place) : Reader :=
  { r with place := p }

/-- Opens an array or an inline table, if that is not too deep. -/
def open? (r : Reader) (stack : List Frame) (p : Place) : Option Reader :=
  if depthLimit ≤ stack.length + 1 then none else some (r.goto p)

/-- A token behind a value. -/
def stepBehind (r : Reader) (v : Value) : List Frame → Token → Option Reader
  | [], t =>
    match r.document.define r.key.1 r.key.2 v, t with
    | some document, .space _ | some document, .comment =>
      some { r with document, place := .lineEnd }
    | some document, .newline => some { r with document, place := .lineStart }
    | _, _ => none
  | .array items :: stack, t =>
    match t with
    | .space _ | .comment | .newline => some (r.goto (.behind v (.array items :: stack)))
    | .mark ',' => some (r.goto (.value (.array (v :: items) :: stack)))
    | .mark ']' => some (r.goto (.behind (.array (v :: items).reverse) stack))
    | _ => none
  | .table fields path key :: stack, t =>
    match t with
    | .space _ => some (r.goto (.behind v (.table fields path key :: stack)))
    | .mark ',' =>
      (Node.define path key v fields).map fun fields =>
        r.goto (.inlineKey fields false .start stack)
    | .mark '\x7d' =>
      (Node.define path key v fields).map fun fields =>
        r.goto (.behind (.table (Node.toValues fields)) stack)
    | _ => none

/-- A token where a value must come. In an array there may also be comments, ends of lines, and the
closing bracket. -/
def stepValue (r : Reader) (stack : List Frame) (t : Token) : Option Reader :=
  match t, stack with
  | .space _, _ => some r
  | .word cs, _ => some (r.goto (.plain cs.reverse stack))
  | .string _ s, _ => some (r.goto (.behind (.string s) stack))
  | .mark '[', _ => r.open? stack (.value (.array [] :: stack))
  | .mark '\x7b', _ => r.open? stack (.inlineKey [] true .start stack)
  | .newline, .array _ :: _ | .comment, .array _ :: _ => some r
  | .mark ']', .array items :: stack => some (r.goto (.behind (.array items.reverse) stack))
  | _, _ => none

/-- A token behind the text of a plain value, which ends there. -/
def endPlain (r : Reader) (text : List Char) (stack : List Frame) (t : Token) : Option Reader :=
  (Scalar.ofChars? text.reverse).bind fun v => r.stepBehind v stack t

/-- A token in a plain value. -/
def stepPlain (r : Reader) (text : List Char) (stack : List Frame) (t : Token) : Option Reader :=
  match t with
  | .word cs => some (r.goto (.plain (cs.reverse ++ text) stack))
  | .mark '.' => some (r.goto (.plain ('.' :: text) stack))
  | .space [' '] =>
    if Scalar.isDate text.reverse then some (r.goto (.date text stack))
    else r.endPlain text stack t
  | _ => r.endPlain text stack t

/-- A token in a header. -/
def stepHeader (r : Reader) (element : Bool) (k : PartialKey) (t : Token) : Option Reader :=
  match t with
  | .mark ']' =>
    match k.complete?, element with
    | some (path, key), true => some (r.goto (.headerEnd path key))
    | some (path, key), false =>
      (r.document.beginTable path key).map fun document => { r with document, place := .lineEnd }
    | none, _ => none
  | t => (k.step t).map fun k => r.goto (.header element k)

/-- The reader behind a token; none if the token cannot come there. -/
def step (r : Reader) (t : Token) : Option Reader :=
  match r.place with
  | .lineStart =>
    match t with
    | .newline | .space _ => some r
    | .comment => some (r.goto .lineEnd)
    | .mark '[' => some (r.goto .headerStart)
    | t => (PartialKey.start.step t).map fun k => r.goto (.key k)
  | .lineEnd =>
    match t with
    | .newline => some (r.goto .lineStart)
    | .space _ | .comment => some r
    | _ => none
  | .headerStart =>
    match t with
    | .mark '[' => some (r.goto (.header true .start))
    | t => r.stepHeader false .start t
  | .header element k => r.stepHeader element k t
  | .headerEnd path key =>
    match t with
    | .mark ']' =>
      (r.document.beginElement path key).map fun document => { r with document, place := .lineEnd }
    | _ => none
  | .key k =>
    match t with
    | .mark '=' => k.complete?.map fun key => { r with key, place := .value [] }
    | t => (k.step t).map fun k => r.goto (.key k)
  | .inlineKey fields mayClose k stack =>
    match t with
    | .mark '=' =>
      k.complete?.map fun (path, key) => r.goto (.value (.table fields path key :: stack))
    | .mark '\x7d' =>
      if mayClose && k.parts.isEmpty then
        some (r.goto (.behind (.table (Node.toValues fields)) stack))
      else none
    | t => (k.step t).map fun k => r.goto (.inlineKey fields mayClose k stack)
  | .value stack => r.stepValue stack t
  | .plain text stack => r.stepPlain text stack t
  | .date text stack =>
    match t with
    | .word cs => some (r.goto (.plain (cs.reverse ++ ' ' :: text) stack))
    | t => r.endPlain text stack t
  | .behind v stack => r.stepBehind v stack t

end Reader

/-- The value that the tokens of a document stand for. The end of the document ends its last line.
-/
def ofTokens? (ts : List Token) : Option Value := do
  let r ← (ts ++ [Token.newline]).foldlM Reader.step Reader.start
  match r.place with
  | .lineStart => r.document.toValue
  | _ => none

/-- The value that a document stands for. -/
def ofText? (text : String) : Option Value :=
  (Token.ofText text).bind ofTokens?

end Perfmon.Toml
