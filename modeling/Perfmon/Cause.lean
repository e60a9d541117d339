/-!
# Causes

Why a command fails: a list of causes, the one that says most about the command first and the
innermost last. What the readers of files and formats have against a text has no fixed wording, so
each of them is a cause of its own.
-/

namespace Perfmon

/-- One cause of a failure. -/
inductive Cause where
  /-- A sentence. -/
  | message (text : String)
  /-- A file cannot be read. -/
  | unreadable
  /-- A text is not the JSON that is expected. -/
  | badJson
  /-- A text is not the TOML that is expected. -/
  | badToml
  deriving DecidableEq, Repr

/-- The text of a cause. -/
def Cause.text : Cause → String
  | .message text => text
  | .unreadable => "the file cannot be read"
  | .badJson => "the text is not the JSON that is expected"
  | .badToml => "the text is not the TOML that is expected"

/-- The causes of a failure as they are printed: the first one by itself, and those behind it
numbered, unless there is only one of them. -/
def Cause.explain : List Cause → List String
  | [] => []
  | [c] => [s!"Error: {c.text}"]
  | [c, d] => [s!"Error: {c.text}", "", "Caused by:", s!"    {d.text}"]
  | c :: cs =>
    [s!"Error: {c.text}", "", "Caused by:"] ++ cs.zipIdx.map fun (d, i) => s!"    {i}: {d.text}"

end Perfmon
