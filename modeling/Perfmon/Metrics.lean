import Perfmon.Assoc
import Perfmon.Resource
/-!
# Metrics

What the engine counts, and the text in which the counts are handed out: families in the order of
their names, each with a line of help, a line with its type, and its samples in the order of their
labels. A family with labels is left out while it has no sample.

Everything is counted as an exact integer, without the width of a counter.
-/

namespace Perfmon

/-- The counts of an engine. -/
structure Metrics where
  /-- Sessions that are open. -/
  sessionsOpen : Nat
  /-- Control requests by name and outcome. -/
  requests : Assoc (String × String) Nat
  /-- Reservations refused because another session holds the resource. -/
  conflicts : PerResource Nat
  /-- Operations that the device has executed. -/
  opsExecuted : Nat
  /-- Operations among them that came back with another status than success. -/
  opsFailed : Nat
  /-- Windows that the device has executed. -/
  windows : Nat
  /-- Batches that got as far as their first window. -/
  batchesTimed : Nat

namespace Metrics

/-- The counts of an engine that has done nothing. -/
def zero : Metrics where
  sessionsOpen := 0
  requests := .empty
  conflicts := .const 0
  opsExecuted := 0
  opsFailed := 0
  windows := 0
  batchesTimed := 0

/-- Counts a control request. -/
def countRequest (m : Metrics) (name status : String) : Metrics :=
  let key := (name, status)
  { m with requests := m.requests.insert key ((m.requests.find? key).getD 0 + 1) }

/-- Counts a refused reservation. -/
def countConflict (m : Metrics) (r : Resource) : Metrics :=
  { m with conflicts := m.conflicts.set r (m.conflicts.get r + 1) }

/-! ## The text -/

/-- One number with its labels. -/
structure Sample where
  /-- Names and values of the labels. -/
  labels : List (String × String)
  /-- The number. -/
  value : Nat

/-- A name with everything that is counted under it. -/
structure Family where
  /-- The name. -/
  name : String
  /-- What is counted. -/
  help : String
  /-- The type: a counter only grows, a gauge does not. -/
  type : String
  /-- The numbers. -/
  samples : List Sample

/-- The text of a sample of a family. -/
def Sample.line (family : String) (s : Sample) : String :=
  let labels := s.labels.map fun (name, value) => name ++ "=\"" ++ value ++ "\""
  let braced := if labels.isEmpty then "" else "\x7b" ++ ",".intercalate labels ++ "\x7d"
  s!"{family}{braced} {s.value}"

/-- The lines of a family; none for a family without samples. -/
def Family.lines (f : Family) : List String :=
  if f.samples.isEmpty then []
  else
    s!"# HELP {f.name} {f.help}" :: s!"# TYPE {f.name} {f.type}" :: f.samples.map (·.line f.name)

/-- The samples of the requests, by name and then by outcome. -/
def requestSamples (m : Metrics) : List Sample :=
  let sorted := m.requests.entries.mergeSort fun (a, _) (b, _) =>
    a.1 < b.1 || (a.1 == b.1 && a.2 ≤ b.2)
  sorted.map fun ((name, status), n) => ⟨[("request", name), ("status", status)], n⟩

/-- The samples of the refused reservations: one for every resource that had any. -/
def conflictSamples (m : Metrics) : List Sample :=
  (Resource.all.filter (0 < m.conflicts.get ·)).map fun r =>
    ⟨[("resource", r.label)], m.conflicts.get r⟩

/-- The families, in the order of their names. -/
def families (m : Metrics) : List Family :=
  [⟨"regscope_exec_windows_total", "Staging windows processed by EXEC_REG_OPS", "counter",
      [⟨[], m.windows⟩]⟩,
    ⟨"regscope_reg_ops_executed_total", "Register ops handed to the executor", "counter",
      [⟨[], m.opsExecuted⟩]⟩,
    ⟨"regscope_reg_ops_failed_total", "Register ops reported with a non-success status", "counter",
      [⟨[], m.opsFailed⟩]⟩,
    ⟨"regscope_requests_total", "Control-channel requests handled", "counter", m.requestSamples⟩,
    ⟨"regscope_reservation_conflicts_total",
      "PM resource reservations refused because another session holds the resource", "counter",
      m.conflictSamples⟩,
    ⟨"regscope_sessions_open", "Profiler sessions currently open", "gauge",
      [⟨[], m.sessionsOpen⟩]⟩]

/-- The lines of the text. -/
def lines (m : Metrics) : List String :=
  m.families.flatMap Family.lines

end Metrics

end Perfmon
