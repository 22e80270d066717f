import BiblioQuery.Calendar.Zone
import BiblioQuery.Json.Record

/-!
# Options

How an expression is to be compiled: strictly or not, up to which length of the query, with which
time zone for moments without offset, and with or without a trace.

## Main definitions

* `Options` : the options, with `Options.standard`.
* `Options.offset?` : the offset of moments without one.
-/

namespace BiblioQuery

/-! ### Options -/

/-- How an expression is to be compiled. -/
structure Options where
  /-- Groups need two members, and soft limits are hard. -/
  strict : Bool
  /-- The greatest number of characters of the query; zero stands for any number. -/
  maxQueryLength : UInt64
  /-- The time zone of moments without offset. -/
  timezone : String
  /-- A trace is wanted. -/
  traceEnabled : Bool
  deriving DecidableEq

namespace Options

/-- Lenient, without limit and trace, in universal time. -/
def standard : Options := ⟨false, 0, "UTC", false⟩

instance : Inhabited Options := ⟨standard⟩

/-- The offset of moments without one. -/
def offset? (o : Options) : Option Offset := Offset.ofZone? o.timezone

/-- Options as an object. -/
def toJson (o : Options) : Json :=
  .object [("strict", .bool o.strict), ("max_query_length", Json.ofWord o.maxQueryLength),
    ("timezone", .string o.timezone), ("trace_enabled", .bool o.traceEnabled)]

/-- The options of a record; what is absent is as in the standard options. -/
def ofJson? (j : Json) : Option Options := do
  let fields ← Json.record? ["strict", "max_query_length", "timezone", "trace_enabled"] 0 j
  let strict ← Json.orElse "strict" standard.strict Json.flag? fields
  let maxQueryLength ← Json.orElse "max_query_length" standard.maxQueryLength Json.word? fields
  let timezone ← Json.orElse "timezone" standard.timezone Json.text? fields
  let traceEnabled ← Json.orElse "trace_enabled" standard.traceEnabled Json.flag? fields
  return ⟨strict, maxQueryLength, timezone, traceEnabled⟩

end Options

end BiblioQuery
