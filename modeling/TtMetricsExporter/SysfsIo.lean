import TtMetricsExporter.SecureIo
/-!
# SysfsIo — bounded, diagnostic-aware readers for telemetry sysfs attributes

`sysfs_io.py`.  A path is given by the names from the root; every link on it is followed.
-/
namespace Tt

open Py (Str)
open Posix (Node Path Errno)

def maximumSysfsFileBytes : Nat := 64 * 1024

/-- A handler's `except FileNotFoundError / PermissionError / OSError`. -/
def recordReadError (e : Errno) (diagnostics : TelemetrySource) : Reading Unit :=
  if e = .ENOENT then return ()
  else recordIssue diagnostics (if e ∈ [.EACCES, .EPERM] then .permissionDenied else .readFailed)

namespace SysfsReader
variable (fs : Node)

def readText (path : Path) (diagnostics : TelemetrySource) : Reading (Option Str) := do
  match Posix.stat fs path with
  | .error e =>
    recordReadError e diagnostics
    return none
  | .ok (.regular file) =>
    if maximumSysfsFileBytes < file.size then
      recordIssue diagnostics .oversizedRecord
      return none
    match file.openError, file.content with
    | some e, _ | none, .error e =>
      recordReadError e diagnostics
      return none
    | none, .ok content => decodeRecord content maximumSysfsFileBytes diagnostics
  | .ok _ =>
    recordIssue diagnostics .invalidValue
    return none

def readFirst {α : Type} (root : Path) (names : List Str) (reader : Path → Reading (Option α)) : Reading (Option α) :=
  Tally.first (fun name => reader (root ++ [name])) names

def readFirstText (root : Path) (names : List Str) (diagnostics : TelemetrySource) : Reading (Option Str) :=
  readFirst root names (fun path => readText fs path diagnostics)

/-- `_parse`, with a parser that may raise. -/
def parse (path : Path) (diagnostics : TelemetrySource) (parser : Str → Except PyError (Option Int)) :
    Reading (Option Int) := do
  match ← readText fs path diagnostics with
  | none => return none
  | some value =>
    match ← Tally.lift (parser value) with
    | some parsed => return some parsed
    | none =>
      recordIssue diagnostics .invalidValue
      return none

def readInt (path : Path) (diagnostics : TelemetrySource) : Reading (Option Int) := parse fs path diagnostics parseInt64

def readUint (path : Path) (diagnostics : TelemetrySource) : Reading (Option Int) :=
  parse fs path diagnostics (fun value => .ok (parseUint64 value))

def readBoolish (path : Path) (diagnostics : TelemetrySource) : Reading (Option Int) :=
  parse fs path diagnostics parseBoolishInt

def readFirstInt (root : Path) (names : List Str) (diagnostics : TelemetrySource) : Reading (Option Int) :=
  readFirst root names (fun path => readInt fs path diagnostics)

def readFirstBoolish (root : Path) (names : List Str) (diagnostics : TelemetrySource) : Reading (Option Int) :=
  readFirst root names (fun path => readBoolish fs path diagnostics)

def readByte (path : Path) (diagnostics : TelemetrySource) : Reading (Option Int) := do
  match ← readText fs path diagnostics with
  | none => return none
  | some value => match tokenize value with
    | [] => return none
    | token :: rest =>
      match ← Tally.lift (parseByteValue token (rest.head?.getD [])) with
      | some parsed => return some parsed
      | none =>
        recordIssue diagnostics .invalidValue
        return none

def readFirstByte (root : Path) (names : List Str) (diagnostics : TelemetrySource) : Reading (Option Int) :=
  readFirst root names (fun path => readByte fs path diagnostics)

end SysfsReader
end Tt
