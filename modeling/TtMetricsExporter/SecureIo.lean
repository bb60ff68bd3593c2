import TtMetricsExporter.Parsers
/-!
# SecureIo — descriptor-relative reads for untrusted node-state directories

`secure_io.py`.  A `SecureDirectory` is the directory its descriptor refers to; closing it is not modelled here.  The
`diagnostics` argument names the source whose counters are bumped.
-/
namespace Tt

open Py (Str)
open Posix (Node Path Errno)

def validComponent (value : Str) (maximumBytes : Nat := 128) : Bool :=
  value.all Py.isAscii && value ≠ [] && value.length ≤ maximumBytes && value ∉ [".".toList, "..".toList] &&
    '/' ∉ value && '\x00' ∉ value && value.all (fun c => 0x21 ≤ c.toNat && c.toNat ≤ 0x7E)

def recordOsError (error : Errno) (diagnostics : TelemetrySource) : Reading Unit :=
  recordIssue diagnostics (if error ∈ [.EACCES, .EPERM] then .permissionDenied else .readFailed)

/-- The directory an owned descriptor refers to. -/
structure SecureDirectory where
  path : Path
  deriving DecidableEq

/-- `os.open(name, flags, dir_fd=here)`: an embedded NUL is a `ValueError`, everything else is up to the system. -/
def osOpen (fs : Node) (here : Path) (name : Str) (directoryOnly : Bool) : Reading (Except Errno Path) :=
  if '\x00' ∈ name then .raised .valueError else return Posix.openat fs here name directoryOnly

/-- The check on `os.fstat` of a regular file. -/
def statusIssue (links size maximumSize : Nat) : Option CollectionIssue :=
  if links ≠ 1 then some .invalidValue
  else if maximumSize < size then some .oversizedRecord
  else none

/-- What a reader makes of the bytes it read, of which there is at most one more than the maximum. -/
def decodeRecord (content : ByteArray) (maximumSize : Nat) (diagnostics : TelemetrySource) : Reading (Option Str) := do
  if maximumSize < content.size then
    recordIssue diagnostics .oversizedRecord
    return none
  recordFileRead diagnostics
  match Py.decodeUtf8 content with
  | none =>
    recordIssue diagnostics .invalidValue
    return none
  | some text =>
    let value := Py.stripAscii text
    if value = [] then
      recordIssue diagnostics .invalidValue
      return none
    return some value

/-- What `read_text` makes of a file it has opened. -/
def readOpened (node : Option Node) (maximumSize : Nat) (diagnostics : TelemetrySource) : Reading (Option Str) :=
  match node with
  | some (.regular file) => match statusIssue file.links file.size maximumSize, file.content with
    | some issue, _ => do
      recordIssue diagnostics issue
      return none
    | none, .error e => do
      recordOsError e diagnostics
      return none
    | none, .ok content => decodeRecord content maximumSize diagnostics
  | _ => do
    recordIssue diagnostics .invalidValue
    return none

namespace SecureDirectory

/-- `open_root`: the root is accessible exactly when this yields a directory. -/
def openRoot (fs : Node) (path : Path) (diagnostics : TelemetrySource) : Reading (Option SecureDirectory) :=
  match Posix.openPath fs path true with
  | .ok path => return some ⟨path⟩
  | .error e => do
    recordIssue diagnostics
      (if e ∈ [.ENOENT, .ENOTDIR] then .missingRoot else if e ∈ [.EACCES, .EPERM] then .permissionDenied else .readFailed)
    return none

def openDirectory (fs : Node) (self : SecureDirectory) (component : Str) (diagnostics : TelemetrySource) :
    Reading (Option SecureDirectory) := do
  if validComponent component then
    match ← osOpen fs self.path component true with
    | .ok path => return some ⟨path⟩
    | .error .ENOENT => return none
    | .error e =>
      recordOsError e diagnostics
      return none
  else
    recordIssue diagnostics .invalidValue
    return none

def readText (fs : Node) (self : SecureDirectory) (name : Str) (maximumSize : Nat) (diagnostics : TelemetrySource) :
    Reading (Option Str) := do
  if validComponent name 255 then
    match ← osOpen fs self.path name false with
    | .error .ENOENT => return none
    | .error e =>
      recordOsError e diagnostics
      return none
    | .ok path => readOpened (fs.at path) maximumSize diagnostics
  else
    recordIssue diagnostics .invalidValue
    return none

def entries (fs : Node) (self : SecureDirectory) (maximumEntries : Nat) (diagnostics : TelemetrySource) :
    Reading (List Str) :=
  match Posix.listdir fs self.path with
  | .error e => do
    recordOsError e diagnostics
    return []
  | .ok names =>
    if maximumEntries < names.length then do
      recordIssue diagnostics .cardinalityLimit
      return names.take maximumEntries
    else return names

end SecureDirectory
end Tt
