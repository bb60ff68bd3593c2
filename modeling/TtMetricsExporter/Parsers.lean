import TtMetricsExporter.Models
/-!
# Parsers — the pure parsers of bounded telemetry formats

`parsers.py`, each function under its name.  A parser that can raise past its own handlers returns in `Except PyError`:
`parse_int64` where `int()` refuses a numeral past its digit limit, `parse_byte_value` where the decimal context traps
`Overflow`.  `parse_uint64` catches its `ValueError`, so it only ever returns.
-/
namespace Tt

open Py (Str Decimal)

def uint64Max : Int := 2 ^ 64 - 1
def int64Min : Int := -2 ^ 63
def int64Max : Int := 2 ^ 63 - 1

/-- `_BYTE_MULTIPLIERS`. -/
def byteMultipliers : List (Str × Nat) :=
  [([], 1), ("b".toList, 1), ("byte".toList, 1), ("bytes".toList, 1),
    ("k".toList, 2 ^ 10), ("kb".toList, 2 ^ 10), ("kib".toList, 2 ^ 10),
    ("m".toList, 2 ^ 20), ("mb".toList, 2 ^ 20), ("mib".toList, 2 ^ 20),
    ("g".toList, 2 ^ 30), ("gb".toList, 2 ^ 30), ("gib".toList, 2 ^ 30),
    ("t".toList, 2 ^ 40), ("tb".toList, 2 ^ 40), ("tib".toList, 2 ^ 40)]

/-! ## Tokens -/

def isTokenChar (c : Char) : Bool :=
  ('a' ≤ c && c ≤ 'z') || ('A' ≤ c && c ≤ 'Z') || ('0' ≤ c && c ≤ '9') || c == '.' || c == '_' || c == '-'

def tokenize (value : Str) : List Str := Py.words (value.map (fun c => if isTokenChar c then c else ' '))

/-! ## Byte values -/

/-- What `_NUMBER_PREFIX` matches at the start of a token, and what it leaves. -/
structure NumberPrefix where
  negative : Bool
  whole : List Nat
  fraction : List Nat
  exponent : Int
  suffix : Str
  deriving DecidableEq

def digitRun (s : Str) : List Nat := (s.takeWhile Py.isDecimal).filterMap Py.decimalValue
def afterDigits (s : Str) : Str := s.dropWhile Py.isDecimal

/-- `(?:[eE][+-]?\d+)?` -/
def exponentPart : Str → Int × Str
  | c :: rest =>
    if c = 'e' ∨ c = 'E' then
      let (negative, body) := Py.splitSign rest
      match digitRun body with
      | [] => (0, c :: rest)
      | ds => (if negative then -(Py.ofDigits 10 ds : Int) else Py.ofDigits 10 ds, afterDigits body)
    else (0, c :: rest)
  | [] => (0, [])

/-- `_NUMBER_PREFIX.match(token)`. -/
def matchNumberPrefix (token : Str) : Option NumberPrefix :=
  let (negative, body) := Py.splitSign token
  let finish (whole fraction : List Nat) (rest : Str) : NumberPrefix :=
    let (exponent, suffix) := exponentPart rest
    ⟨negative, whole, fraction, exponent, suffix⟩
  match digitRun body with
  | [] => match body with
    | '.' :: rest => match digitRun rest with
      | [] => none
      | fraction => some (finish [] fraction (afterDigits rest))
    | _ => none
  | whole => match afterDigits body with
    | '.' :: rest => some (finish whole (digitRun rest) (afterDigits rest))
    | rest => some (finish whole [] rest)

/-- `Decimal(match.group())`, `none` for `InvalidOperation`. -/
def NumberPrefix.decimal (p : NumberPrefix) : Option Decimal :=
  Decimal.construct ⟨p.negative, Py.ofDigits 10 (p.whole ++ p.fraction), p.exponent - p.fraction.length⟩

/-- The multiplier of what follows the number: its own suffix or else the next token. -/
def NumberPrefix.multiplier (p : NumberPrefix) (nextToken : Str) : Option Nat :=
  let suffix := if p.suffix = [] then nextToken else p.suffix
  match byteMultipliers.lookup (Py.lowerAscii suffix) with
  | some m => some m
  | none => if p.suffix = [] then some 1 else none

def parseByteValue (token nextToken : Str) : Except PyError (Option Int) :=
  match matchNumberPrefix token with
  | none => .ok none
  | some p => match p.decimal with
    | none => .ok none
    | some value =>
      if value.isNegative then .ok none
      else match p.multiplier nextToken with
        | none => .ok none
        | some m => match value.mul m with
          | none => .error .overflow
          | some product => .ok (if product.toInt ≤ uint64Max then some product.toInt else none)

/-! ## Integers -/

def parseUint64 (value : Str) : Option Int :=
  let text := Py.strip value
  let (negative, digits) := Py.splitSign text
  if digits = [] then none
  else
    let hexadecimal := "0x".toList.isPrefixOf (Py.lowerAscii digits)
    let base := if hexadecimal then 16 else if 1 < digits.length ∧ digits.head? = some '0' then 8 else 10
    match Py.int (if hexadecimal then digits.drop 2 else digits) base with
    | none => none
    | some n =>
      let parsed := if negative then -n else n
      if parsed < 0 then some (parsed % 2 ^ 64) else some (min parsed uint64Max)

/-- `re.fullmatch(r"[+-]?\d+", text)`. -/
def isIntegerText (text : Str) : Bool :=
  let body := (Py.splitSign text).2
  body ≠ [] && body.all Py.isDecimal

def parseInt64 (value : Str) : Except PyError (Option Int) :=
  let text := Py.strip value
  if isIntegerText text then
    match Py.int text 10 with
    | none => .error .valueError
    | some parsed => .ok (some (min (max parsed int64Min) int64Max))
  else .ok none

def parseBoolishInt (value : Str) : Except PyError (Option Int) :=
  let normalized := Py.lowerAscii (Py.strip value)
  if normalized ∈ ["true".toList, "yes".toList, "required".toList, "needed".toList] then .ok (some 1)
  else if normalized ∈ ["false".toList, "no".toList, "not_required".toList, "none".toList] then .ok (some 0)
  else parseInt64 normalized

/-- Two numerals, both parsed before either is looked at. -/
def parsePair (rowsText columnsText : Str) : Except PyError (Option (Int × Int)) := do
  let rows ← parseInt64 rowsText
  let columns ← parseInt64 columnsText
  match rows, columns with
  | some r, some c => return some (r, c)
  | _, _ => return none

/-- The numerals on either side of the first `x`. -/
def parseAroundX (normalized : Str) : Except PyError (Option (Int × Int)) :=
  if 'x' ∈ normalized then parsePair (Py.splitOnce 'x' normalized).1 (Py.splitOnce 'x' normalized).2 else .ok none

def parseFirstTokens (value : Str) : Except PyError (Option (Int × Int)) :=
  match tokenize value with
  | rowsText :: columnsText :: _ => parsePair rowsText columnsText
  | _ => .ok none

def parseMeshDimensions (value : Str) : Except PyError (Option (Int × Int)) := do
  match ← parseAroundX (Py.lowerAscii (Py.strip value)) with
  | some dimensions => return some dimensions
  | none => parseFirstTokens value

/-! ## Memory usage -/

/-- The usage found so far, and the values no key claimed. -/
structure MemoryScan where
  usage : MemoryUsage := {}
  unkeyedValues : List Int := []
  deriving DecidableEq

def namesUsed (key : Str) : Bool := Py.contains "used".toList key || Py.contains "allocated".toList key

def namesTotal (key : Str) : Bool :=
  Py.contains "total".toList key || Py.contains "capacity".toList key || key = "size".toList

/-- One token of a line, with the two after it. -/
def scanToken (scan : MemoryScan) (token following unit : Str) : Except PyError MemoryScan := do
  let key := Py.lowerAscii token
  if namesUsed key then
    match ← parseByteValue following unit with
    | some parsed => return { scan with usage := { scan.usage with usedBytes := some parsed } }
    | none => return scan
  else if namesTotal key then
    match ← parseByteValue following unit with
    | some parsed => return { scan with usage := { scan.usage with totalBytes := some parsed } }
    | none => return scan
  else
    match ← parseByteValue token following with
    | some parsed => return { scan with unkeyedValues := scan.unkeyedValues ++ [parsed] }
    | none => return scan

def scanTokens (scan : MemoryScan) : List Str → Except PyError MemoryScan
  | [] => .ok scan
  | token :: rest => do
    let scan ← scanToken scan token (rest.head?.getD []) (rest.tail.head?.getD [])
    scanTokens scan rest

def scanLines (scan : MemoryScan) : List Str → Except PyError MemoryScan
  | [] => .ok scan
  | line :: rest => do
    let scan ← scanTokens scan (tokenize line)
    scanLines scan rest

def parseMemoryUsage (content : Str) : Except PyError MemoryUsage := do
  let scan ← scanLines {} (Py.splitlines content)
  let used := scan.usage.usedBytes.or scan.unkeyedValues.head?
  let total := scan.usage.totalBytes.or scan.unkeyedValues[1]?
  return { usedBytes := used, totalBytes := total }

/-! ## PCI resources -/

def parsePciResource (index : Nat) (line : Str) : Option PciResource :=
  match Py.words line with
  | startText :: endText :: flagsText :: _ =>
    match parseUint64 startText, parseUint64 endText, parseUint64 flagsText with
    | some start, some stop, some flags =>
      if (start = stop ∧ stop = flags ∧ flags = 0) ∨ stop < start then none
      else some { index := index, start := start, «end» := stop, flags := flags, sizeBytes := stop - start + 1 }
    | _, _, _ => none
  | _ => none

def parsePciResources (content : Str) : List PciResource :=
  (Py.splitlines content).zipIdx.filterMap (fun (line, index) => parsePciResource index line)

example : parseMemoryUsage "used: 1.5 GiB\ntotal: 3 TiB\n".toList =
    .ok { usedBytes := some 1610612736, totalBytes := some 3298534883328 } := by decide

end Tt
