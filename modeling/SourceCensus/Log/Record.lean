/-! Log records: where they come from, how grave they are and what they say, and the time in front of
   them. -/
namespace SourceCensus.Log

inductive Level
  | debug
  | info
  | warning
  | error
  | critical
  deriving DecidableEq, Repr

namespace Level

def name : Level → String
  | .debug => "DEBUG"
  | .info => "INFO"
  | .warning => "WARNING"
  | .error => "ERROR"
  | .critical => "CRITICAL"

def number : Level → Nat
  | .debug => 10
  | .info => 20
  | .warning => 30
  | .error => 40
  | .critical => 50

def all : List Level := [.debug, .info, .warning, .error, .critical]

def ofName? (name : String) : Option Level := all.find? (·.name = name)

/-- What a program run lets through; quiet wins over verbose. -/
def chosen (verbose quiet : Bool) : Level :=
  if quiet then .error else if verbose then .debug else .warning

end Level

structure Record where
  source : String
  level : Level
  message : String
  deriving DecidableEq, Repr

def root : String := "resource_ranker"

/-- Names that do not start with the root name are put below it. -/
def sourceName : Option String → String
  | none => root
  | some name => if name.startsWith root then name else root ++ "." ++ name

/-- Whether a source, its letters backwards, hangs below the root. It hangs below the longest of those
    that were asked for and that it goes on from with a point. Where two points meet, the search leaps
    over what ends between them. -/
def hangsBelow (sources : List String) : List Char → Bool
  | '.' :: c :: rest =>
    let above := String.ofList (c :: rest).reverse
    if above = root then true
    else if sources.contains above then hangsBelow sources (c :: rest)
    else hangsBelow sources rest
  | _ :: rest => hangsBelow sources rest
  | [] => false

def Record.line (r : Record) : String := s!"{r.source} - {r.level.name} - {r.message}"

def isLeap (year : Nat) : Bool := year % 4 = 0 && (year % 100 ≠ 0 || year % 400 = 0)

def daysInYear (year : Nat) : Nat := if isLeap year then 366 else 365

def monthLengths (year : Nat) : List Nat :=
  [31, if isLeap year then 29 else 28, 31, 30, 31, 30, 31, 31, 30, 31, 30, 31]

/-- The year that a day falls in, counted from a given year, and the day's place in it. -/
def yearOf : Nat → Nat → Nat → Nat × Nat
  | 0, year, day => (year, day)
  | fuel + 1, year, day =>
    if day < daysInYear year then (year, day) else yearOf fuel (year + 1) (day - daysInYear year)

def monthOf (month day : Nat) : List Nat → Nat × Nat
  | [] => (month, day + 1)
  | length :: rest =>
    if day < length then (month, day + 1) else monthOf (month + 1) (day - length) rest

def twoDigits (value : Nat) : String :=
  if value < 10 then "0" ++ toString value else toString value

/-- Date and time of day, from the seconds since the start of 1970 without leap seconds. -/
def timeText (seconds : Nat) : String :=
  let (year, dayOfYear) := yearOf (seconds / 86400) 1970 (seconds / 86400)
  let (month, day) := monthOf 1 dayOfYear (monthLengths year)
  let time := [seconds / 3600 % 24, seconds / 60 % 60, seconds % 60]
  "-".intercalate [toString year, twoDigits month, twoDigits day] ++ " " ++
    ":".intercalate (time.map twoDigits)

end SourceCensus.Log
