import VirtualLink.Errno
import VirtualLink.Violation

namespace VirtualLink

/-- Why the environment refused. -/
inductive Cause
  | errno (code : Errno)
  | invalidUtf8
  | invalidDigit
  | emptyInteger
  | integerOverflow
  | zeroByteInPath
  | other (text : String)
deriving DecidableEq

def Cause.describe : Cause → String
  | .errno code => code.describe
  | .invalidUtf8 => "stream did not contain valid UTF-8"
  | .invalidDigit => "invalid digit found in string"
  | .emptyInteger => "cannot parse integer from empty string"
  | .integerOverflow => "number too large to fit in target type"
  | .zeroByteInPath => "file name contained an unexpected NUL byte"
  | .other text => text

/-- How far a caller can do something about an error. -/
inductive ErrorKind
  /-- A value is malformed. -/
  | validation
  /-- The call is out of sequence. -/
  | state
  /-- The environment refused. -/
  | resource
  /-- A name or a count matches nothing known. -/
  | lookup
deriving DecidableEq

/-- The name as a report shows it. -/
def ErrorKind.label : ErrorKind → String
  | .validation => "Validation"
  | .state => "State"
  | .resource => "Resource"
  | .lookup => "Lookup"

inductive Error
  | violation (v : Violation)
  | config (text : String)
  | state (action name : String) (up : Bool)
  | rootPoolLive
  | poolBusy (live : Nat)
  | os (action name : String) (cause : Cause)
  | io (cause : Cause)
  | poolExhausted (requested capacity : Nat)
  | shortWrite (name : String) (written length : Nat)
  | frameTooLarge (length : Nat)
  | unknownStat (name : String)
  | countMismatch (declared actual : Nat)
  | badCount (text : String)
deriving DecidableEq

namespace Error

def kind : Error → ErrorKind
  | .violation _ | .config _ => .validation
  | .state .. | .rootPoolLive | .poolBusy _ => .state
  | .os .. | .io _ | .poolExhausted .. | .shortWrite .. | .frameTooLarge _ => .resource
  | .unknownStat _ | .countMismatch .. | .badCount _ => .lookup

/-- The name as a report shows it. -/
def label : Error → String
  | .violation _ => "Validation"
  | .config _ => "Config"
  | .state .. => "State"
  | .rootPoolLive => "RootPoolLive"
  | .poolBusy _ => "PoolBusy"
  | .os .. => "Os"
  | .io _ => "Io"
  | .poolExhausted .. => "PoolExhausted"
  | .shortWrite .. => "ShortWrite"
  | .frameTooLarge _ => "FrameTooLarge"
  | .unknownStat _ => "UnknownStat"
  | .countMismatch .. => "CountMismatch"
  | .badCount _ => "BadCount"

/-- Only a caller that breaks the order of calls meets such an error. -/
def isProgramming (error : Error) : Bool :=
  error.kind == .state

def message : Error → String
  | .violation v => v.message
  | .config text => s!"config error: {text}"
  | .state action name true => s!"{action} not permitted: interface {name} is up"
  | .state action name false => s!"{action} not permitted: interface {name} is down"
  | .rootPoolLive => "a root pool is already live on this thread"
  | .poolBusy live => s!"root pool still has {live} live interface pool(s)"
  | .os action name cause => s!"unable to {action} for {name}: {cause.describe}"
  | .io cause => s!"I/O error: {cause.describe}"
  | .poolExhausted requested capacity => s!"pool exhausted: requested {requested} bytes, capacity {capacity}"
  | .shortWrite name written length => s!"short write on {name}: {written} of {length} bytes"
  | .frameTooLarge length => s!"received frame of {length} bytes exceeds the 255-byte framing limit"
  | .unknownStat name => s!"unknown statistic {name}"
  | .countMismatch declared actual => s!"count mismatch: declared {declared}, found {actual} element(s)"
  | .badCount text => "malformed count prefix " ++ Quoted.text text

/-- What the environment said, where it was asked. -/
def source? : Error → Option String
  | .os _ _ cause | .io cause => some cause.describe
  | _ => none

end Error

/-- Why a handle was not given up: the interface is still up, or pools still depend on the root. -/
inductive Rejection
  | interfaceUp (name : String)
  | poolsLive (count : Nat)
deriving DecidableEq

namespace Rejection

def error : Rejection → Error
  | .interfaceUp name => .state "destroy" name true
  | .poolsLive count => .poolBusy count

/-- The rejection with its fields by name, without the handle. -/
def debugText : Rejection → String
  | .interfaceUp name =>
    "Rejected \x7b error: State \x7b op: \"destroy\", name: " ++ Quoted.text name ++ ", state: Up \x7d, .. \x7d"
  | .poolsLive count => s!"Rejected \x7b error: PoolBusy \x7b live: {count} \x7d, .. \x7d"

end Rejection

end VirtualLink
