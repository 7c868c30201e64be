import Provision.Report
import Provision.Settings.Words
/-!
Command line arguments.

The line takes one command word, two options with a value and one switch, in any order and each at
most once; a bare double dash makes words of all arguments after it. An option's value stands behind
an equals sign or is the next argument, which then must not look like an option. Values are checked
when the next option turns up, and asking for help ends the reading there.
-/

namespace Provision.CommandLine

structure Arguments where
  command : Option Command := none
  marker : Option MarkerMode := none
  markerVersion : Option String := none
  noVerify : Bool := false
deriving DecidableEq

inductive Flag where
  | marker
  | markerVersion
  | noVerify
  | help
deriving DecidableEq

def Flag.name : Flag → String
  | .marker => "marker"
  | .markerVersion => "marker-version"
  | .noVerify => "no-verify"
  | .help => "help"

def Flag.ofName (name : String) : Option Flag :=
  [Flag.marker, .markerVersion, .noVerify, .help].find? fun flag => decide (flag.name = name)

def commandOfWord (word : String) : Option Command :=
  if word = "up" then some .up else if word = "status" then some .status else none

/-- One argument, by its looks alone. -/
inductive Shape where
  /-- A double dash. -/
  | separator
  /-- Two dashes, a name and perhaps an equals sign with a value. -/
  | long (name : String) (value : Option String)
  /-- One dash and at least one letter. -/
  | short (letter : Char)
  | word (text : String)
deriving DecidableEq

def splitValue (cs : List Char) : String × Option String :=
  let name := cs.takeWhile (· ≠ '=')
  match cs.dropWhile (· ≠ '=') with
  | [] => (String.ofList name, none)
  | _ :: value => (String.ofList name, some (String.ofList value))

def shape (argument : String) : Shape :=
  match argument.toList with
  | ['-', '-'] => .separator
  | '-' :: '-' :: rest => let (name, value) := splitValue rest; .long name value
  | '-' :: letter :: _ => .short letter
  | _ => .word argument

/-- A value that was read and not yet checked, or an option that waits for its value. -/
inductive Pending where
  | nothing
  | command (word : String)
  | marker (word : Option String)
  | markerVersion (text : Option String)
deriving DecidableEq

/-- Checks what is pending and takes it over. A value that is missing, unknown or given twice is
refused. -/
def settle (arguments : Arguments) : Pending → Option Arguments
  | .nothing => some arguments
  | .command word => match arguments.command, commandOfWord word with
    | none, some command => some { arguments with command }
    | _, _ => none
  | .marker word => match arguments.marker, word.bind MarkerMode.ofWord with
    | none, some mode => some { arguments with marker := some mode }
    | _, _ => none
  | .markerVersion text => match arguments.markerVersion, text with
    | none, some version => some { arguments with markerVersion := some version }
    | _, _ => none

inductive Parsed where
  | help
  | rejected
  | accepted (arguments : Arguments)
deriving DecidableEq

/-- A word is the value of an option that waits for one, or else the command. -/
def takeWord (arguments : Arguments) (pending : Pending) (text : String) :
    Option (Arguments × Pending) :=
  match pending with
  | .marker none => some (arguments, .marker (some text))
  | .markerVersion none => some (arguments, .markerVersion (some text))
  | _ => match settle arguments pending with
    | none => none
    | some settled => if settled.command.isSome then none else some (settled, .command text)

def takeOption (arguments : Arguments) (start : Option String → Pending)
    (value : Option String) : Option (Arguments × Pending) :=
  match value with
  | none => some (arguments, start none)
  | some _ => (settle arguments (start value)).map fun settled => (settled, .nothing)

def readWords (arguments : Arguments) (pending : Pending) : List String → Parsed
  | [] => match settle arguments pending with
    | none => .rejected
    | some settled => .accepted settled
  | text :: rest => match settle arguments pending with
    | none => .rejected
    | some settled =>
      if settled.command.isSome then .rejected else readWords settled (.command text) rest

def readFrom (arguments : Arguments) (pending : Pending) : List String → Parsed
  | [] => match settle arguments pending with
    | none => .rejected
    | some settled => .accepted settled
  | argument :: rest =>
    let goOn (next : Option (Arguments × Pending)) : Parsed := match next with
      | none => .rejected
      | some (arguments, pending) => readFrom arguments pending rest
    match shape argument with
    | .separator => readWords arguments pending rest
    | .word text => goOn (takeWord arguments pending text)
    | .short letter =>
      if letter = 'h' ∧ (settle arguments pending).isSome then .help else .rejected
    | .long name value => match Flag.ofName name, settle arguments pending with
      | some .help, some _ => if value.isSome then .rejected else .help
      | some .noVerify, some settled =>
        if value.isSome || settled.noVerify then .rejected
        else goOn (some ({ settled with noVerify := true }, .nothing))
      | some .marker, some settled => goOn (takeOption settled .marker value)
      | some .markerVersion, some settled => goOn (takeOption settled .markerVersion value)
      | _, _ => .rejected

def read (line : List String) : Parsed :=
  readFrom {} .nothing line

end Provision.CommandLine
