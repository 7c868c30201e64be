import Provision.Event
import Provision.Settings.Words
import Provision.Text.Alphanumeric
import Provision.Text.Blank
import Provision.Text.Pieces
/-!
Directives: what an operator says about the events to print.

A directive is about the events whose origin starts with the name it gives, or about all if it gives
none; in square brackets it may ask for a field; and it says from which level up events are printed.
-/

namespace Provision.CommandLine

inductive Amount where
  | nothing
  | upFrom (least : Level)
deriving DecidableEq

namespace Amount

def everything : Amount := .upFrom .debug

def covers (amount : Amount) (level : Level) : Bool :=
  match amount with
  | .nothing => false
  | .upFrom least => least.rank ≤ level.rank

/-- The words for amounts, each at the place that is its number. No event is below debugging, so the
last two say the same. -/
def words : List (String × Amount) :=
  [("off", .nothing), ("error", .upFrom .error), ("warn", .upFrom .warn), ("info", .upFrom .info),
    ("debug", .upFrom .debug), ("trace", everything)]

/-- Reads a word in any case or its number. -/
def ofText (text : String) : Option Amount :=
  match Text.unsigned text with
  | some number => words[number]?.map (·.2)
  | none => words.lookup (Text.lowered text)

def ofLevel (level : List Char) : Option Amount :=
  if level.isEmpty then some everything else ofText (String.ofList level)

end Amount

inductive Narrowing where
  | all
  | withField (name : String)
  /-- Events inside a named span, or with a given value in a field of a span. A run opens none. -/
  | insideSpan
deriving DecidableEq

namespace Narrowing

def allows (narrowing : Narrowing) (event : Event) : Bool :=
  match narrowing with
  | .all => true
  | .withField name => name ∈ "message" :: event.fields.map (·.1)
  | .insideSpan => false

/-- A field is more specific than none, and of two fields the one with the greater name. -/
def isBelow : Narrowing → Narrowing → Bool
  | .all, .withField _ => true
  | .withField name, .withField other => name < other
  | _, _ => false

/-- Reads a narrowing behind its opening bracket, and gives the rest behind the closing one. -/
def read (text : List Char) : Option (Narrowing × List Char) :=
  let inName (c : Char) : Bool := c ≠ ']' && c ≠ '\x7b'
  match text.dropWhile inName with
  | ']' :: rest => some (.insideSpan, rest)
  | '\x7b' :: rest => match Text.cutAt '\x7d' rest with
    | some ([], _) => none
    | some (field, ']' :: rest) =>
      if (text.takeWhile inName).isEmpty && '=' ∉ field
      then some (.withField (String.ofList field), rest)
      else some (.insideSpan, rest)
    | _ => none
  | _ => none

end Narrowing

structure Directive where
  /-- How the origin starts of the events it is about. -/
  origin : String := ""
  narrowing : Narrowing := .all
  amount : Amount
deriving DecidableEq

namespace Directive

def concerns (directive : Directive) (event : Event) : Bool :=
  directive.origin.toList.isPrefixOf event.origin.toList && directive.narrowing.allows event

/-- Holds when the other directive is the more specific one: it gives a longer name, or else asks
for more in brackets. -/
def isBelow (directive other : Directive) : Bool :=
  directive.origin.length < other.origin.length ||
    directive.origin.length == other.origin.length && directive.narrowing.isBelow other.narrowing

def startsWell (text : List Char) : Bool :=
  match text.dropWhile Text.isBlank with
  | [] => false
  | c :: _ => c ∈ ['[', '-', ':', '_'] || Text.isAlphanumeric c

/-- Reads a directive. One without brackets and equals sign is a level for all events, or else a
name whose events are all printed. Blanks belong to the names and levels they stand beside, and a
directive that starts with a blank may not give a level behind an equals sign. -/
def ofText (text : String) : Option Directive :=
  let cs := text.toList
  let inName (c : Char) : Bool := c ≠ '=' && c ≠ '['
  let origin := String.ofList (cs.takeWhile inName)
  let readLevel (level : List Char) : Option Amount :=
    if (cs.take 1).any Text.isBlank then none else Amount.ofLevel level
  if !startsWell cs then none
  else match cs.dropWhile inName with
    | [] => match Amount.ofText text with
      | some amount => some { amount }
      | none => some { origin, amount := .everything }
    | '=' :: level => (readLevel level).map fun amount => { origin, amount }
    | _ :: rest => match Narrowing.read rest with
      | none => none
      | some (narrowing, '=' :: level) =>
        (readLevel level).map fun amount => { origin, narrowing, amount }
      | some (narrowing, rest) =>
        if rest.all Text.isBlank then some { origin, narrowing, amount := .everything } else none

/-- Reads directives between commas. Empty ones are passed over, and one that is no directive spoils
the whole text. -/
def listOfText (text : String) : Option (List Directive) :=
  ((Text.pieces ',' text.toList).filter (!·.isEmpty)).mapM (ofText <| String.ofList ·)

end Directive

end Provision.CommandLine
