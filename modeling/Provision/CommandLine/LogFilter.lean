import Provision.CommandLine.Directive
/-!
Which events a command prints.

The operator chooses by directives between commas. Of the directives about an event the most
specific one decides, and an event that no directive is about is not printed.
-/

namespace Provision.CommandLine

def logVariable : String := "RUST_LOG"

namespace Directive

/-- What is printed if nothing was chosen: information and up, of the program's two parts. -/
def standard : List Directive :=
  [{ origin := "bootstrap", amount := .upFrom .info },
    { origin := "db_infra", amount := .upFrom .info }]

/-- Keeps the directive found so far only if it is the more specific one, so that of equals the last
is kept. -/
def moreSpecific (found : Option Directive) (next : Directive) : Option Directive :=
  match found with
  | none => some next
  | some best => if next.isBelow best then some best else some next

def decisive (directives : List Directive) (event : Event) : Option Directive :=
  (directives.filter (·.concerns event)).foldl moreSpecific none

theorem foldl_moreSpecific_isSome {found : Option Directive} {directives : List Directive} :
    (directives.foldl moreSpecific found).isSome = (found.isSome || !directives.isEmpty) := by
  induction directives generalizing found with
  | nil => simp
  | cons first rest ih =>
    have some : (moreSpecific found first).isSome = true := by
      cases found with
      | none => rfl
      | some best => simp only [moreSpecific]; split <;> rfl
    simp [ih, some]

/-- An event is undecided exactly when no directive is about it. -/
theorem decisive_eq_none_iff {directives : List Directive} {event : Event} :
    decisive directives event = none ↔ ∀ d ∈ directives, d.concerns event = false := by
  rw [← Option.isNone_iff_eq_none, ← Option.not_isSome, decisive, foldl_moreSpecific_isSome]
  simp [List.filter_eq_nil_iff]

end Directive

/-- A text that is no list of directives chooses nothing. -/
def isPrinted (choice : Option String) (event : Event) : Bool :=
  match Directive.decisive ((choice.bind Directive.listOfText).getD Directive.standard) event with
  | none => false
  | some directive => directive.amount.covers event.level

def printedLines (choice : Option String) (log : List Event) : List String :=
  (log.filter (isPrinted choice)).map Event.line

end Provision.CommandLine
