import Provision.Settings.Words
import Provision.Text.Pieces
/-!
Addresses of servers, and which of them can be read.

An address is a scheme, perhaps a user and an at sign, one host or several between commas, and a
slash that ends it. A host is a name or an IP address in square brackets, with a port number or
without. An address that cannot be read is refused before anything is sent.
-/

namespace Provision.Address

def scheme : String := "mongodb://"

def isHexDigit (c : Char) : Bool :=
  c.isDigit || c ∈ ['a', 'b', 'c', 'd', 'e', 'f', 'A', 'B', 'C', 'D', 'E', 'F']

/-- A port number of a host is not zero. -/
def isPortNumber (text : List Char) : Bool :=
  match readPortNumber (String.ofList text) with
  | none => false
  | some number => number ≠ 0

/-- The number of groups between colons, if each has one to four hexadecimal digits. -/
def groupCount (text : List Char) : Option Nat :=
  if text.isEmpty then some 0
  else
    let groups := Text.pieces ':' text
    if groups.all fun group => !group.isEmpty && group.length ≤ 4 && group.all isHexDigit
    then some groups.length else none

def isIpAddress (text : String) : Bool :=
  match (text.splitOn "::").map fun part => groupCount part.toList with
  | [some count] => count = 8
  | [some before, some after] => before + after < 8
  | _ => false

def isHost (text : List Char) : Bool :=
  match text with
  | '[' :: rest => match Text.cutAt ']' rest with
    | some (ip, []) => isIpAddress (String.ofList ip)
    | some (ip, ':' :: number) => isIpAddress (String.ofList ip) && isPortNumber number
    | _ => false
  | _ => match Text.cutAt ':' text with
    | some (name, number) => !name.isEmpty && isPortNumber number
    | none => !text.isEmpty

def isEscaped : List Char → Bool
  | '%' :: high :: low :: rest => isHexDigit high && isHexDigit low && isEscaped rest
  | '%' :: _ => false
  | _ :: rest => isEscaped rest
  | [] => true

def isCredential (text : List Char) : Bool :=
  isEscaped text && !text.any fun c => c ∈ [':', '/', '?', '#', '[', ']', '@']

/-- A name, and perhaps a password behind a colon. The name must not be empty. -/
def isUser (text : List Char) : Bool :=
  match Text.cutAt ':' text with
  | some (name, password) => !name.isEmpty && isCredential name && isCredential password
  | none => !text.isEmpty && isCredential text

/-- Hosts, behind the last at sign if there is one. -/
def isAuthority (text : List Char) : Bool :=
  match Text.cutAt '@' text.reverse with
  | some (hosts, user) => isUser user.reverse && (Text.pieces ',' hosts.reverse).all isHost
  | none => (Text.pieces ',' text).all isHost

/-- Whether an address can be read. Nothing follows its slash. -/
def isReadable (address : String) : Bool :=
  let text := address.toList
  scheme.toList.isPrefixOf text &&
    match Text.cutAt '/' (text.drop scheme.length) with
    | some (authority, []) => isAuthority authority
    | _ => false

end Provision.Address
