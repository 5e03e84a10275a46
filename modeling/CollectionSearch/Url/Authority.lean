import CollectionSearch.Url.Host

/-!
# Authorities

The part of a URL after the two slashes: credentials up to the last `@`, a host, and a port after
a colon.

* `Authority` : host and port.
* `Authority.ofChars` : the authority at the front of a text.

Where names are those of domains there must be a host, and a backslash counts as a slash.
Elsewhere the host may be missing, but then neither credentials nor a port may be there.
-/

namespace CollectionSearch

/-- The host and the port of a URL. -/
structure Authority where
  /-- The host, if there is one. -/
  host : Option Host := none
  /-- The port, unless it is the usual one. -/
  port : Option UInt16 := none

namespace Authority

/-- Whether a character ends the authority. -/
def isEnd (domains : Bool) (c : Char) : Bool :=
  c = '/' || c = '?' || c = '#' || (domains && c = '\\')

/-- The credentials, if there are any, and the rest. -/
def splitCredentials (cs : List Char) : Option (List Char) × List Char :=
  let rest := (cs.reverse.takeWhile fun c => c ≠ '@').reverse
  if cs.contains '@' then (some (cs.take (cs.length - rest.length - 1)), rest) else (none, cs)

/-- The text of the host, and that of the port if there is a colon outside brackets. -/
def splitPort (inside : Bool) : List Char → List Char × Option (List Char)
  | [] => ([], none)
  | c :: cs =>
    if c = ':' ∧ inside = false then ([], some cs)
    else
      let (host, port) := splitPort (c = '[' || (inside && c ≠ ']')) cs
      (c :: host, port)

/-- The port of a text, unless it is empty or the usual one. -/
def portOf (usual : Option Nat) (cs : List Char) : Except UrlFault (Option UInt16) :=
  let digits := cs.takeWhile Char.isDigit
  match cs.dropWhile Char.isDigit, Text.ofDigits? 10 digits with
  | [], some n | '\\' :: _, some n =>
    if 65536 ≤ n then .error .port
    else if digits.isEmpty ∨ usual = some n then .ok none
    else .ok (some (UInt16.ofNat n))
  | _, _ => .error .port

/-- The host of a text. -/
def hostOf (domains : Bool) (cs : List Char) : Except UrlFault (Option Host) :=
  if domains then
    if cs.isEmpty then .error .emptyHost else (Host.ofDomain cs).map some
  else if cs.isEmpty then .ok none
  else (Host.ofOpaque cs).map some

/-- Whether credentials name a user or have a password. -/
def areGiven (credentials : Option (List Char)) : Bool :=
  match credentials with
  | none | some [] | some [':'] => false
  | _ => true

/-- The authority at the front of a text. -/
def ofChars (domains : Bool) (usual : Option Nat) (cs : List Char) : Except UrlFault Authority := do
  let front := cs.takeWhile fun c => !isEnd domains c
  let (credentials, place) := splitCredentials front
  if credentials = some [] ∧ place = [] ∧ front.length < cs.length then throw .emptyHost
  let (hostText, portText) := splitPort false place
  let host ← hostOf domains hostText
  if host.isNone ∧ portText.isSome then throw .emptyHost
  let port ← match portText with
    | some text => portOf usual text
    | none => pure none
  if host.isNone ∧ areGiven credentials then throw .emptyHost
  return { host, port }

end Authority

end CollectionSearch
