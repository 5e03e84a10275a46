import CollectionSearch.Url.Authority
import CollectionSearch.Url.FilePath

/-!
# URLs

Absolute URLs, as far as they name a host: scheme, host and port.

* `Url` : the URLs; `Url.parse` : a URL from its text.

Controls and spaces around the text count for nothing, and tabs and line breaks nowhere. The
schemes of the web always have an authority, whatever number of slashes is written; files have
one after two slashes, where the name of the own machine or a drive letter means none; all other
schemes have one after exactly two slashes.
-/

namespace CollectionSearch

/-- A URL. -/
structure Url where
  /-- The scheme in lower case. -/
  scheme : String
  /-- Host and port. -/
  authority : Authority

namespace Url

/-! ## Schemes -/

/-- The schemes of the web, with the port that is meant when none is given. -/
def webSchemes : List (String × Nat) :=
  [("http", 80), ("https", 443), ("ws", 80), ("wss", 443), ("ftp", 21)]

/-- The port that is meant when none is given. -/
def usualPort (scheme : String) : Option Nat :=
  (webSchemes.find? fun e => e.1 = scheme).map Prod.snd

/-- Whether a scheme may have a character. -/
def isSchemeChar (c : Char) : Bool := c.isAlphanum || c = '+' || c = '-' || c = '.'

/-- The scheme at the front of a text, up to a colon, in lower case. -/
def schemeOf : List Char → Option String
  | [] => none
  | c :: cs =>
    if c.isAlpha && (cs.dropWhile isSchemeChar).head? = some ':' then
      some (String.ofList ((c :: cs.takeWhile isSchemeChar).map Char.toLower))
    else none

/-! ## Files -/

/-- The name of the own machine. -/
def ownName : String := "localhost"

/-- The host of a file, given what follows the scheme, which begins with two slashes. -/
def fileHost (cs : List Char) : Except UrlFault (Option Host) := do
  let front := ((significant cs).drop 2).takeWhile fun c => !Authority.isEnd true c
  if front.isEmpty ∨ isDrive front then return none
  let host ← Host.ofDomain front
  let path := segments (dropSignificant (2 + front.length) cs)
  if host.text = ownName ∨ reachesDrive [] path then return none
  return some host

/-! ## Reading -/

/-- Whether a character counts for nothing at the ends. -/
def isMargin (c : Char) : Bool := c.toNat ≤ 32

/-- The characters of a text without its margins. -/
def withoutMargins (s : String) : List Char :=
  ((s.toList.dropWhile isMargin).reverse.dropWhile isMargin).reverse

/-- The authority after a scheme. -/
def authorityOf (scheme : String) (cs : List Char) : Except UrlFault Authority :=
  match usualPort scheme with
  | some port => Authority.ofChars true (some port) ((significant cs).dropWhile isSlash)
  | none =>
    match significant cs with
    | a :: b :: rest =>
      if scheme = "file" then
        if isSlash a && isSlash b then (fileHost cs).map fun host => { host } else .ok {}
      else if a = '/' ∧ b = '/' then Authority.ofChars false none rest
      else .ok {}
    | _ => .ok {}

/-- The URL of a text. -/
def parse (s : String) : Except UrlFault Url :=
  let cs := withoutMargins s
  match schemeOf (significant cs) with
  | some scheme =>
    (authorityOf scheme (dropSignificant (scheme.length + 1) cs)).map fun authority =>
      { scheme, authority }
  | none => .error .relative

end Url

end CollectionSearch
