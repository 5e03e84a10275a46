import CollectionSearch.Url.Ipv4
import CollectionSearch.Url.Ipv6
import CollectionSearch.Url.Label

/-!
# Hosts

The host of a URL: an address, or a name. Where names are those of domains they are read with
percent escapes resolved and in lower case; elsewhere they are opaque and only made safe.

* `UrlFault` : why a text is no URL, and `UrlFault.message` : the wording.
* `Host` : the hosts; `Host.text` : their text in a URL.
* `Host.ofDomain` : the host of a text where names are those of domains.
* `Host.ofOpaque` : the host of a text where names are opaque.

Names of domains are ASCII here. Other scripts come in labels of the special form only.
-/

namespace CollectionSearch

/-! ## Faults -/

/-- Why a text is no URL. -/
inductive UrlFault where
  /-- It does not begin with a scheme. -/
  | relative
  /-- There is no host where there must be one. -/
  | emptyHost
  /-- The host is no name of a domain. -/
  | domainName
  /-- The port is no number of 16 bits. -/
  | port
  /-- The host ends like an IPv4 address and is none. -/
  | ipv4
  /-- The host is in brackets and is no IPv6 address. -/
  | ipv6
  /-- The host has a character that no host has. -/
  | hostCharacter
  deriving DecidableEq

/-- The wording of a fault. -/
def UrlFault.message : UrlFault → String
  | relative => "relative URL without a base"
  | emptyHost => "empty host"
  | domainName => "invalid international domain name"
  | port => "invalid port number"
  | ipv4 => "invalid IPv4 address"
  | ipv6 => "invalid IPv6 address"
  | hostCharacter => "invalid domain character"

/-! ## Hosts -/

/-- The host of a URL. -/
inductive Host where
  | name (s : String)
  | ipv4 (a : Ipv4)
  | ipv6 (a : Ipv6)

namespace Host

/-- The text of a host. -/
def text : Host → String
  | name s => s
  | ipv4 a => a.text
  | ipv6 a => "[" ++ a.text ++ "]"

/-- The host of a text that begins with a bracket. -/
def ofBracketed (cs : List Char) : Except UrlFault Host :=
  if cs.getLast? = some ']' then
    match Ipv6.ofChars? (cs.drop 1).dropLast with
    | some a => .ok (.ipv6 a)
    | none => .error .ipv6
  else .error .ipv6

/-! ## Domains -/

/-- The characters with every percent sign and two hexadecimal digits replaced by the character
of that number. -/
def percentDecode : List Char → List Char
  | [] => []
  | '%' :: a :: b :: cs =>
    match Text.ofDigits? 16 [a, b] with
    | some n => Char.ofNat n :: percentDecode cs
    | none => '%' :: percentDecode (a :: b :: cs)
  | c :: cs => c :: percentDecode cs

/-- The marks that no name of a domain has. -/
def domainMarks : List Char :=
  ['%', '#', '/', ':', '<', '>', '?', '@', '[', '\\', ']', '^', '|']

/-- Whether a name of a domain may have a character. -/
def isDomainChar (c : Char) : Bool :=
  32 < c.toNat && c.toNat < 127 && !domainMarks.contains c

/-- The name of a domain in lower case. -/
def domainName (cs : List Char) : Except UrlFault (List Char) :=
  let name := (percentDecode cs).map Char.toLower
  if name.all isDomainChar && Url.Label.areValid (Text.splitChars '.' name) then .ok name
  else .error .domainName

/-- The host of a text where names are those of domains. -/
def ofDomain (cs : List Char) : Except UrlFault Host :=
  if cs.head? = some '[' then ofBracketed cs
  else do
    let name ← domainName cs
    if Ipv4.endsInNumber name then
      match Ipv4.ofChars? name with
      | some a => .ok (.ipv4 a)
      | none => .error .ipv4
    else .ok (.name (String.ofList name))

/-! ## Opaque names -/

/-- The characters that no host has. -/
def hostMarks : List Char :=
  ['\x00', '\t', '\n', '\r', ' ', '#', '/', ':', '<', '>', '?', '@', '[', '\\', ']', '^', '|']

/-- A byte as a percent sign and two upper-case hexadecimal digits. -/
def percentByte (b : UInt8) : List Char :=
  let digits := (Text.hexDigits b.toNat).map Char.toUpper
  '%' :: (List.replicate (2 - digits.length) '0' ++ digits)

/-- A character, escaped if it is a control or beyond ASCII. -/
def percentEncode (c : Char) : List Char :=
  if 32 ≤ c.toNat ∧ c.toNat < 127 then [c]
  else (String.utf8EncodeChar c).flatMap percentByte

/-- The host of a text where names are opaque. -/
def ofOpaque (cs : List Char) : Except UrlFault Host :=
  if cs.head? = some '[' then ofBracketed cs
  else if cs.any hostMarks.contains then .error .hostCharacter
  else .ok (.name (String.ofList (cs.flatMap percentEncode)))

/-! ## Lemmas -/

/-- The name of a domain has only characters that such names may have. -/
theorem isDomainChar_of_mem {cs name : List Char} (h : domainName cs = .ok name) :
    ∀ c ∈ name, isDomainChar c = true := by
  unfold domainName at h
  dsimp only at h
  split at h
  · rename_i hall
    cases h
    exact List.all_eq_true.mp (Bool.and_eq_true_iff.mp hall).1
  · cases h

end Host

end CollectionSearch
