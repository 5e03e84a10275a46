import CollectionSearch.Decode.Record
import CollectionSearch.Url.Basic

/-!
# Clients

How a client reaches the search service.

* `ClientConfig` : the settings and their JSON form.
* `Node` : host, port and protocol; `ClientConfig.node` takes them from the URL.
* `ConfigError` : why there is no node.
-/

namespace CollectionSearch

/-! ## Nodes -/

/-- Where the search service listens. -/
structure Node where
  /-- The host, an IPv6 address in brackets. -/
  host : String
  /-- The port. -/
  port : UInt16
  /-- The scheme of the URL. -/
  protocol : String
  deriving DecidableEq

/-- Why a URL names no node. -/
inductive UrlDefect where
  /-- The text is no URL. -/
  | fault (f : UrlFault)
  /-- The URL has no host. -/
  | missingHost
  deriving DecidableEq

/-- The wording of a defect. -/
def UrlDefect.message : UrlDefect → String
  | fault f => f.message
  | missingHost => "missing host"

/-- Why settings cannot be used. -/
inductive ConfigError where
  /-- The URL names no node. -/
  | invalidUrl (url : String) (defect : UrlDefect)
  deriving DecidableEq

/-- The wording of an error. -/
def ConfigError.message : ConfigError → String
  | invalidUrl url defect => "Invalid Typesense URL: " ++ url ++ ": " ++ defect.message

/-- The port of a node whose URL names none, whatever the scheme. -/
def Node.usualPort : UInt16 := 443

/-- The node of a URL. -/
def Node.ofUrl (url : String) : Except ConfigError Node :=
  match Url.parse url with
  | .error f => .error (.invalidUrl url (.fault f))
  | .ok u =>
    match u.authority.host with
    | some h =>
      if h.text.isEmpty then .error (.invalidUrl url .missingHost)
      else .ok ⟨h.text, u.authority.port.getD Node.usualPort, u.scheme⟩
    | none => .error (.invalidUrl url .missingHost)

/-! ## Settings -/

/-- How a client reaches the search service. -/
structure ClientConfig where
  /-- The URL of the service. -/
  url : String
  /-- The key that the service asks for. -/
  apiKey : String
  /-- How many seconds to wait for a connection. -/
  connectionTimeout : UInt64 := 2
  /-- Whether the key is sent as a parameter and not in a header. -/
  keyAsParameter : Bool := true

namespace ClientConfig

/-- The parts of the settings. -/
def record : Record Json ClientConfig :=
  ClientConfig.mk <$> Record.required "url" decodeString
    <*> Record.required "api_key" decodeString
    <*> Record.defaulted "connection_timeout_secs" 2 decodeUInt64
    <*> Record.defaulted "send_api_key_as_query_param" true decodeBool

/-- Reads settings. -/
def decode : Decoder Json ClientConfig := record.decode "ClientConfig"

/-- The node that the client talks to. -/
def node (c : ClientConfig) : Except ConfigError Node := Node.ofUrl c.url

end ClientConfig

end CollectionSearch
