import Talk.Lib.Document
import Talk.Lib.Hex
import Talk.Lib.Text

/-!
# Domain keys and endpoints from the DNS

How a client finds a server's domain key and its endpoint: with one DNS-over-HTTPS request each, for
the TXT and the SRV record of the service, unless the domain is the designated counterparty's. The
HTTP agent, the reader of JSON documents and the texts of their errors are parameters, and so are
the variables of the environment.
-/

namespace Talk.Protocol.Dns

open Text Document Hex

/-- `SRV_SERVICE`. -/
def srvService : String := "_zpayments._tcp"

/-- `COUNTERPARTY_DOMAIN`. -/
def defaultCounterparty : String := "example.com"

/-- `ResolverError`. -/
inductive ResolverError where
  /-- There is no key. -/
  | notFound (name : String)
  /-- The answer is malformed. -/
  | malformed (text : String)
  /-- The key is not a key. -/
  | invalidKey (text : String)
  /-- There is no endpoint. -/
  | noSrv (domain : String)
  /-- The request failed. -/
  | http (text : String)
  deriving DecidableEq

/-! ## The counterparty -/

/-- The variables of the environment. -/
abbrev Env := String → Option String

/-- `counterparty_domain`. -/
def counterpartyDomain (env : Env) : String :=
  (env "COUNTERPARTY_DOMAIN").getD defaultCounterparty

/-- `is_counterparty`. -/
def isCounterparty (env : Env) (domain : String) : Bool :=
  eqIgnoreAsciiCase domain (counterpartyDomain env)

/-- `counterparty_endpoint`. -/
def counterpartyEndpoint (env : Env) : Option String :=
  (env "COUNTERPARTY_PORT_SMTP").bind fun text =>
    (parseUnsigned (2 ^ 16) (trim text)).map fun port => "127.0.0.1:" ++ toString port

/-- The readers of keys. -/
structure KeyReader (Key : Type) where
  /-- `hex::decode`, with the text of its error. -/
  hex : String → Except String (List UInt8)
  /-- The base64 decoder, with the text of its error. -/
  base64 : String → Except String (List UInt8)
  /-- `VerifyingKey::from_bytes`, with the text of its error. -/
  fromBytes : Block 32 → Except String Key

/-- The key that decoded bytes are. -/
def KeyReader.key {Key : Type} (reader : KeyReader Key) (decoded : Except String (List UInt8)) :
    Except ResolverError Key :=
  match decoded with
  | .error text => .error (.invalidKey text)
  | .ok bytes =>
    if size : bytes.length = 32 then
      match reader.fromBytes ⟨bytes, size⟩ with
      | .error text => .error (.invalidKey text)
      | .ok key => .ok key
    else .error (.invalidKey "expected 32 bytes")

/-- `counterparty_key`. -/
def counterpartyKey {Key : Type} (env : Env) (reader : KeyReader Key) : Except ResolverError Key :=
  match env "COUNTERPARTY_DOMAINKEY_HEX" with
  | none => .error (.notFound (counterpartyDomain env))
  | some raw => reader.key (reader.hex (trim raw))

/-! ## Queries -/

/-- `DnsAnswer`. -/
structure DnsAnswer where
  /-- The type of the record. -/
  type : Int
  /-- What it says. -/
  data : String
  deriving DecidableEq

/-- A `DnsAnswer` as it is deserialized. -/
def DnsAnswer.read : Value → Option DnsAnswer
  | .object fields => do
    let type ← required readI32 "type" fields
    let data ← defaulted "" readString "data" fields
    some ⟨type, data⟩
  | .array [type] => (readI32 type).map fun type => ⟨type, ""⟩
  | .array [type, data] => do
    let type ← readI32 type
    let data ← readString data
    some ⟨type, data⟩
  | _ => none

/-- `DnsResponse`. -/
structure DnsResponse where
  /-- The status. -/
  status : Int
  /-- The answers. -/
  answer : List DnsAnswer
  deriving DecidableEq

/-- A `DnsResponse` as it is deserialized: its fields have the names of the source, and defaults. -/
def DnsResponse.read : Value → Option DnsResponse
  | .object fields => do
    let status ← defaulted 0 readI32 "status" fields
    let answer ← defaulted [] (readList DnsAnswer.read) "answer" fields
    some ⟨status, answer⟩
  | .array [] => some ⟨0, []⟩
  | .array [status] => (readI32 status).map fun status => ⟨status, []⟩
  | .array [status, answer] => do
    let status ← readI32 status
    let answer ← readList DnsAnswer.read answer
    some ⟨status, answer⟩
  | _ => none

/-- `DohClient`. -/
structure DohClient where
  /-- The server. -/
  endpoint : String
  /-- The HTTP agent: the body that answers a request for JSON, or the text of an error. -/
  agent : String → Except String String
  /-- The reader of JSON documents, with the text of its error. -/
  document : String → Except String Value
  /-- The text of the error for a document that is no response. -/
  refusal : String → String

/-- The URL of a query. -/
def DohClient.url (client : DohClient) (name type : String) : String :=
  client.endpoint ++ "?name=" ++ name ++ "&type=" ++ type

/-- The data of a record without the quotes around it: first the double quotes go, then the single
ones. -/
def unquoted (data : String) : String :=
  trimMatches (fun c => c == '\x27') (trimMatches (fun c => c == '"') data)

/-- What a query returns of a response: the data of the TXT and the SRV records. -/
def DnsResponse.records (parsed : DnsResponse) : List String :=
  (parsed.answer.filter fun answer => answer.type == 16 || answer.type == 33).map fun answer =>
    unquoted answer.data

/-- `DohClient::query`. -/
def DohClient.query (client : DohClient) (name type : String) :
    Except ResolverError (List String) :=
  match client.agent (client.url name type) with
  | .error text => .error (.http text)
  | .ok body =>
    match client.document body with
    | .error text => .error (.malformed text)
    | .ok document =>
      match DnsResponse.read document with
      | none => .error (.malformed (client.refusal body))
      | some parsed =>
        if parsed.status ≠ 0 then .error (.notFound name) else .ok parsed.records

/-- The name under which the records of a domain stand. -/
def serviceName (domain : String) : String := srvService ++ "." ++ domain

/-- `DohDomainKeyResolver::resolving_key`. -/
def resolvingKey {Key : Type} (client : DohClient) (env : Env) (reader : KeyReader Key)
    (domain : String) : Except ResolverError Key :=
  if isCounterparty env domain then counterpartyKey env reader
  else match client.query (serviceName domain) "TXT" with
  | .error error => .error error
  | .ok records =>
    match records.head? with
    | none => .error (.notFound domain)
    | some record => reader.key (reader.base64 record)

/-! ## Endpoints -/

/-- An SRV record: priority, weight, port and target. -/
structure Srv where
  /-- The priority, of which the lowest is best. -/
  priority : Nat
  /-- The weight. -/
  weight : Nat
  /-- The port. -/
  port : Nat
  /-- The target. -/
  target : String
  deriving DecidableEq

/-- `parse_srv`. -/
def parseSrv (data : String) : Option Srv :=
  match splitWhitespace data with
  | priority :: weight :: port :: target :: _ => do
    let priority ← parseUnsigned (2 ^ 16) priority
    let weight ← parseUnsigned (2 ^ 16) weight
    let port ← parseUnsigned (2 ^ 16) port
    if target = "" then none else some ⟨priority, weight, port, target⟩
  | _ => none

/-- A record replaces the best one so far. -/
def better (best : Option Srv) (parsed : Srv) : Bool :=
  match best with
  | none => true
  | some srv => decide (parsed.priority < srv.priority)

/-- The loop over the records, with the best one so far. -/
def bestOf (best : Option Srv) : List String → Option Srv
  | [] => best
  | data :: records =>
    match parseSrv data with
    | none => bestOf best records
    | some parsed => bestOf (if better best parsed then some parsed else best) records

/-- The endpoint of a record. -/
def Srv.endpoint (srv : Srv) : String := srv.target ++ ":" ++ toString srv.port

/-- `DohEndpointResolver::resolve_endpoint`. -/
def resolveEndpoint (client : DohClient) (env : Env) (domain : String) :
    Except ResolverError String :=
  if isCounterparty env domain then
    match counterpartyEndpoint env with
    | none => .error (.noSrv domain)
    | some endpoint => .ok endpoint
  else match client.query (serviceName domain) "SRV" with
  | .error error => .error error
  | .ok records =>
    match bestOf none records with
    | none => .error (.noSrv domain)
    | some srv => .ok srv.endpoint

end Talk.Protocol.Dns
