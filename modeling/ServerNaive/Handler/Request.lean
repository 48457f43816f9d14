import ServerNaive.Config
import ServerNaive.Core.Connection
import ServerNaive.Routing
import ServerNaive.Transport.Padding
import ServerNaive.Uot.Wire

/-! CONNECT requests as the two backends see them, and the checks that come before the
route. -/
namespace ServerNaive
open AsyncIo StdNet

/-- The password of a `Basic` header value; `base64` is the standard engine's decoder with the
text of its errors. -/
def parseBasicAuth (base64 : String → Except String Bytes) (header : String) : Except String String :=
  match stripFront "Basic ".toList header.toList with
  | none => .error "Expected 'Basic ' prefix in Proxy-Authorization header"
  | some encoded => match base64 (String.ofList (trim encoded)) with
      | .error e => .error ("Base64 decode failed: " ++ e)
      | .ok decoded => match Uot.fromUtf8 decoded with
          | none => .error ("UTF-8 decode failed: " ++ utf8ErrorText decoded.length 0 decoded)
          | some text => match splitFirst ':' text.toList with
              | some (_, password) => .ok (String.ofList password)
              | none => .ok text

/-- As `HeaderValue::to_str`. -/
def headerToStr (value : Bytes) : Option String :=
  if value.all fun b => isVisibleAscii b.toNat then Uot.fromUtf8 value else none

/-- A request on the first backend: its method, the authority of its URI and its header map. -/
structure H2Request where
  method : String
  authority : Option String
  headers : List (String × Bytes)

/-- The first value of a header. -/
def H2Request.get (req : H2Request) (name : String) : Option Bytes :=
  (req.headers.find? fun h => h.1 = name).map Prod.snd

def utf8 (s : String) : Bytes := s.toUTF8.data.toList

/-- A request on the second backend: one list of raw headers, the pseudo-headers among them. -/
structure H3Request where
  headers : List (Bytes × Bytes)

def H3Request.find (req : H3Request) (name : String) : Option Bytes :=
  (req.headers.find? fun h => h.1 = utf8 name).map Prod.snd

/-- What the checks read of a request. -/
structure RequestView where
  method : String
  isConnect : Bool
  padding : Option Bytes
  authority : Option String
  authorization : Option String

def H2Request.view (req : H2Request) : RequestView where
  method := req.method
  isConnect := req.method = "CONNECT"
  padding := req.get "padding"
  authority := req.authority
  authorization := (req.get "proxy-authorization").bind headerToStr

def H3Request.view (req : H3Request) : RequestView where
  method := fromUtf8Lossy ((req.find ":method").getD [])
  isConnect := (req.find ":method").getD [] = utf8 "CONNECT"
  padding := req.find "padding"
  authority := (req.find ":authority").bind Uot.fromUtf8
  authorization := (req.find "proxy-authorization").bind Uot.fromUtf8

/-- What a handler hands to its transport as the response. -/
inductive Written where
  | head (status : Nat) (headers : List (String × String)) (endStream : Bool)
  | body (data : Bytes) (fin : Bool)
  deriving DecidableEq

/-- Where the two handlers differ: the text for a missing authority, how a status is sent, why
a padding value may not fit in a header, and the text in front of a failed write. -/
structure Backend where
  missingAuthority : SocketAddr → String
  sendStatus : Nat → List Written
  unfit : String → Option String
  unsent : String

/-- `headerError` is the transport's own text for a value that is no header value. -/
def pingoraBackend (headerError : String) : Backend where
  missingAuthority peer := "Missing authority in CONNECT request from " ++ peer.toString
  sendStatus status := [.head status [] true]
  unfit value :=
    if value.toList.all fun c => isVisibleAscii c.toNat then none
    else some ("append padding header: " ++ headerError)
  unsent := "write 200 response header: "

def quicheBackend : Backend where
  missingAuthority _ := "Missing :authority in H3 CONNECT request"
  sendStatus status := [.head status [] false, .body [] true]
  unfit _ := none
  unsent := "Failed to send H3-quiche 200 response: "

/-- A request that is not let through: the status it is answered with, if any, and the error. -/
structure Refusal where
  status : Option Nat
  text : String
  deriving DecidableEq

/-- What the handlers use of the server. -/
structure Server where
  authenticate : String → Option UserId
  router : Router
  config : ConnConfig
  base64 : String → Except String Bytes
  headerError : String

/-- The checks of both handlers, in their order. -/
def checkRequest (server : Server) (backend : Backend) (peer : SocketAddr) (view : RequestView) :
    Except Refusal (Address × UserId) :=
  if view.isConnect = false then .error ⟨some 405, "Expected CONNECT method, got " ++ view.method⟩
  else if view.padding = none then .error ⟨some 400, "Missing naive Padding header from " ++ peer.toString⟩
  else match view.authority with
    | none => .error ⟨none, backend.missingAuthority peer⟩
    | some authority => match Address.fromAuthority authority with
        | none => .error ⟨none, "Invalid target address: " ++ authority⟩
        | some target => match view.authorization with
            | none => .error ⟨some 407, "Missing Proxy-Authorization header"⟩
            | some value => match parseBasicAuth server.base64 value with
                | .error e => .error ⟨some 407, e⟩
                | .ok credential => match server.authenticate credential with
                    | none => .error ⟨some 407, "Authentication failed for peer " ++ peer.toString⟩
                    | some user => .ok (target, user)

/-- What a request has to bring. -/
structure Admits (server : Server) (view : RequestView) (target : Address) (user : UserId) : Prop where
  connect : view.isConnect = true
  padding : view.padding ≠ none
  target : ∃ authority, view.authority = some authority ∧ Address.fromAuthority authority = some target
  user : ∃ value credential, view.authorization = some value ∧
    parseBasicAuth server.base64 value = .ok credential ∧ server.authenticate credential = some user

/-- Whichever backend checks. -/
theorem checkRequest_ok_iff {server : Server} {backend : Backend} {peer : SocketAddr} {view : RequestView}
    {target : Address} {user : UserId} :
    checkRequest server backend peer view = .ok (target, user) ↔ Admits server view target user := by
  constructor
  · intro admitted
    unfold checkRequest at admitted
    split_ifs at admitted with other bare
    have connect : view.isConnect = true := Bool.not_eq_false _ ▸ other
    split at admitted
    · cases admitted
    · rename_i authority given
      split at admitted
      · cases admitted
      · rename_i parsed found
        split at admitted
        · cases admitted
        · rename_i value shown
          split at admitted
          · cases admitted
          · rename_i credential decoded
            split at admitted
            · cases admitted
            · rename_i known authenticated
              cases admitted
              exact ⟨connect, bare, ⟨authority, given, found⟩, ⟨value, credential, shown, decoded, authenticated⟩⟩
  · rintro ⟨connect, padded, ⟨authority, given, found⟩, ⟨value, credential, shown, decoded, authenticated⟩⟩
    simp only [checkRequest, connect, Bool.true_eq_false, if_false, if_neg padded, given, found, shown, decoded,
      authenticated]

end ServerNaive
