import BrokerRelay.Base64
import BrokerRelay.Dial.ProxyClient
import BrokerRelay.Text.Split
/-!
# HTTP CONNECT

The negotiation with an HTTP proxy: one request for a tunnel to the target, and the head of the
response, read byte by byte up to its empty line so that no byte of the tunnel is taken. The tunnel
stands when the status is `200`.
-/

namespace BrokerRelay.Dial.HttpConnect

/-- The greatest size of a response head. -/
def maxHead : Nat := 8192

/-- A line with its ending. -/
def line (text : String) : Bytes := Bytes.encodeUtf8 text ++ [13, 10]

/-- The credentials of basic authentication. -/
def token (k : Config.Credentials) : Bytes :=
  Base64.encode (Bytes.encodeUtf8 k.username ++ 58 :: Bytes.encodeUtf8 k.password)

/-- The field that carries the credentials. -/
def authorization : Option Config.Credentials → Bytes
  | none => []
  | some k => Bytes.encodeUtf8 "Proxy-Authorization: Basic " ++ token k ++ [13, 10]

/-- The request for a tunnel. -/
def request (c : ProxyClient) (target : String) : Bytes :=
  line ("CONNECT " ++ target ++ " HTTP/1.1") ++ line ("Host: " ++ target)
    ++ authorization c.credentials ++ [13, 10]

/-- The bytes read so far, last one first, end with an empty line. -/
def endsHead : Bytes → Bool
  | 10 :: 13 :: 10 :: 13 :: _ => true
  | _ => false

/-- Reads a response head of at most `room` more bytes; `read` holds what has been read, last byte
first. -/
def readHead (c : ProxyClient) : Nat → Bytes → Talk DialFailure Bytes
  | 0, read =>
    if endsHead read then pure read.reverse
    else .fail (c.handshakeFailed s!"response header exceeds {maxHead} bytes")
  | room + 1, read =>
    if endsHead read then pure read.reverse
    else .receiveByte c.streamFailed fun b => readHead c room (b :: read)

/-- The first line of a response head. -/
def statusLine (head : List Char) : List Char := (Text.lines head).headD []

/-- The protocol version and the status of a status line. -/
def versionAndStatus (status : List Char) : List Char × List Char :=
  match Text.splitAt ' ' status with
  | version :: code :: _ => (version, code)
  | version :: [] => (version, [])
  | [] => ([], [])

/-- Checks the status line of a response. -/
def checkStatus (c : ProxyClient) (status : List Char) : Except DialFailure Unit :=
  let (version, code) := versionAndStatus status
  let shown := Text.quoted (String.ofList status)
  if !"HTTP/1.".toList.isPrefixOf version || (Bytes.encodeChars code).length ≠ 3 then
    .error (c.handshakeFailed ("malformed response: " ++ shown))
  else if code ≠ "200".toList then
    .error (c.handshakeFailed ("proxy responded with " ++ shown))
  else .ok ()

/-- Checks a response head. -/
def checkHead (c : ProxyClient) (head : Bytes) : Except DialFailure Unit :=
  match Bytes.decodeChars head with
  | .error _ => .error (c.handshakeFailed "response header is not UTF-8")
  | .ok cs => checkStatus c (statusLine cs)

/-- The whole negotiation for a target. -/
def handshake (c : ProxyClient) (target : String) : Talk DialFailure Unit := do
  Talk.say c.streamFailed (request c target)
  let head ← readHead c maxHead []
  .done (checkHead c head)

end BrokerRelay.Dial.HttpConnect
