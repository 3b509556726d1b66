import BrokerRelay.Address.Ip
import BrokerRelay.Dial.ProxyClient
/-!
# SOCKS5

The negotiation with a SOCKS5 proxy: offer methods, prove who this side is if the proxy asks for it,
ask for a connection to the target, and read the answer up to its last byte and no further. User name
and password are offered only when there are credentials, and sent only when the proxy chooses them.
-/

namespace BrokerRelay.Dial.Socks5

/-- The protocol version. -/
def version : UInt8 := 5
/-- The version of the user name and password exchange. -/
def authVersion : UInt8 := 1
/-- The method without authentication. -/
def methodNone : UInt8 := 0
/-- The method with user name and password. -/
def methodPassword : UInt8 := 2
/-- No method is acceptable. -/
def methodRefused : UInt8 := 0xff
/-- The command to connect. -/
def commandConnect : UInt8 := 1
/-- The address type of IPv4. -/
def typeIpv4 : UInt8 := 1
/-- The address type of domain names. -/
def typeDomain : UInt8 := 3
/-- The address type of IPv6. -/
def typeIpv6 : UInt8 := 4
/-- The status of success. -/
def succeeded : UInt8 := 0

/-- The text of a reply code. -/
def replyText (code : UInt8) : String :=
  match code with
  | 1 => "general SOCKS server failure"
  | 2 => "connection not allowed by ruleset"
  | 3 => "network unreachable"
  | 4 => "host unreachable"
  | 5 => "connection refused"
  | 6 => "TTL expired"
  | 7 => "command not supported"
  | 8 => "address type not supported"
  | _ => "unknown reply code"

/-- The methods on offer. -/
def greeting (c : ProxyClient) : Bytes :=
  match c.credentials with
  | some _ => [version, 2, methodNone, methodPassword]
  | none => [version, 1, methodNone]

/-- A text with its length before it, if one byte can hold the length. -/
def counted? (bytes : Bytes) : Option Bytes :=
  if bytes.length < 256 then some (UInt8.ofNat bytes.length :: bytes) else none

/-- The user name and password, each with its length. -/
def passwordRequest? (k : Config.Credentials) : Option Bytes := do
  let username ← counted? (Bytes.encodeUtf8 k.username)
  let password ← counted? (Bytes.encodeUtf8 k.password)
  return authVersion :: username ++ password

/-- The target's address: the octets of an IP literal, and else the host as a domain name. -/
def addressField? (host : List Char) : Option Bytes :=
  match IpAddress.ofChars? host with
  | some ip => some ((if ip.isV4 then typeIpv4 else typeIpv6) :: ip.toBytes)
  | none => (counted? (Bytes.encodeChars host)).map (typeDomain :: ·)

/-- A port in network order. -/
def portBytes (port : UInt16) : Bytes := [UInt8.ofNat (port.toNat / 256), UInt8.ofNat (port.toNat % 256)]

/-- The request to connect to a target. -/
def connectRequest? (target : HostPort) : Option Bytes :=
  (addressField? target.host).map fun address =>
    [version, commandConnect, 0] ++ address ++ portBytes target.port

/-- Proves who this side is. -/
def authenticate (c : ProxyClient) (k : Config.Credentials) : Talk DialFailure Unit :=
  match passwordRequest? k with
  | none => .fail (c.handshakeFailed "username or password longer than 255 bytes")
  | some request => do
    Talk.say c.streamFailed request
    let answer ← Talk.hear c.streamFailed 2
    let v := answer.getD 0 0
    let status := answer.getD 1 0
    if v ≠ authVersion then
      .fail (c.handshakeFailed s!"unexpected auth version {v.toNat}")
    else if status ≠ succeeded then
      .fail (.proxyAuthRejected c.address
        s!"username/password authentication failed with status {status.toNat}")
    else pure ()

/-- Offers methods and does what the chosen one asks for. -/
def negotiate (c : ProxyClient) : Talk DialFailure Unit := do
  Talk.say c.streamFailed (greeting c)
  let choice ← Talk.hear c.streamFailed 2
  let v := choice.getD 0 0
  let method := choice.getD 1 0
  if v ≠ version then
    .fail (c.handshakeFailed s!"unexpected protocol version {v.toNat}")
  else if method = methodNone then pure ()
  else if method = methodRefused then
    .fail (.proxyAuthRejected c.address "no acceptable authentication methods")
  else
    match c.credentials with
    | some k =>
      if method = methodPassword then authenticate c k
      else .fail (c.handshakeFailed s!"proxy selected unoffered method {method.toNat}")
    | none => .fail (c.handshakeFailed s!"proxy selected unoffered method {method.toNat}")

/-- Reads and drops the bound address of an answer. -/
def skipBoundAddress (c : ProxyClient) (addressType : UInt8) : Talk DialFailure Unit := do
  if addressType = typeIpv4 then
    let _ ← Talk.hear c.streamFailed 6
    pure ()
  else if addressType = typeIpv6 then
    let _ ← Talk.hear c.streamFailed 18
    pure ()
  else if addressType = typeDomain then
    let n ← Talk.hearByte c.streamFailed
    let _ ← Talk.hear c.streamFailed (n.toNat + 2)
    pure ()
  else .fail (c.handshakeFailed s!"unknown address type {addressType.toNat}")

/-- Asks for a connection and reads the answer. -/
def connect (c : ProxyClient) (target : String) (destination : HostPort) : Talk DialFailure Unit :=
  match connectRequest? destination with
  | none =>
    .fail (c.handshakeFailed ("destination host name too long: " ++ destination.hostText))
  | some request => do
    Talk.say c.streamFailed request
    let answer ← Talk.hear c.streamFailed 4
    let v := answer.getD 0 0
    let code := answer.getD 1 0
    if v ≠ version then
      .fail (c.handshakeFailed s!"unexpected protocol version {v.toNat}")
    else if code ≠ succeeded then
      .fail (.proxyRefused c.address target code (replyText code))
    else skipBoundAddress c (answer.getD 3 0)

/-- The whole negotiation for a target. -/
def handshake (c : ProxyClient) (target : String) : Talk DialFailure Unit :=
  match splitTarget target with
  | .error e => .fail e
  | .ok destination => do
    negotiate c
    connect c target destination

end BrokerRelay.Dial.Socks5
