import BrokerRelay.Address.HostPort
import BrokerRelay.Address.Ip
import BrokerRelay.Address.ServerName
import BrokerRelay.Base64
import BrokerRelay.Bytes
import BrokerRelay.CommandLine.Arguments
import BrokerRelay.CommandLine.LogFilter
import BrokerRelay.CommandLine.LogLine
import BrokerRelay.CommandLine.Program
import BrokerRelay.Config.Basic
import BrokerRelay.Config.Display
import BrokerRelay.Config.Load
import BrokerRelay.Config.Schema
import BrokerRelay.Crypto.Aes
import BrokerRelay.Crypto.BlockCipher
import BrokerRelay.Crypto.Des
import BrokerRelay.Crypto.Ed25519
import BrokerRelay.Crypto.Md5
import BrokerRelay.Crypto.Multiple
import BrokerRelay.Crypto.Sha512
import BrokerRelay.Crypto.Weierstrass
import BrokerRelay.Decimal
import BrokerRelay.Der
import BrokerRelay.Dial.Activity
import BrokerRelay.Dial.Chain
import BrokerRelay.Dial.Direct
import BrokerRelay.Dial.HttpConnect
import BrokerRelay.Dial.Network
import BrokerRelay.Dial.ProxyClient
import BrokerRelay.Dial.Socks5
import BrokerRelay.Dial.Talk
import BrokerRelay.Duration
import BrokerRelay.Environment
import BrokerRelay.Failure
import BrokerRelay.Failure.Config
import BrokerRelay.Failure.Io
import BrokerRelay.Log
import BrokerRelay.Main
import BrokerRelay.Pem.Block
import BrokerRelay.Pem.Encrypted
import BrokerRelay.Pem.Section
import BrokerRelay.Proofs.Dial.Exchange
import BrokerRelay.Relay.Connection
import BrokerRelay.Relay.Listener
import BrokerRelay.Relay.Server
import BrokerRelay.Relay.Service
import BrokerRelay.Storage
import BrokerRelay.Text.Blank
import BrokerRelay.Text.Printable
import BrokerRelay.Text.Quoted
import BrokerRelay.Text.Similarity
import BrokerRelay.Text.Split
import BrokerRelay.Tls.Certificate
import BrokerRelay.Tls.CipherSuite
import BrokerRelay.Tls.Identity
import BrokerRelay.Tls.Provider
import BrokerRelay.Tls.Settings
import BrokerRelay.Tls.SigningKey
import BrokerRelay.Yaml.Cursor
import BrokerRelay.Yaml.Found
import BrokerRelay.Yaml.Mark
import BrokerRelay.Yaml.Node
import BrokerRelay.Yaml.Node.Grammar
import BrokerRelay.Yaml.Reader
import BrokerRelay.Yaml.Token
import BrokerRelay.Yaml.Token.Lexer
import BrokerRelay.Yaml.Token.Scalar
import BrokerRelay.Yaml.Token.Tag
import BrokerRelay.Proofs.Dial.Socks5.Tunnel
import BrokerRelay.Proofs.Dial.Socks5.Server
import BrokerRelay.Proofs.Dial.HttpConnect.ResponseHead
import BrokerRelay.Proofs.Base64
import BrokerRelay.Proofs.Dial.HttpConnect.RequestHead
import BrokerRelay.Proofs.Dial.Socks5.Disclosure
import BrokerRelay.Proofs.Relay.Accounting
import BrokerRelay.Proofs.Crypto.Aes
import BrokerRelay.Proofs.Crypto.Des
import BrokerRelay.Proofs.Pem.Projection
import BrokerRelay.Proofs.Relay.Shutdown
import BrokerRelay.Proofs.Log
import BrokerRelay.Proofs.Tls.Trust
import BrokerRelay.Proofs.Tls.Policy
import BrokerRelay.Proofs.Dial.Activity
import BrokerRelay.Proofs.Dial.Layers
import BrokerRelay.Proofs.Dial.Attribution
import BrokerRelay.Proofs.Dial.Truncation
import BrokerRelay.Proofs.Tls.Parameters
import BrokerRelay.Proofs.Tls.Agreement
import BrokerRelay.Proofs.Relay.Startup
import BrokerRelay.Proofs.Address.Literal
import BrokerRelay.Proofs.Address.HostPort
import BrokerRelay.Proofs.Dial.HttpConnect.Authority
import BrokerRelay.Proofs.Dial.Destination
import BrokerRelay.Relay.Handler
import BrokerRelay.Proofs.Relay.Fidelity
import BrokerRelay.Proofs.Text.Quoted
import BrokerRelay.Proofs.Config.Display
import BrokerRelay.Proofs.Tls.Provider
import BrokerRelay.Proofs.Dial.Socks5.Refusal
import BrokerRelay.Proofs.Pem.Refusal
import BrokerRelay.Proofs.Dial.Interruption
import BrokerRelay.Proofs.Relay.Deadline
import BrokerRelay.Proofs.Relay.Farewell
import BrokerRelay.Proofs.Pem.Scan
import BrokerRelay.Proofs.Tls.SealedKey
import BrokerRelay.Proofs.Address.Grammar
import BrokerRelay.Proofs.Environment
import BrokerRelay.Proofs.Tls.Names
import BrokerRelay.Proofs.Dial.Arguments
import BrokerRelay.Proofs.Pem.Sequence
import BrokerRelay.Proofs.Tls.Sections
import BrokerRelay.Proofs.Dial.Candidates
