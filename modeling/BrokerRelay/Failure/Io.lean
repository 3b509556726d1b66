import BrokerRelay.Bytes
/-!
# Input and output failures

Why a file could not be read, a connection not be made or a stream not be used, with the text of
each.
-/

namespace BrokerRelay

/-- A failed operation on a file, a socket or a stream. -/
inductive IoFailure where
  | notFound
  | isDirectory
  | notDirectory
  | permissionDenied
  | networkUnreachable
  | refused
  | timedOut
  | nulInPath
  | notUtf8
  | earlyEof
  | unexpectedEof
  | connectionReset
  | brokenPipe
  | invalidSocketAddress
  | invalidPort
  | noListenAddress
  | unresolved (reason : String)
  | noAddress (family : String) (host : String)
  | other (text : String)
deriving DecidableEq, Repr

/-- The text of a failed operation. -/
def IoFailure.message : IoFailure → String
  | .notFound => "No such file or directory (os error 2)"
  | .isDirectory => "Is a directory (os error 21)"
  | .notDirectory => "Not a directory (os error 20)"
  | .permissionDenied => "Permission denied (os error 13)"
  | .networkUnreachable => "Network is unreachable (os error 101)"
  | .refused => "Connection refused (os error 111)"
  | .timedOut => "Connection timed out (os error 110)"
  | .nulInPath => "file name contained an unexpected NUL byte"
  | .notUtf8 => "stream did not contain valid UTF-8"
  | .earlyEof => "early eof"
  | .unexpectedEof => "unexpected end of file"
  | .connectionReset => "connection reset"
  | .brokenPipe => "broken pipe"
  | .invalidSocketAddress => "invalid socket address"
  | .invalidPort => "invalid port value"
  | .noListenAddress => "could not resolve to any address"
  | .unresolved reason => "failed to lookup address information: " ++ reason
  | .noAddress family host => s!"no {family} address found for {host}"
  | .other text => text

end BrokerRelay
