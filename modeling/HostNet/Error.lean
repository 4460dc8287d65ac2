import HostNet.Config
import HostNet.Link
import HostNet.Packet.Error

/-!
# Errors of the library

The three kinds of error that a caller can meet, under one type that words them
with the part of the library they come from.  Malformed input from the network
is not among them: it is dropped where it is found.
-/

namespace HostNet

/-- Any error a caller can meet. -/
inductive Error where
  | config (cause : ConfigError)
  | packet (cause : Packet.Error)
  | link (cause : LinkError)
  deriving Repr, DecidableEq

/-- The error in full. -/
def Error.message : Error → String
  | config cause => "configuration error: " ++ cause.message
  | packet cause => "packet error: " ++ cause.message
  | link cause => "link error: " ++ cause.message

end HostNet
