import PortMap.Complaint
import PortMap.Route.Discovery
import PortMap.Value.Arithmetic

/-!
# Why a session fails

Every cause for which opening or using a session fails. `Fault.complaint?` is the complaint about a
cause that belongs to the exchange with the gateway; the other causes, such as a port that does not fit
its field or a cancelled task, pass through unchanged. `Fault.message` is what is told of a cause.
-/

namespace PortMap.Session

open Wire Net

/-- The kind of a reply. -/
inductive ReplyKind where
  /-- The public address. -/
  | publicAddress
  /-- A mapping. -/
  | mapping
  deriving DecidableEq, Repr

/-- The name of a kind of reply. -/
def ReplyKind.name : ReplyKind → String
  | .publicAddress => "GatewayResponse"
  | .mapping => "MappingResponse"

/-- The kind of a reply in words. -/
def ReplyKind.phrase : ReplyKind → String
  | .publicAddress => "a public address response"
  | .mapping => "a port mapping response"

/-- Why opening or using a session fails. -/
inductive Fault where
  /-- A port or lifetime does not fit its field. -/
  | field (cause : FieldFault)
  /-- The gateway is no address. -/
  | address (cause : Address.Fault)
  /-- The datagram does not grant what was asked. -/
  | reply (cause : Reply.Fault)
  /-- The reply is not of the kind that was expected. -/
  | unexpectedReply (expected received : ReplyKind)
  /-- The send wrote a number of bytes other than the length of the request. -/
  | shortWrite (written : Int) (expected : Nat)
  /-- The operating system refused the send. -/
  | sendFailed (text : String)
  /-- No attempt received a datagram. -/
  | noReply (gateway : Address) (attempts : Value)
  /-- The socket was not made. -/
  | socketNotMade (text : String)
  /-- The socket was not bound. -/
  | socketNotBound (text : String) (local_ : Endpoint)
  /-- The socket was not connected. -/
  | notConnected (gateway : Address) (text : String)
  /-- The default gateway was not found. -/
  | discovery (cause : Route.Discovery.Fault)
  /-- A failure of the network that is not handled. -/
  | network (failure : Failure)
  /-- The delay before the next attempt has no value. -/
  | delay (cause : Value.Fault)
  /-- A time cannot be waited for. -/
  | wait (cause : Timer.Fault)
  /-- The number of attempts is no whole number. -/
  | notCount (kind : String)
  /-- The name of a protocol was asked of a value that is none. -/
  | noProtocol (v : Value)

namespace Fault

/-- What a cause amounts to: a complaint if it belongs to the exchange with the gateway, else the text
that it brings along. -/
def account : Fault → Complaint ⊕ String
  | .field cause => .inr cause.message
  | .address cause => .inr cause.message
  | .reply cause => .inl (.ofReplyFault cause)
  | .unexpectedReply expected received =>
    .inl (.ofKind .unsupportedOpcode ("Expected " ++ expected.phrase)
      (.table [("response", .text received.name)]) .null)
  | .shortWrite written expected =>
    .inl (.ofKind .networkFailure "Short write to gateway"
      (.table [("written", .whole written), ("expected", .whole expected)]) .null)
  | .sendFailed text => .inl (.about .networkFailure [("error", .text text)])
  | .noReply gateway attempts =>
    .inl (.about .noReply [("gateway", .text gateway.text), ("attempts", attempts)])
  | .socketNotMade text => .inl (.about .socket [("error", .text text)])
  | .socketNotBound text local_ =>
    .inl (.about .socket
      [("error", .text text), ("local_addr", .group [local_.host, local_.port])])
  | .notConnected gateway text =>
    .inl (.about .connection [("gateway", .text gateway.text), ("error", .text text)])
  | .discovery (.notFound platform) =>
    .inl (.about .gatewayNotFound [("platform", .text platform)])
  | .discovery (.undecodable u) => .inr u.message
  | .network failure => .inr failure.text
  | .delay cause => .inr cause.message
  | .wait cause => .inr cause.message
  | .notCount kind => .inr ("'" ++ kind ++ "' object cannot be interpreted as an integer")
  | .noProtocol v => .inr ("'" ++ v.kindName ++ "' object has no attribute 'value'")

/-- The complaint about a cause, if it belongs to the exchange with the gateway. -/
def complaint? (f : Fault) : Option Complaint := f.account.getLeft?

/-- What is told of a cause. -/
def message (f : Fault) : String := f.account.elim Complaint.text id

end Fault

end PortMap.Session
