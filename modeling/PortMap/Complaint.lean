import PortMap.Wire.Reply

/-!
# Complaints

A complaint is what an exchange with a gateway fails with: its kind, a message, named details, and the
result code of the gateway where there is one. Each kind has a standing description, which is the
message when no other is given, and the kinds that stand for a refusal of the gateway have the result
code of that refusal.

`Complaint.text` is the line that a user sees.
-/

namespace PortMap

/-- The kinds of complaints. -/
inductive Complaint.Kind where
  /-- No kind in particular. -/
  | general
  /-- The socket could not be made or bound. -/
  | socket
  /-- The socket could not be connected to the gateway. -/
  | connection
  /-- No default gateway is known. -/
  | gatewayNotFound
  /-- No reply came. -/
  | noReply
  /-- The network failed, here or at the gateway. -/
  | networkFailure
  /-- The version is not supported. -/
  | unsupportedVersion
  /-- The gateway does not permit the request. -/
  | notAuthorized
  /-- The gateway has no room for the mapping. -/
  | outOfResources
  /-- The opcode is not supported. -/
  | unsupportedOpcode
  /-- The gateway refuses with a result code that has no meaning. -/
  | undefined
  /-- The settings are not valid. -/
  | configuration
  deriving DecidableEq, Repr

/-- The standing description of a kind. -/
def Complaint.Kind.description : Complaint.Kind → String
  | .general => "Base exception for all natpmpc errors."
  | .socket => "Cannot create or bind the UDP socket."
  | .connection => "Cannot connect the UDP socket to the gateway."
  | .gatewayNotFound => "Cannot determine the default gateway."
  | .noReply => "No response received from the gateway."
  | .networkFailure => "Network failure."
  | .unsupportedVersion => "Unsupported NAT-PMP version."
  | .notAuthorized => "Not authorized or refused by the gateway."
  | .outOfResources => "Gateway is out of resources."
  | .unsupportedOpcode => "Unsupported opcode."
  | .undefined => "Undefined result code returned by the gateway."
  | .configuration => "Configuration validation errors."

/-- The result code that a kind stands for. -/
def Complaint.Kind.code? : Complaint.Kind → Option Nat
  | .unsupportedVersion => some 1
  | .notAuthorized => some 2
  | .networkFailure => some 3
  | .outOfResources => some 4
  | .unsupportedOpcode => some 5
  | _ => none

/-- The kind of a refusal with a result code. -/
def Complaint.Kind.ofCode (code : Int) : Complaint.Kind :=
  if code = 1 then .unsupportedVersion
  else if code = 2 then .notAuthorized
  else if code = 3 then .networkFailure
  else if code = 4 then .outOfResources
  else if code = 5 then .unsupportedOpcode
  else .undefined

/-- What an exchange fails with. -/
structure Complaint where
  /-- Its kind. -/
  kind : Complaint.Kind
  /-- What happened. -/
  message : String
  /-- Particulars, in a table by their names. -/
  details : Value
  /-- The result code, or no value. -/
  code : Value

namespace Complaint

/-- The complaint of a kind; without a message, or with an empty one, it has the standing description
of the kind. Details that are empty are an empty table. A result code is taken for the kind `undefined`
only. -/
def ofKind (kind : Kind) (message : Option String) (details code : Value) : Complaint where
  kind := kind
  message := if message.getD "" = "" then kind.description else message.getD ""
  details := if details.isTrue then details else .table []
  code := if kind = .undefined then code else (kind.code?.map (Value.whole ·)).getD .null

/-- The complaint of a kind with its standing description. -/
def about (kind : Kind) (details : Table) : Complaint := ofKind kind none (.table details) .null

/-- The complaint of a refusal with a result code. -/
def ofCode (code : Value) : Complaint :=
  let kind :=
    match code with
    | .real x => (x.toInt?.map Kind.ofCode).getD .undefined
    | v => (v.wholeNumber?.map Kind.ofCode).getD .undefined
  ofKind kind none (.table [("result_code", code)]) code

/-- Why a value is no result code: a list or a table cannot be looked up. -/
structure NoCode where
  /-- The kind of the value. -/
  kind : String

/-- What is told of a value that is no result code. -/
def NoCode.message (e : NoCode) : String := "unhashable type: '" ++ e.kind ++ "'"

/-- The complaint of a refusal with a result code of any kind. -/
def ofAnyCode (code : Value) : Except NoCode Complaint :=
  match code with
  | .list _ | .table _ | .inlined _ => .error ⟨code.kindName⟩
  | v => .ok (ofCode v)

/-- The complaint about a datagram. -/
def ofReplyFault : Wire.Reply.Fault → Complaint
  | .version v => about .unsupportedVersion [("version", .whole v.toNat)]
  | .opcode o => about .unsupportedOpcode [("opcode", .whole o.toNat)]
  | .refused code => ofCode (.whole code.toNat)

/-- What a message that is no request amounts to: a complaint about its version or opcode, or the text
that it is too short. -/
def ofRequestFault : Wire.Request.Fault → Complaint ⊕ String
  | .tooShort => .inr "Request too short"
  | .version v => .inl (about .unsupportedVersion [("version", .whole v.toNat)])
  | .opcode o => .inl (about .unsupportedOpcode [("opcode", .whole o.toNat)])

/-- The line that a user sees. -/
def text (c : Complaint) : String :=
  if c.details.isTrue then c.message ++ " (Details: " ++ c.details.display ++ ")" else c.message

end Complaint

end PortMap
