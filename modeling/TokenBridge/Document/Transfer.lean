import TokenBridge.Document
import TokenBridge.Transfer

/-!
# Transfers as documents

How receipts, messages and transfers are kept: every structure is a record with one field for each of its
parts, and an event is an object with one field, which is named for the kind of event. Of an event, only an
announcement is a record of its own; the parts of another kind are always kept by name.
-/

namespace TokenBridge

namespace TokenId

/-- A token as a document. -/
def toDocument (t : TokenId) : Document :=
  .object [("domain", .ofNat t.domain.toNat), ("id", .ofWord t.id)]

/-- Reads a token. -/
def ofDocument? (document : Document) : Option TokenId := do
  let fields ← document.record? ["domain", "id"]
  return {
    domain := ← Document.required Document.uint32? "domain" fields
    id := ← Document.required Document.word? "id" fields }

end TokenId

namespace Status

/-- The name of a status. -/
def name : Status → String
  | .unknown => "None"
  | .proven => "Proven"
  | .processed => "Processed"

/-- The status of a name. -/
def ofName? (s : String) : Option Status :=
  if s = "None" then some .unknown
  else if s = "Proven" then some .proven
  else if s = "Processed" then some .processed
  else none

/-- A status as a document. -/
def toDocument (s : Status) : Document := .text s.name

/-- Reads a status: its name, or an object whose one field has this name and holds nothing. -/
def ofDocument? : Document → Option Status
  | .text s => ofName? s
  | .object [(s, .null)] => ofName? s
  | _ => none

end Status

namespace Dispatch

/-- An announcement as a document. -/
def toDocument (d : Dispatch) : Document :=
  .object [("message_hash", .ofWord d.messageHash), ("leaf_index", .ofQuantity d.leafIndex),
    ("destination_and_nonce", .ofNat d.packedRoute.toNat),
    ("committed_root", .ofWord d.committedRoot), ("message", .ofBytes d.message)]

/-- Reads an announcement. -/
def ofDocument? (document : Document) : Option Dispatch := do
  let fields ← document.record? ["message_hash", "leaf_index", "destination_and_nonce",
      "committed_root", "message"]
  return {
    messageHash := ← Document.required Document.word? "message_hash" fields
    leafIndex := ← Document.required Document.quantity? "leaf_index" fields
    packedRoute := ← Document.required Document.uint64? "destination_and_nonce" fields
    committedRoot := ← Document.required Document.word? "committed_root" fields
    message := ← Document.required Document.bytes? "message" fields }

end Dispatch

namespace Event

/-- An event as a document. -/
def toDocument : Event → Document
  | .dispatch announced => .object [("Dispatch", announced.toDocument)]
  | .approval owner spender value =>
    .object [("Approval", .object [("owner", .ofAddress owner), ("spender", .ofAddress spender),
      ("value", .ofQuantity value)])]
  | .other topic => .object [("Other", .object [("topic", .ofWord topic)])]

/-- Reads an approval. -/
def approval? (document : Document) : Option Event := do
  let fields ← document.object? ["owner", "spender", "value"]
  return .approval (← Document.required Document.address? "owner" fields)
    (← Document.required Document.address? "spender" fields)
    (← Document.required Document.quantity? "value" fields)

/-- Reads an event of no particular kind. -/
def other? (document : Document) : Option Event := do
  let fields ← document.object? ["topic"]
  return .other (← Document.required Document.word? "topic" fields)

/-- Reads an event: an object with exactly one field. -/
def ofDocument? : Document → Option Event
  | .object [(kind, document)] =>
    if kind = "Dispatch" then (Dispatch.ofDocument? document).map .dispatch
    else if kind = "Approval" then approval? document
    else if kind = "Other" then other? document
    else none
  | _ => none

end Event

namespace Log

/-- A log as a document. -/
def toDocument (l : Log) : Document :=
  .object [("address", .ofAddress l.address), ("event", l.event.toDocument)]

/-- Reads a log. -/
def ofDocument? (document : Document) : Option Log := do
  let fields ← document.record? ["address", "event"]
  return {
    address := ← Document.required Document.address? "address" fields
    event := ← Document.required Event.ofDocument? "event" fields }

end Log

namespace Receipt

/-- A receipt as a document. -/
def toDocument (r : Receipt) : Document :=
  .object [("transaction_hash", .ofWord r.transaction), ("block_number", .ofNat r.block.toNat),
    ("status", .bool r.succeeded), ("logs", .list (r.logs.map Log.toDocument))]

/-- Reads a receipt. -/
def ofDocument? (document : Document) : Option Receipt := do
  let fields ← document.record? ["transaction_hash", "block_number", "status", "logs"]
  return {
    transaction := ← Document.required Document.word? "transaction_hash" fields
    block := ← Document.required Document.uint64? "block_number" fields
    succeeded := ← Document.required Document.bool? "status" fields
    logs := ← Document.required (Document.list? Log.ofDocument?) "logs" fields }

end Receipt

namespace Message

/-- A message as a document. -/
def toDocument (m : Message) : Document :=
  .object [("origin", .ofNat m.origin.toNat), ("sender", .ofWord m.sender),
    ("nonce", .ofNat m.nonce.toNat), ("destination", .ofNat m.destination.toNat),
    ("recipient", .ofWord m.recipient), ("body", .ofBytes m.body)]

/-- Reads a message. -/
def ofDocument? (document : Document) : Option Message := do
  let fields ← document.record? ["origin", "sender", "nonce", "destination", "recipient", "body"]
  return {
    origin := ← Document.required Document.uint32? "origin" fields
    sender := ← Document.required Document.word? "sender" fields
    nonce := ← Document.required Document.uint32? "nonce" fields
    destination := ← Document.required Document.uint32? "destination" fields
    recipient := ← Document.required Document.word? "recipient" fields
    body := ← Document.required Document.bytes? "body" fields }

end Message

namespace TransferAction

/-- What a transfer moves as a document. -/
def toDocument (a : TransferAction) : Document :=
  .object [("token", a.token.toDocument), ("to", .ofWord a.beneficiary), ("amount", .ofQuantity a.amount)]

/-- Reads what a transfer moves. -/
def ofDocument? (document : Document) : Option TransferAction := do
  let fields ← document.record? ["token", "to", "amount"]
  return {
    token := ← Document.required TokenId.ofDocument? "token" fields
    beneficiary := ← Document.required Document.word? "to" fields
    amount := ← Document.required Document.quantity? "amount" fields }

end TransferAction

namespace Transfer

/-- A transfer as a document. -/
def toDocument (t : Transfer) : Document :=
  .object [("dispatch", t.dispatch.toDocument), ("message", t.message.toDocument),
    ("action", t.action.toDocument), ("receipt", t.receipt.toDocument)]

/-- Reads a transfer. Its parts are taken as they are. -/
def ofDocument? (document : Document) : Option Transfer := do
  let fields ← document.record? ["dispatch", "message", "action", "receipt"]
  return {
    dispatch := ← Document.required Dispatch.ofDocument? "dispatch" fields
    message := ← Document.required Message.ofDocument? "message" fields
    action := ← Document.required TransferAction.ofDocument? "action" fields
    receipt := ← Document.required Receipt.ofDocument? "receipt" fields }

end Transfer

end TokenBridge
