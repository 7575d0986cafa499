import TokenBridge.TransferAction

/-!
# Receipts

What a domain tells about a transaction that it has mined: whether it succeeded, and the events that its
contracts logged.
-/

namespace TokenBridge

/-- A home's announcement of a message. -/
structure Dispatch where
  /-- The leaf of the message. -/
  messageHash : Word
  /-- The place of the leaf among all leaves of the home. -/
  leafIndex : Quantity
  /-- The route of the message, packed. -/
  packedRoute : UInt64
  /-- The root that the home had committed to before. -/
  committedRoot : Word
  /-- The message, laid out. -/
  message : Bytes
deriving DecidableEq

/-- What a contract logs. -/
inductive Event where
  /-- A home announces a message. -/
  | dispatch (dispatch : Dispatch)
  /-- A token lets a spender take a value from an owner. -/
  | approval (owner spender : Address) (value : Quantity)
  /-- Anything else, by its topic. -/
  | other (topic : Word)
deriving DecidableEq

/-- An event with the contract that logged it. -/
structure Log where
  /-- The contract. -/
  address : Address
  /-- The event. -/
  event : Event
deriving DecidableEq

/-- The receipt of a mined transaction. -/
structure Receipt where
  /-- The hash of the transaction. -/
  transaction : Word
  /-- The number of the block that it was mined in. -/
  block : UInt64
  /-- Whether it succeeded. -/
  succeeded : Bool
  /-- The events, in the order in which they were logged. -/
  logs : List Log
deriving DecidableEq

/-- The announcement in a log, where the log is one of the given contract. -/
def Log.dispatchOf? (home : Address) (log : Log) : Option Dispatch :=
  match log.event with
  | .dispatch dispatch => if log.address = home then some dispatch else none
  | _ => none

/-- The messages that a contract announced in a transaction. -/
def Receipt.dispatchesOf (home : Address) (receipt : Receipt) : List Dispatch :=
  receipt.logs.filterMap (Log.dispatchOf? home)

end TokenBridge
