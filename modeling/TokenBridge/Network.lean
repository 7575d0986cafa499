import TokenBridge.Connection
import TokenBridge.Ledger.Query

/-!
# The network

The network is what providers lead to: the ledger, and the record of every call in which a provider was
asked to wait for a transaction. The record decides how a provider answers, since it answers its first
calls plainly and follows its conduct only after them. Time is not kept: an answer says how many seconds it
takes.
-/

namespace TokenBridge

/-- A call in which a provider was asked to wait for a transaction. -/
structure Wait where
  /-- The instance of the provider. -/
  provider : Nat
  /-- The transaction. -/
  transaction : Word
  /-- How many confirmations were asked for. -/
  confirmations : UInt64
deriving DecidableEq

/-- How a provider answers a call. -/
inductive Reply where
  /-- With a receipt or a failure, after a number of seconds. -/
  | after (seconds : Nat) (answer : Except ChainError Receipt)
  /-- Not at all. -/
  | never

/-- What providers lead to. -/
structure Network where
  /-- The contracts on all domains. -/
  ledger : Ledger
  /-- The calls to providers, in their order. -/
  waits : List Wait
deriving DecidableEq

namespace Conduct

/-- The answer to a call, made out of what the ledger knows. -/
def reply (conduct : Conduct) (known : Except ChainError Receipt) : Reply :=
  match conduct with
  | .plain => .after 0 known
  | .stalls => .never
  | .delays seconds => .after seconds known
  | .fails error => .after 0 (.error error)
  | .clearsLogs => .after 0 (known.map fun r => { r with logs := [] })
  | .doublesLogs => .after 0 (known.map fun r => { r with logs := r.logs ++ r.logs })
  | .deniesSuccess => .after 0 (known.map fun r => { r with succeeded := false })

end Conduct

/-- How a provider behaves in its `n`-th call, counted from one. -/
def Provider.conductAt (p : Provider) (n : Nat) : Conduct := if n ≤ p.skip then .plain else p.conduct

/-- A provider with a plain conduct answers every call plainly. -/
theorem Provider.conductAt_of_plain {p : Provider} (h : p.conduct = .plain) (n : Nat) : p.conductAt n = .plain := by
  rw [conductAt, h, ite_self]

namespace Network

/-- The network of a ledger on which no provider was asked anything. -/
def ofLedger (L : Ledger) : Network := ⟨L, []⟩

/-- The calls to an instance of a provider. -/
def callsTo (n : Network) (serial : Nat) : List Wait := n.waits.filter (·.provider = serial)

/-- Asks a provider to wait for a transaction. The call is recorded, whatever the answer is. -/
def wait (n : Network) (p : Provider) (transaction : Word) (confirmations : UInt64) : Reply × Network :=
  let n' := { n with waits := n.waits ++ [⟨p.serial, transaction, confirmations⟩] }
  ((p.conductAt (n'.callsTo p.serial).length).reply (n.ledger.receipt transaction), n')

end Network

end TokenBridge
