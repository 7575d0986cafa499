import TokenBridge.Client.Resolve

/-!
# Descriptions

One-line descriptions of connections, handles and representations: a name, and the parts in braces. Texts
in them are quoted.
-/

namespace TokenBridge

/-- A name with the parts of what it names. -/
def describeParts (name : String) (parts : List (String × String)) : String :=
  name ++ " \x7b " ++ ", ".intercalate (parts.map fun p => p.1 ++ ": " ++ p.2) ++ " \x7d"

/-- A part that may be missing. -/
def describeOption {α : Type} (describe : α → String) : Option α → String
  | some value => "Some(" ++ describe value ++ ")"
  | none => "None"

/-- A connection by the endpoint of its provider and the address of its signer. -/
def Connection.describe (c : Connection) : String :=
  describeParts "Connection" [("provider", Text.quoted c.provider.endpoint),
    ("signer", describeOption Address.text c.signerAddress?)]

/-- What a handle is bound to. -/
def Handle.describe (h : Handle) : String :=
  describeParts "Binding" [("domain", toString h.domain), ("address", h.address.text),
    ("connection", describeOption Connection.describe h.connection)]

/-- A handle on a home. -/
def HomeHandle.describe (h : HomeHandle) : String :=
  describeParts "InMemoryHome" [("binding", h.toHandle.describe)]

/-- A handle on a replica. -/
def ReplicaHandle.describe (h : ReplicaHandle) : String :=
  describeParts "InMemoryReplica" [("binding", h.toHandle.describe), ("remote", toString h.remote)]

/-- A handle on a router. -/
def RouterHandle.describe (h : RouterHandle) : String :=
  describeParts "InMemoryBridgeRouter" [("binding", h.toHandle.describe)]

/-- A handle on a helper for the native asset. -/
def HelperHandle.describe (h : HelperHandle) : String :=
  describeParts "InMemoryNativeHelper" [("binding", h.toHandle.describe)]

/-- A handle on a token. -/
def TokenHandle.describe (h : TokenHandle) : String :=
  describeParts "InMemoryToken" [("binding", h.toHandle.describe)]

/-- A token. -/
def TokenId.describe (t : TokenId) : String :=
  describeParts "TokenIdentifier" [("domain", toString t.domain), ("id", t.id.text)]

/-- The representations of a token by their domains and addresses. They have no order, so there is a
description only where there is at most one. -/
def Representations.describe? (r : Representations) : Option String :=
  if r.size ≤ 1 then
    let contracts := ", ".intercalate
      (r.contracts.entries.map fun e => toString e.1 ++ ": " ++ e.2.address.text)
    some (describeParts "ResolvedTokenInfo" [("token", r.token.describe),
      ("representations", "\x7b" ++ contracts ++ "\x7d")])
  else none

end TokenBridge
