import TokenBridge.Address

/-!
# Domains and tokens

A domain is one of the networks that the bridge connects. It has a number and a name, and either of them
refers to it. A token is named across domains by the domain that it comes from and a word, which for a
token with an address is the wide form of that address.
-/

namespace TokenBridge

/-- The number of a domain. -/
abbrev DomainId := UInt32

/-- A network that the bridge connects. -/
structure Domain where
  /-- Its number. -/
  id : DomainId
  /-- Its name. -/
  name : String
deriving DecidableEq

/-- A reference to a domain. -/
inductive DomainRef where
  /-- By its number. -/
  | id (id : DomainId)
  /-- By its name; digits are a name like any other. -/
  | name (name : String)
deriving DecidableEq

/-- A domain as text: its name, and its number in brackets. -/
def Domain.text (d : Domain) : String := s!"{d.name} ({d.id})"

/-- The reference to a domain by its number. -/
def Domain.ref (d : Domain) : DomainRef := .id d.id

/-- A reference as text. -/
def DomainRef.text : DomainRef → String
  | .id number => toString number
  | .name text => text

/-- The identity of a token: the same on every domain. -/
structure TokenId where
  /-- The domain that the token comes from. -/
  domain : DomainId
  /-- Which of the tokens of that domain it is. -/
  id : Word
deriving DecidableEq

namespace TokenId

/-- The identity of the token at an address of its own domain. -/
def ofAddress (domain : DomainId) (address : Address) : TokenId := ⟨domain, address.widen⟩

/-- A token as text: the number of its domain, a colon and its word. -/
def text (t : TokenId) : String := s!"{t.domain}:{t.id.text}"

/-- Whether a token is the one at the given address of the given domain. -/
def isAt (t : TokenId) (domain : DomainId) (address : Address) : Bool :=
  t = ofAddress domain address

end TokenId

/-- How far a message has come on the domain that it was sent to. -/
inductive Status where
  /-- The domain does not know the message. -/
  | unknown
  /-- The message is proven and waits to be processed. -/
  | proven
  /-- The message is processed, which is final. -/
  | processed
deriving DecidableEq

namespace Status

/-- The status that a byte stands for. -/
def ofByte? : UInt8 → Option Status
  | 0 => some .unknown
  | 1 => some .proven
  | 2 => some .processed
  | _ => none

/-- Whether a status never changes again. -/
def isFinal (s : Status) : Bool := s = .processed

end Status

end TokenBridge
