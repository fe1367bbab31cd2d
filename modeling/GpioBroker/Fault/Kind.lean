/-!
# Kinds of faults

What handlers tell faults apart by.
-/

namespace GpioBroker

/-- What a name on the bus may be a name of. -/
inductive NameSort where
  | busName
  | objectPath
  | interfaceName
  | memberName
deriving DecidableEq, Repr, Inhabited

/-- A kind of fault. -/
inductive FaultKind where
  /-- A failed system call. -/
  | system
  | runtime
  /-- An object could not be exported; also a runtime fault. -/
  | registration
  /-- The bus layout is malformed; also a runtime fault. -/
  | setup
  /-- The bus name cannot be owned any longer; also a runtime fault. -/
  | nameLost
  | value
  /-- The bus refused the credentials; also a value fault. -/
  | credentials
  | type
  /-- A malformed name; also a type fault. -/
  | misnomer (sort : NameSort)
  /-- A malformed message; also a value fault. -/
  | message
  /-- A malformed signature; also a value fault. -/
  | signature
  /-- A value that does not fit its signature; also a value fault. -/
  | mismatch
  | endOfInput
  | assertion
  /-- A chip was added twice or removed while absent; also an assertion fault. -/
  | roster
  /-- An error reply of the bus. -/
  | bus
  | missingKey
  | missingEntry
  | missingPart
  | overflow
  /-- There is not enough memory. -/
  | memory
  /-- A fault of no kind in particular. -/
  | unspecific
deriving DecidableEq, Repr, Inhabited

/-- Whether a kind of fault is one of values. -/
def FaultKind.isValue : FaultKind → Bool
  | .value | .credentials | .message | .signature | .mismatch => true
  | _ => false

end GpioBroker
