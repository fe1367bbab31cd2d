import GpioBroker.Fault.Kind
import GpioBroker.Text.Quoted

/-!
# Flaws of signatures

Why a text is no signature of the bus, and how a value may fail to fit one.
-/

namespace GpioBroker

/-- A flaw of a signature, or of a value that was to fit one. -/
inductive SignatureFlaw where
  | textRequired
  | tooLong
  /-- A type is missing where the signature ends. -/
  | empty
  | unexpected (code : CodePoint)
  | openStruct
  | openEntry
  /-- The key of a dictionary entry is itself made of other types. -/
  | compoundKey
  /-- The signature has more types than one. -/
  | notSingle
  /-- A dictionary entry stands outside an array. -/
  | looseEntry
  | absent
  | wrongType (subject expected typeName : Text)
  | outOfRange (subject : Text) (least greatest : Int)
  | noDescriptor
  | noPath
  | longSignature
  | memberCount
deriving DecidableEq, Repr, Inhabited

namespace SignatureFlaw

def kind : SignatureFlaw → FaultKind
  | .textRequired => .type
  | .tooLong | .empty | .unexpected _ | .openStruct | .openEntry | .compoundKey => .signature
  | .notSingle => .value
  | .looseEntry => .unspecific
  | .absent | .wrongType .. | .outOfRange .. | .noDescriptor | .noPath | .longSignature
  | .memberCount => .mismatch

def message : SignatureFlaw → Text
  | .textRequired => "signature must be a SignatureTree, SignatureType, or a string"
  | .tooLong => "A signature must be less than 256 characters"
  | .empty => "Cannot parse an empty signature"
  | .unexpected code => "got unexpected token: \"" ++ Text.singleton code ++ "\""
  | .openStruct => "missing closing \")\" for struct"
  | .openEntry => "missing closing \"\x7d\" for dict entry"
  | .compoundKey => "expected a simple type for dict entry key"
  | .notSingle => "variants must have a signature for a single complete type"
  | .looseEntry => "cannot verify type with token \x7b"
  | .absent => "Cannot serialize Python type \"None\""
  | .wrongType subject expected typeName =>
    "DBus " ++ subject ++ " must be Python type " ++ expected ++ ", got <class '" ++ typeName ++
      "'>"
  | .outOfRange subject least greatest =>
    "DBus " ++ subject ++ " must be between " ++ toString least ++ " and " ++ toString greatest
  | .noDescriptor => "DBus UNIX_FD type \"h\" must be a valid UINT32"
  | .noPath => "DBus OBJECT_PATH type \"o\" must be a valid object path"
  | .longSignature => "DBus SIGNATURE type \"g\" must be less than 256 bytes"
  | .memberCount =>
    "DBus STRUCT type \"(\" must have Python list members equal to the number of struct type " ++
      "members"

end SignatureFlaw

end GpioBroker
