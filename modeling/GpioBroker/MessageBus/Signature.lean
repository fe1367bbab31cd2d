import GpioBroker.MessageBus.Names

/-!
# Signatures

The types of values on the bus and the signatures that write them down.  A basic type is one code.
An array is a code before the type of its items, a struct is its members in parentheses, and a
dictionary entry, which only makes sense as the item of an array, is a key and a value in braces.
A wrapped value has a signature of a single type and has to fit it.
-/

namespace GpioBroker

/-- The types of values without parts. -/
inductive BasicType where
  | byte
  | boolean
  | int16
  | uint16
  | int32
  | uint32
  | int64
  | uint64
  | double
  | text
  | objectPath
  | signature
  | descriptor
  | variant
deriving DecidableEq, Repr, Inhabited

/-- The types of values. -/
inductive SignatureType where
  | basic (type : BasicType)
  | array (item : SignatureType)
  | struct (members : List SignatureType)
  | entry (key value : SignatureType)
deriving Repr, Inhabited

namespace BasicType

/-- The codes of the basic types. -/
def codes : List (Char × BasicType) := [
  ('y', .byte), ('b', .boolean), ('n', .int16), ('q', .uint16), ('i', .int32), ('u', .uint32),
  ('x', .int64), ('t', .uint64), ('d', .double), ('s', .text), ('o', .objectPath),
  ('g', .signature), ('h', .descriptor), ('v', .variant)]

/-- The type with a code. -/
def ofCode? (c : CodePoint) : Option BasicType :=
  (codes.find? fun p => c = .char p.1).map Prod.snd

/-- A type as messages call it. -/
def subject : BasicType → Text
  | .byte => "BYTE type \"y\""
  | .boolean => "BOOLEAN type \"b\""
  | .int16 => "INT16 type \"n\""
  | .uint16 => "UINT16 type \"q\""
  | .int32 => "INT32 type \"i\""
  | .uint32 => "UINT32 type \"u\""
  | .int64 => "INT64 type \"x\""
  | .uint64 => "UINT64 type \"t\""
  | .double => "DOUBLE type \"d\""
  | .text => "STRING type \"s\""
  | .objectPath => "OBJECT_PATH type \"o\""
  | .signature => "SIGNATURE type \"g\""
  | .descriptor => "UNIX_FD type \"h\""
  | .variant => "VARIANT type \"v\""

end BasicType

/-! ### Reading signatures -/

namespace SignatureType

/-- Whether a type is made of other types. -/
def isCompound : SignatureType → Bool
  | .basic _ => false
  | _ => true

mutual

/-- Reads the first type of a signature, with the rest of it.  The fuel bounds the steps. -/
def readType : Nat → List CodePoint → Except SignatureFlaw (SignatureType × List CodePoint)
  | 0, _ | _, [] => .error .empty
  | fuel + 1, c :: cs => do
    if c = 'a' then
      let (item, cs) ← readType fuel cs
      return (.array item, cs)
    else if c = '(' then
      let (members, cs) ← readMembers fuel cs
      return (.struct members, cs)
    else if c = '\x7b' then
      let (key, cs) ← readType fuel cs
      if key.isCompound then throw .compoundKey
      let (value, cs) ← readType fuel cs
      if cs.head? ≠ some (.char '\x7d') then throw .openEntry
      return (.entry key value, cs.drop 1)
    else
      match BasicType.ofCode? c with
      | some type => return (.basic type, cs)
      | none => throw (.unexpected c)

/-- Reads the members of a struct up to its end. -/
def readMembers : Nat → List CodePoint →
    Except SignatureFlaw (List SignatureType × List CodePoint)
  | 0, _ => .error .empty
  | fuel + 1, cs => do
    let (member, cs) ← readType fuel cs
    match cs with
    | [] => throw .openStruct
    | c :: rest =>
      if c = ')' then return ([member], rest)
      else
        let (more, rest) ← readMembers fuel cs
        return (member :: more, rest)

end

/-- Reads all types of a signature.  The fuel bounds their number. -/
def readAll : Nat → List CodePoint → Except SignatureFlaw (List SignatureType)
  | 0, _ | _, [] => .ok []
  | fuel + 1, c :: cs => do
    let (type, rest) ← readType (2 * (cs.length + 1)) (c :: cs)
    return type :: (← readAll fuel rest)

/-- The most characters of a signature. -/
def lengthLimit : Nat := 255

/-- The types of a signature. -/
def ofSignature (signature : Text) : Except SignatureFlaw (List SignatureType) :=
  if lengthLimit < signature.length then .error .tooLong
  else readAll signature.length signature.toList

end SignatureType

/-! ### Fitting values -/

/-- How many bytes a text has on the bus. -/
def Text.byteLength (t : Text) : Nat :=
  t.toList.foldl (fun count c =>
    count + (if c.number < 0x80 then 1 else if c.number < 0x800 then 2
      else if c.number < 0x10000 then 3 else 4)) 0

namespace BasicType

open Decimal (twoTo)

/-- The fault of a flaw. -/
def refuse {α : Type} (cause : SignatureFlaw) : Except Fault α := .error (.signature cause)

/-- Refuses a value that is no integer of a range. -/
def checkRange (type : BasicType) (least greatest : Int) (v : Value) : Except Fault Unit :=
  match v.integer? with
  | none => refuse (.wrongType type.subject "\"int\"" v.typeName)
  | some n =>
    if least ≤ n ∧ n ≤ greatest then .ok ()
    else refuse (.outOfRange (if type = .byte then "BYTE type" else type.subject) least greatest)

/-- Refuses a value that is no signed integer of so many bits and a sign. -/
def checkSigned (type : BasicType) (bits : Nat) (v : Value) : Except Fault Unit :=
  type.checkRange (-(twoTo bits : Int)) ((twoTo bits : Int) - 1) v

/-- Refuses a value that is no unsigned integer of so many bits. -/
def checkUnsigned (type : BasicType) (bits : Nat) (v : Value) : Except Fault Unit :=
  type.checkRange 0 ((twoTo bits : Int) - 1) v

/-- Refuses a value that does not fit a basic type.  No plain value is a variant. -/
def check (type : BasicType) (v : Value) : Except Fault Unit :=
  match type with
  | .byte => type.checkUnsigned 8 v
  | .boolean =>
    match v with
    | .bool _ => .ok ()
    | v => refuse (.wrongType type.subject "\"bool\"" v.typeName)
  | .int16 => type.checkSigned 15 v
  | .uint16 => type.checkUnsigned 16 v
  | .int32 => type.checkSigned 31 v
  | .uint32 => type.checkUnsigned 32 v
  | .int64 => type.checkSigned 63 v
  | .uint64 => type.checkUnsigned 64 v
  | .double =>
    match v, v.integer? with
    | .float _, _ | _, some _ => .ok ()
    | v, none => refuse (.wrongType type.subject "\"float\" or \"int\"" v.typeName)
  | .text =>
    match v with
    | .text _ => .ok ()
    | v => refuse (.wrongType type.subject "\"str\"" v.typeName)
  | .objectPath =>
    match Names.check .objectPath v with
    | .error (.misnamed _) => refuse .noPath
    | other => other
  | .signature =>
    match v with
    | .text t => if 255 < t.byteLength then refuse .longSignature else .ok ()
    | v => refuse (.wrongType type.subject "\"str\"" v.typeName)
  | .descriptor =>
    match BasicType.uint32.checkUnsigned 32 v with
    | .ok _ => .ok ()
    | .error _ => refuse .noDescriptor
  | .variant => refuse (.wrongType type.subject "\"Variant\"" v.typeName)

end BasicType

namespace SignatureType

open BasicType (refuse)

mutual

/-- Refuses a value that does not fit a type.  No plain value is a run of bytes. -/
def check : SignatureType → Value → Except Fault Unit
  | _, .null => refuse .absent
  | .basic type, v => type.check v
  | .array (.entry key value), v =>
    match v with
    | .map fields => fields.forM fun f => do
      key.check (.text f.1)
      value.check f.2
    | v => refuse (.wrongType "ARRAY type \"a\" with DICT_ENTRY child" "\"dict\"" v.typeName)
  | .array (.basic .byte), v =>
    refuse (.wrongType "ARRAY type \"a\" with BYTE child" "\"bytes\"" v.typeName)
  | .array item, v =>
    match v with
    | .list items => items.forM item.check
    | v => refuse (.wrongType "ARRAY type \"a\"" "\"list\"" v.typeName)
  | .struct members, v =>
    match v with
    | .list items =>
      if items.length = members.length then checkMembers members items else refuse .memberCount
    | v => refuse (.wrongType "STRUCT type \"(\"" "\"list\" or \"tuple\"" v.typeName)
  | .entry .., _ => refuse .looseEntry

/-- Refuses values of which one does not fit its type. -/
def checkMembers : List SignatureType → List Value → Except Fault Unit
  | type :: types, v :: vs => do
    type.check v
    checkMembers types vs
  | _, _ => .ok ()

end

end SignatureType

/-- Refuses a wrapped value whose signature is not a single type, or that does not fit it.  The
first type of a signature is its type, which an empty one lacks. -/
def checkVariant (signature v : Value) : Except Fault Unit :=
  match signature with
  | .text signature =>
    match SignatureType.ofSignature signature with
    | .error flaw => .error (.signature flaw)
    | .ok [] => .error .noEntry
    | .ok [type] => type.check v
    | .ok _ => .error (.signature .notSingle)
  | _ => .error (.signature .textRequired)

end GpioBroker
