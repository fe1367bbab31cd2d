/-!
# Code points

What texts are made of: characters, and halves of surrogate pairs, which may stand in a text without
the other half although they are no characters.  A code point is known by its number.
-/

namespace GpioBroker

/-- A code point. -/
inductive CodePoint where
  | char (c : Char)
  /-- One half of a surrogate pair, counted from the first one. -/
  | half (index : Fin 0x800)
deriving DecidableEq, Repr, Inhabited

namespace CodePoint

instance : Coe Char CodePoint := ⟨char⟩

/-- The number of the first half of a surrogate pair. -/
def firstHalf : Nat := 0xD800

/-- The number of a code point. -/
def number : CodePoint → Nat
  | char c => c.toNat
  | half index => firstHalf + index

/-- The code point with a number. -/
def ofNumber? (n : Nat) : Option CodePoint :=
  if h : n.isValidChar then some (char (Char.ofNatAux n h))
  else if h : firstHalf ≤ n ∧ n - firstHalf < 0x800 then some (half ⟨n - firstHalf, h.2⟩)
  else none

/-- The code point with an integer as its number. -/
def ofInt? : Int → Option CodePoint
  | .ofNat n => ofNumber? n
  | .negSucc _ => none

/-- A code point is found by its number. -/
theorem ofNumber?_number (c : CodePoint) : ofNumber? c.number = some c := by
  cases c with
  | char c =>
    have valid : c.toNat.isValidChar := c.valid
    change ofNumber? c.toNat = _
    rw [ofNumber?, dif_pos valid]
    rfl
  | half index =>
    have bound := index.isLt
    have invalid : ¬ (firstHalf + index.val).isValidChar := by
      unfold firstHalf Nat.isValidChar
      omega
    have range : firstHalf ≤ firstHalf + index.val ∧ firstHalf + index.val - firstHalf < 0x800 := by
      omega
    change ofNumber? (firstHalf + index.val) = _
    rw [ofNumber?, dif_neg invalid, dif_pos range]
    simp only [Nat.add_sub_cancel_left]

/-- Whether a code point is a character of a class. -/
def isIn (c : CodePoint) (inClass : Char → Bool) : Bool :=
  match c with
  | char c => inClass c
  | half _ => false

end CodePoint

end GpioBroker
