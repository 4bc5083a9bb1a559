/-!
# Whole numbers in decimal notation

Readers take an optional sign and then one or more ASCII digits, nothing else. Leading zeros are
allowed; a number outside the wanted range is refused. Printers write the fewest digits.
-/
namespace CellularAutomaton.Numeral

def natural (n : Nat) : List Char := Nat.toDigits 10 n

def integer (n : Int) : List Char :=
  if n < 0 then '-' :: natural n.natAbs else natural n.natAbs

/-- The value of one or more digits. -/
def ofDigits? (cs : List Char) : Option Nat :=
  if cs.isEmpty || !cs.all Char.isDigit then none else some (Nat.ofDigitChars 10 cs 0)

def readInteger? : List Char → Option Int
  | '-' :: cs => (ofDigits? cs).map fun n => -(n : Int)
  | '+' :: cs => (ofDigits? cs).map fun n => (n : Int)
  | cs => (ofDigits? cs).map fun n => (n : Int)

/-- A minus sign is refused even before a zero. -/
def readNatural? : List Char → Option Nat
  | '+' :: cs => ofDigits? cs
  | cs => ofDigits? cs

def int32? (n : Int) : Option Int32 :=
  if Int32.minValue.toInt ≤ n ∧ n ≤ Int32.maxValue.toInt then some (Int32.ofInt n) else none

def int64? (n : Int) : Option Int64 :=
  if Int64.minValue.toInt ≤ n ∧ n ≤ Int64.maxValue.toInt then some (Int64.ofInt n) else none

theorem toInt_of_int32?_eq_some {n : Int} {v : Int32} (h : int32? n = some v) : v.toInt = n := by
  unfold int32? at h
  split at h
  · next bounds =>
    cases h
    exact Int32.toInt_ofInt_of_le bounds.1 (Int.lt_of_le_sub_one bounds.2)
  · cases h

theorem toInt_of_int64?_eq_some {n : Int} {v : Int64} (h : int64? n = some v) : v.toInt = n := by
  unfold int64? at h
  split at h
  · next bounds =>
    cases h
    exact Int64.toInt_ofInt_of_le bounds.1 (Int.lt_of_le_sub_one bounds.2)
  · cases h

def readInt32? (cs : List Char) : Option Int32 := (readInteger? cs).bind int32?

def readUInt32? (cs : List Char) : Option UInt32 :=
  (readNatural? cs).bind fun n => if n < UInt32.size then some (UInt32.ofNat n) else none

def readUInt64? (cs : List Char) : Option UInt64 :=
  (readNatural? cs).bind fun n => if n < UInt64.size then some (UInt64.ofNat n) else none

/-- A count or a size: a number of 64 bits without a sign. -/
def readSize? (cs : List Char) : Option Nat :=
  (readNatural? cs).bind fun n => if n < UInt64.size then some n else none

end CellularAutomaton.Numeral
