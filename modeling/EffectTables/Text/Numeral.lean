namespace EffectTables.Text

-- The Unicode property White_Space.
def isBlank (c : Char) : Bool :=
  let n := c.toNat
  (0x9 ≤ n && n ≤ 0xD) || n == 0x20 || n == 0x85 || n == 0xA0 || n == 0x1680 ||
    (0x2000 ≤ n && n ≤ 0x200A) || n == 0x2028 || n == 0x2029 || n == 0x202F || n == 0x205F ||
    n == 0x3000

def trim (text : List Char) : List Char :=
  ((text.dropWhile isBlank).reverse.dropWhile isBlank).reverse

namespace Decimal

def digit (n : Nat) : Char := Char.ofNat (n % 10 + 0x30)

def digitValue? (c : Char) : Option Nat :=
  if c.isDigit then some (c.toNat - 0x30) else none

def digits (n : Nat) : List Char :=
  if n < 10 then [digit n] else digits (n / 10) ++ [digit n]

-- Continues a number whose digits so far have the value `n`.
def continue? (n : Nat) : List Char → Option Nat
  | [] => some n
  | c :: rest => (digitValue? c).bind fun d => continue? (n * 10 + d) rest

def natural? : List Char → Option Nat
  | [] => none
  | text => continue? 0 text

def toInt32? (v : Int) : Option Int32 :=
  if Int32.minValue.toInt ≤ v ∧ v ≤ Int32.maxValue.toInt then some (Int32.ofInt v) else none

-- At most one sign, then one or more digits.
def integer? : List Char → Option Int
  | '-' :: text => (natural? text).map fun n => -(n : Int)
  | '+' :: text => (natural? text).map Int.ofNat
  | text => (natural? text).map Int.ofNat

-- Blanks around the number are allowed, a value beyond 32 bits is not.
def read? (text : String) : Option Int32 :=
  (integer? (trim text.toList)).bind toInt32?

def write (v : Int32) : String :=
  String.ofList (if v.toInt < 0 then '-' :: digits v.toInt.natAbs else digits v.toInt.natAbs)

end Decimal

namespace Hex

def digit (n : Nat) : Char :=
  if n % 16 < 10 then Char.ofNat (n % 16 + 0x30) else Char.ofNat (n % 16 + 0x57)

def digitValue? (c : Char) : Option Nat :=
  if 'a' ≤ c ∧ c ≤ 'f' then some (c.toNat - 0x57)
  else if 'A' ≤ c ∧ c ≤ 'F' then some (c.toNat - 0x37)
  else Decimal.digitValue? c

def digits (n : Nat) : List Char :=
  if n < 16 then [digit n] else digits (n / 16) ++ [digit n]

end Hex

end EffectTables.Text
