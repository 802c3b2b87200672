import Mathlib.Data.Nat.Digits.Defs
import GpuShare.Text.Decimal

/-!
Numerals. A numeral is one or more decimal digits, in some places with a sign before them. Main statements:
a reader for a type of bounded numbers accepts the numerals of its numbers and no other text.
-/

set_option autoImplicit false

namespace GpuShare.Text

variable {cs : List Char} {n : Nat}

def valueOf (digit : Char) : Nat := digit.toNat - '0'.toNat

/-- The number that some digits stand for, the last of them for the ones. -/
def decimalValue (cs : List Char) : Nat := Nat.ofDigits 10 (cs.reverse.map valueOf)

structure IsNumeral (cs : List Char) (n : Nat) : Prop where
  some_digit : cs ≠ []
  digits : ∀ c ∈ cs, c.isDigit = true
  value : decimalValue cs = n

inductive IsUnsigned : List Char → Nat → Prop where
  | bare {cs : List Char} {n : Nat} : IsNumeral cs n → IsUnsigned cs n
  | plus {cs : List Char} {n : Nat} : IsNumeral cs n → IsUnsigned ('+' :: cs) n

inductive IsSigned : List Char → Int → Prop where
  | bare {cs : List Char} {n : Nat} : IsNumeral cs n → IsSigned cs n
  | plus {cs : List Char} {n : Nat} : IsNumeral cs n → IsSigned ('+' :: cs) n
  | minus {cs : List Char} {n : Nat} : IsNumeral cs n → IsSigned ('-' :: cs) (-n)

theorem decimalValue_cons (c : Char) (cs : List Char) :
    decimalValue (c :: cs) = valueOf c * 10 ^ cs.length + decimalValue cs := by
  simp [decimalValue, Nat.ofDigits_append, Nat.mul_comm, Nat.add_comm]

theorem digitValue?_eq_some {c : Char} {d : Nat} :
    digitValue? c = some d ↔ c.isDigit = true ∧ valueOf c = d := by
  simp [digitValue?, valueOf]

theorem readDigitsFrom?_eq_some {value : Nat} : readDigitsFrom? value cs = some n ↔
    (∀ c ∈ cs, c.isDigit = true) ∧ value * 10 ^ cs.length + decimalValue cs = n := by
  induction cs generalizing value with
  | nil => simp [readDigitsFrom?, decimalValue]
  | cons c cs ih =>
    -- What was read so far moves one place up.
    have place (d : Nat) : (value * 10 + d) * 10 ^ cs.length + decimalValue cs =
        value * 10 ^ (c :: cs).length + (d * 10 ^ cs.length + decimalValue cs) := by
      simp only [List.length_cons, Nat.pow_succ]
      ring
    rw [readDigitsFrom?, decimalValue_cons]
    simp only [Option.bind_eq_some_iff, digitValue?_eq_some, ih, place, List.forall_mem_cons]
    constructor
    · rintro ⟨d, ⟨digit, rfl⟩, digits, value⟩
      exact ⟨⟨digit, digits⟩, value⟩
    · rintro ⟨⟨digit, digits⟩, value⟩
      exact ⟨_, ⟨digit, rfl⟩, digits, value⟩

theorem readNat?_eq_some : readNat? cs = some n ↔ IsNumeral cs n := by
  cases cs with
  | nil => exact ⟨nofun, fun numeral => absurd rfl numeral.some_digit⟩
  | cons c cs =>
    rw [readNat?, readDigitsFrom?_eq_some, Nat.zero_mul, Nat.zero_add]
    exact ⟨fun ⟨digits, value⟩ => ⟨List.cons_ne_nil c cs, digits, value⟩,
      fun numeral => ⟨numeral.digits, numeral.value⟩⟩

-- A sign is no digit, so a text that starts with one is read in one way only.
theorem IsNumeral.head_isDigit {c : Char} (numeral : IsNumeral (c :: cs) n) : c.isDigit = true :=
  numeral.digits c List.mem_cons_self

theorem IsNumeral.not_mem {c : Char} (numeral : IsNumeral cs n) (other : c.isDigit = false) : c ∉ cs := by
  intro member
  rw [numeral.digits c member] at other
  cases other

theorem isNumeral_digits (n : Nat) : IsNumeral (digits n) n := readNat?_eq_some.1 (readNat?_digits n)

theorem readUnsigned?_eq_some : readUnsigned? cs = some n ↔ IsUnsigned cs n := by
  unfold readUnsigned?
  split
  · next cs =>
    rw [readNat?_eq_some]
    refine ⟨.plus, fun numeral => ?_⟩
    cases numeral with
    | bare numeral => cases numeral.head_isDigit
    | plus numeral => exact numeral
  · next unsigned =>
    rw [readNat?_eq_some]
    refine ⟨.bare, fun numeral => ?_⟩
    cases numeral with
    | bare numeral => exact numeral
    | plus => exact absurd rfl (unsigned _)

theorem map_readNat?_eq_some {f : Int → Int} {i : Int} :
    ((do return (← readNat? cs : Int)) : Option Int).map f = some i ↔ ∃ n : Nat, IsNumeral cs n ∧ f n = i := by
  simp [Option.bind_eq_some_iff, readNat?_eq_some]

theorem readSigned?_eq_some {i : Int} : readSigned? cs = some i ↔ IsSigned cs i := by
  unfold readSigned?
  split
  · next cs =>
    rw [map_readNat?_eq_some]
    constructor
    · rintro ⟨n, numeral, rfl⟩
      exact .minus numeral
    · intro numeral
      cases numeral with
      | bare numeral => cases numeral.head_isDigit
      | minus numeral => exact ⟨_, numeral, rfl⟩
  · next cs =>
    rw [map_readNat?_eq_some]
    constructor
    · rintro ⟨n, numeral, rfl⟩
      exact .plus numeral
    · intro numeral
      cases numeral with
      | bare numeral => cases numeral.head_isDigit
      | plus numeral => exact ⟨_, numeral, rfl⟩
  · next noMinus noPlus =>
    rw [map_readNat?_eq_some]
    constructor
    · rintro ⟨n, numeral, rfl⟩
      exact .bare numeral
    · intro numeral
      cases numeral with
      | bare numeral => exact ⟨_, numeral, rfl⟩
      | plus => exact absurd rfl (noPlus _)
      | minus => exact absurd rfl (noMinus _)

theorem readInt32?_eq_some {i : Int32} : readInt32? cs = some i ↔ IsSigned cs i.toInt := by
  simp only [readInt32?, Option.bind_eq_some_iff, readSigned?_eq_some]
  constructor
  · rintro ⟨value, numeral, fits⟩
    split at fits
    · next bounds =>
      cases fits
      rwa [Int32.toInt_ofInt_of_le bounds.1 (by omega)]
    · cases fits
  · intro numeral
    have low : -2147483648 ≤ i.toInt := i.le_toInt
    have high : i.toInt < 2147483648 := i.toInt_lt
    exact ⟨i.toInt, numeral, by rw [if_pos ⟨low, by omega⟩, Int32.ofInt_toInt]⟩

theorem readUInt32?_eq_some {n : UInt32} : readUInt32? cs = some n ↔ IsUnsigned cs n.toNat := by
  simp only [readUInt32?, Option.bind_eq_some_iff, readUnsigned?_eq_some]
  constructor
  · rintro ⟨value, numeral, fits⟩
    split at fits
    · next small =>
      cases fits
      rwa [UInt32.toNat_ofNat_of_lt' small]
    · cases fits
  · intro numeral
    exact ⟨n.toNat, numeral, by rw [if_pos n.toNat_lt, UInt32.ofNat_toNat]⟩

theorem readUInt32?_digits (n : UInt32) : readUInt32? (digits n.toNat) = some n :=
  readUInt32?_eq_some.2 (.bare (isNumeral_digits n.toNat))

theorem readUInt64?_eq_some {n : UInt64} : readUInt64? cs = some n ↔ IsUnsigned cs n.toNat := by
  simp only [readUInt64?, Option.bind_eq_some_iff, readUnsigned?_eq_some]
  constructor
  · rintro ⟨value, numeral, fits⟩
    split at fits
    · next small =>
      cases fits
      rwa [UInt64.toNat_ofNat_of_lt' small]
    · cases fits
  · intro numeral
    exact ⟨n.toNat, numeral, by rw [if_pos n.toNat_lt, UInt64.ofNat_toNat]⟩

end GpuShare.Text
