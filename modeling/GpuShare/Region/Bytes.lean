/-!
Little-endian numbers in byte strings. Reading is total: a byte beyond the end reads as zero, and a
write beyond the end changes nothing.
-/

set_option autoImplicit false

namespace GpuShare.Region

/-- The byte at a position, zero beyond the end. -/
def byteAt (bytes : ByteArray) (i : Nat) : UInt8 :=
  if h : i < bytes.size then bytes[i] else 0

def setByte (bytes : ByteArray) (i : Nat) (b : UInt8) : ByteArray := bytes.set! i b

def bytesAt (bytes : ByteArray) (start : Nat) : Nat → List UInt8
  | 0 => []
  | n + 1 => byteAt bytes start :: bytesAt bytes (start + 1) n

def putBytes (bytes : ByteArray) (start : Nat) : List UInt8 → ByteArray
  | [] => bytes
  | b :: bs => putBytes (setByte bytes start b) (start + 1) bs

def value : List UInt8 → Nat
  | [] => 0
  | b :: bs => b.toNat + 256 * value bs

/-- The `n` lowest bytes of a number, the least significant first. -/
def little : Nat → Nat → List UInt8
  | 0, _ => []
  | n + 1, v => v.toUInt8 :: little n (v / 256)

theorem little_length (n v : Nat) : (little n v).length = n := by
  induction n generalizing v with
  | zero => rfl
  | succ n ih => simp [little, ih]

theorem value_little (n v : Nat) (small : v < Nat.pow 256 n) : value (little n v) = v := by
  induction n generalizing v with
  | zero => simp at small; subst small; rfl
  | succ n ih =>
    have rest : v / 256 < Nat.pow 256 n := by
      rw [Nat.pow_eq, Nat.pow_succ] at small
      exact Nat.div_lt_of_lt_mul (by rwa [Nat.mul_comm] at small)
    simp only [little, value, ih _ rest]
    have low : v.toUInt8.toNat = v % 256 := by simp [Nat.toUInt8]
    omega

theorem size_setByte (bytes : ByteArray) (i : Nat) (b : UInt8) :
    (setByte bytes i b).size = bytes.size := ByteArray.size_set! ..

theorem size_putBytes (bytes : ByteArray) (start : Nat) (bs : List UInt8) :
    (putBytes bytes start bs).size = bytes.size := by
  induction bs generalizing bytes start with
  | nil => rfl
  | cons b bs ih => rw [putBytes, ih, size_setByte]

def word64 (bytes : ByteArray) (start : Nat) : UInt64 := UInt64.ofNat (value (bytesAt bytes start 8))

def word32 (bytes : ByteArray) (start : Nat) : UInt32 := UInt32.ofNat (value (bytesAt bytes start 4))

def int32 (bytes : ByteArray) (start : Nat) : Int32 := (word32 bytes start).toInt32

def putWord64 (bytes : ByteArray) (start : Nat) (v : UInt64) : ByteArray :=
  putBytes bytes start (little 8 v.toNat)

def putInt32 (bytes : ByteArray) (start : Nat) (v : Int32) : ByteArray :=
  putBytes bytes start (little 4 v.toUInt32.toNat)

def zeros (n : Nat) : ByteArray := ⟨Array.replicate n 0⟩

theorem size_zeros (n : Nat) : (zeros n).size = n := by simp [zeros, ByteArray.size]

def resize (bytes : ByteArray) (size : Nat) : ByteArray :=
  if size ≤ bytes.size then bytes.extract 0 size else bytes ++ zeros (size - bytes.size)

/-- The byte string with these bytes written from a position on, extended where it is too short. -/
def overwrite (bytes : ByteArray) (start : Nat) (bs : List UInt8) : ByteArray :=
  putBytes (resize bytes (max bytes.size (start + bs.length))) start bs

/-- The positions at which two byte strings differ, with the byte of the second. -/
def changedBytes (before after : ByteArray) : List (Nat × UInt8) :=
  (List.range after.size).filterMap fun i =>
    if byteAt before i = byteAt after i then none else some (i, byteAt after i)

end GpuShare.Region
