import Mathlib.Data.List.TakeWhile
import GpuShare.Text.Utf8

/-!
Texts in UTF-8 are read back as they were written. The bytes of a character are one well-formed sequence, so the
reading takes them for one piece and goes on behind them.
-/

set_option autoImplicit false

namespace GpuShare.Text

variable {first second : UInt8} {more rest : List UInt8} {n x y : Nat} {c : Char}

theorem toNat_toUInt8 (small : x < 256) : x.toUInt8.toNat = x := by
  simp only [Nat.toUInt8_eq, UInt8.toNat_ofNat']
  omega

theorem isContinuation_toUInt8 (least : 0x80 ≤ x) (most : x ≤ 0xBF) : isContinuation x.toUInt8 = true := by
  have here := toNat_toUInt8 (show x < 256 by omega)
  simp [isContinuation, UInt8.le_iff_toNat_le, here, least, most]

theorem decodeUtf8From_append (skipped rest : List UInt8) :
    decodeUtf8From skipped.length (skipped ++ rest) = decodeUtf8From 0 rest := by
  induction skipped with
  | nil => rfl
  | cons b skipped ih => exact ih

theorem sequenceTail_append (may : mayFollow first second = true) (continues : ∀ b ∈ more, isContinuation b = true) :
    sequenceTail first (more.length + 1) (second :: more ++ rest) = second :: more := by
  have taken : (more ++ rest).take more.length = more := List.take_left
  rw [List.cons_append, sequenceTail, if_pos may, taken, List.takeWhile_eq_self_iff.2 continues]

/-- A well-formed sequence is read as its character. -/
theorem decodeUtf8From_sequence (length : tailLength? first = some (more.length + 1))
    (may : mayFollow first second = true) (continues : ∀ b ∈ more, isContinuation b = true) :
    decodeUtf8From 0 (first :: second :: more ++ rest) =
      some (sequenceChar first (second :: more)) :: decodeUtf8From 0 rest := by
  have tail : sequenceTail first (more.length + 1) (second :: more ++ rest) = second :: more :=
    sequenceTail_append may continues
  rw [List.cons_append, decodeUtf8From, length]
  dsimp only
  rw [tail, decodeUtf8From_append, List.length_cons, if_pos rfl]

theorem tailLength?_toUInt8 (small : x < 256) : tailLength? x.toUInt8 =
    if x < 0x80 then some 0
    else if 0xC2 ≤ x ∧ x ≤ 0xDF then some 1
    else if 0xE0 ≤ x ∧ x ≤ 0xEF then some 2
    else if 0xF0 ≤ x ∧ x ≤ 0xF4 then some 3
    else none := by
  simp [tailLength?, UInt8.le_iff_toNat_le, UInt8.lt_iff_toNat_lt, toNat_toUInt8 small]

theorem mayFollow_toUInt8 (first : x < 256) (second : y < 256) : mayFollow x.toUInt8 y.toUInt8 = true ↔
    0x80 ≤ y ∧ y ≤ 0xBF ∧ (x = 0xE0 → 0xA0 ≤ y) ∧ (x = 0xED → y ≤ 0x9F) ∧ (x = 0xF0 → 0x90 ≤ y) ∧
      (x = 0xF4 → y ≤ 0x8F) := by
  have same (b : UInt8) : x.toUInt8 = b ↔ x = b.toNat := by
    rw [← UInt8.toNat_inj, toNat_toUInt8 first]
  simp only [mayFollow, same]
  split_ifs <;>
    simp only [isContinuation, Bool.and_eq_true, decide_eq_true_eq, UInt8.le_iff_toNat_le, toNat_toUInt8 second,
      UInt8.reduceToNat] at * <;> omega

-- A number is the code of a character unless it is too large or a surrogate.
theorem toNat_cases (c : Char) : c.toNat < 0x110000 ∧ (c.toNat < 0xD800 ∨ 0xDFFF < c.toNat) := by
  have valid := c.valid
  unfold UInt32.isValidChar Nat.isValidChar at valid
  unfold Char.toNat
  omega

/-- The bytes of a character are one sequence, which is read as the character. -/
theorem decodeUtf8From_charBytes (c : Char) (rest : List UInt8) :
    decodeUtf8From 0 (charBytes c ++ rest) = some c :: decodeUtf8From 0 rest := by
  obtain ⟨limit, valid⟩ := toNat_cases c
  have back : Char.ofNat c.toNat = c := Char.ofNat_toNat c
  rw [charBytes]
  generalize c.toNat = n at limit valid back
  split_ifs with one two three
  · have small : n < 256 := by omega
    rw [List.singleton_append, decodeUtf8From, tailLength?_toUInt8 small, if_pos one]
    simp [sequenceTail, sequenceChar, toNat_toUInt8 small, back]
  · have length : tailLength? (0xC0 + n / 64).toUInt8 = some 1 := by
      rw [tailLength?_toUInt8 (by omega), if_neg (by omega), if_pos (by omega)]
    have may : mayFollow (0xC0 + n / 64).toUInt8 (0x80 + n % 64).toUInt8 = true :=
      (mayFollow_toUInt8 (by omega) (by omega)).2 (by omega)
    have char : sequenceChar (0xC0 + n / 64).toUInt8 [(0x80 + n % 64).toUInt8] = c := by
      refine (congrArg Char.ofNat ?_).trans back
      simp
      omega
    have alone : ∀ b ∈ ([] : List UInt8), isContinuation b = true := List.forall_mem_nil _
    exact (decodeUtf8From_sequence length may alone).trans (by rw [char])
  · have length : tailLength? (0xE0 + n / 4096).toUInt8 = some 2 := by
      rw [tailLength?_toUInt8 (by omega), if_neg (by omega), if_neg (by omega), if_pos (by omega)]
    have may : mayFollow (0xE0 + n / 4096).toUInt8 (0x80 + n / 64 % 64).toUInt8 = true :=
      (mayFollow_toUInt8 (by omega) (by omega)).2 (by omega)
    have continues : ∀ b ∈ [(0x80 + n % 64).toUInt8], isContinuation b = true :=
      List.forall_mem_singleton.2 (isContinuation_toUInt8 (by omega) (by omega))
    have char : sequenceChar (0xE0 + n / 4096).toUInt8 [(0x80 + n / 64 % 64).toUInt8, (0x80 + n % 64).toUInt8] = c := by
      refine (congrArg Char.ofNat ?_).trans back
      simp
      omega
    exact (decodeUtf8From_sequence length may continues).trans (by rw [char])
  · have length : tailLength? (0xF0 + n / 262144).toUInt8 = some 3 := by
      rw [tailLength?_toUInt8 (by omega), if_neg (by omega), if_neg (by omega), if_neg (by omega), if_pos (by omega)]
    have may : mayFollow (0xF0 + n / 262144).toUInt8 (0x80 + n / 4096 % 64).toUInt8 = true :=
      (mayFollow_toUInt8 (by omega) (by omega)).2 (by omega)
    have continues : ∀ b ∈ [(0x80 + n / 64 % 64).toUInt8, (0x80 + n % 64).toUInt8], isContinuation b = true :=
      List.forall_mem_cons.2 ⟨isContinuation_toUInt8 (by omega) (by omega),
        List.forall_mem_singleton.2 (isContinuation_toUInt8 (by omega) (by omega))⟩
    have char : sequenceChar (0xF0 + n / 262144).toUInt8
        [(0x80 + n / 4096 % 64).toUInt8, (0x80 + n / 64 % 64).toUInt8, (0x80 + n % 64).toUInt8] = c := by
      refine (congrArg Char.ofNat ?_).trans back
      simp
      omega
    exact (decodeUtf8From_sequence length may continues).trans (by rw [char])

theorem decodeUtf8_flatMap (chars : List Char) : decodeUtf8 (chars.flatMap charBytes) = chars.map some := by
  induction chars with
  | nil => rfl
  | cons c chars ih =>
    rw [List.flatMap_cons, decodeUtf8, decodeUtf8From_charBytes]
    exact congrArg _ ih

/-- A text is read back from its bytes. -/
theorem utf8Lossy_utf8Bytes (s : String) : utf8Lossy (utf8Bytes s) = s := by
  have same : (fun c : Option Char => c.getD (Char.ofNat 0xFFFD)) ∘ some = id := rfl
  rw [utf8Lossy, utf8Bytes, decodeUtf8_flatMap, List.map_map, same, List.map_id, String.ofList_toList]

theorem eq_empty_of_utf8Bytes {s : String} (empty : utf8Bytes s = []) : s = "" := by
  rw [← utf8Lossy_utf8Bytes s, empty]
  rfl

theorem zero_notMem_charBytes (some_char : c ≠ Char.ofNat 0) : (0 : UInt8) ∉ charBytes c := by
  have positive : c.toNat ≠ 0 := by
    intro zero
    exact some_char (by rw [← Char.ofNat_toNat c, zero])
  have limit := (toNat_cases c).1
  have some_byte {x : Nat} (least : 0 < x) (most : x < 256) : (0 : UInt8) ≠ x.toUInt8 := by
    rw [ne_eq, ← UInt8.toNat_inj, toNat_toUInt8 most]
    exact fun zero => absurd zero.symm (Nat.ne_of_gt least)
  rw [charBytes]
  split_ifs <;> simp only [List.mem_cons, List.not_mem_nil, or_false, not_or]
  · exact some_byte (by omega) (by omega)
  · exact ⟨some_byte (by omega) (by omega), some_byte (by omega) (by omega)⟩
  · exact ⟨some_byte (by omega) (by omega), some_byte (by omega) (by omega), some_byte (by omega) (by omega)⟩
  · exact ⟨some_byte (by omega) (by omega), some_byte (by omega) (by omega), some_byte (by omega) (by omega),
      some_byte (by omega) (by omega)⟩

/-- The bytes of a text without the zero character hold no zero. -/
theorem zero_notMem_utf8Bytes {s : String} (free : Char.ofNat 0 ∉ s.toList) : (0 : UInt8) ∉ utf8Bytes s := by
  intro member
  obtain ⟨c, inText, inBytes⟩ := List.mem_flatMap.1 member
  refine zero_notMem_charBytes ?_ inBytes
  rintro rfl
  exact free inText

end GpuShare.Text
