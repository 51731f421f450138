import ChatGateway.Text.Utf8
import Mathlib.Data.List.Basic

/-!
# Reading what was written in UTF-8

Lenient as it is, the reader replaces nothing in bytes that a text was written as: it gives the text
back.  A byte of seven bits stands for its own character and is part of no other.
-/

namespace ChatGateway.Text.Utf8

/-! ## Bytes of a character -/

/-- A byte that is not the first of its character, by its six bits. -/
def tail (bits : Nat) : UInt8 := UInt8.ofNat (bits + 128)

theorem toNat_tail {bits : Nat} (small : bits < 64) : (tail bits).toNat = bits + 128 := by
  rw [tail, UInt8.toNat_ofNat']
  omega

/-- The least second byte after the first of three bytes, by its four bits. -/
def leastOfThree (bits : Nat) : UInt8 := if bits = 0 then 0xA0 else 0x80

/-- The greatest second byte after the first of three bytes. -/
def greatestOfThree (bits : Nat) : UInt8 := if bits = 13 then 0x9F else 0xBF

/-- The least second byte after the first of four bytes, by its three bits. -/
def leastOfFour (bits : Nat) : UInt8 := if bits = 0 then 0x90 else 0x80

/-- The greatest second byte after the first of four bytes. -/
def greatestOfFour (bits : Nat) : UInt8 := if bits = 4 then 0x8F else 0xBF

theorem begin?_two : ∀ bits < 32, 2 ≤ bits →
    begin? (UInt8.ofNat (bits + 192)) = some ⟨bits, 1, 0x80, 0xBF⟩ := by
  decide +kernel

theorem begin?_three : ∀ bits < 16,
    begin? (UInt8.ofNat (bits + 224)) =
      some ⟨bits, 2, leastOfThree bits, greatestOfThree bits⟩ := by
  decide +kernel

theorem begin?_four : ∀ bits < 5,
    begin? (UInt8.ofNat (bits + 240)) =
      some ⟨bits, 3, leastOfFour bits, greatestOfFour bits⟩ := by
  decide +kernel

namespace Reading

theorem step_start {byte : UInt8} {pending : Partial} (high : 128 ≤ byte.toNat)
    (begins : begin? byte = some pending) (read : List Char) :
    step ⟨none, read⟩ byte = ⟨some pending, read⟩ := by
  have notSingle : ¬byte < 0x80 := UInt8.not_lt.mpr high
  rw [step, first, if_neg notSingle, begins]

/-- A byte within the bounds adds its six bits. -/
theorem step_tail {bits code owed : Nat} {least greatest : UInt8} (small : bits < 64)
    (above : least.toNat ≤ bits + 128) (below : bits + 128 ≤ greatest.toNat) (read : List Char) :
    step ⟨some ⟨code, owed, least, greatest⟩, read⟩ (tail bits) =
      if owed ≤ 1 then ⟨none, Char.ofNat (code * 64 + bits) :: read⟩
      else ⟨some ⟨code * 64 + bits, owed - 1, 0x80, 0xBF⟩, read⟩ := by
  have value := toNat_tail small
  have within : least ≤ tail bits ∧ tail bits ≤ greatest := by
    rw [UInt8.le_iff_toNat_le, UInt8.le_iff_toNat_le, value]
    exact ⟨above, below⟩
  have low : (tail bits).toNat % 64 = bits := by
    rw [value]
    omega
  simp only [step, if_pos within, low]

/-- Any six bits may follow where the bounds are not tightened. -/
theorem step_any_tail {bits code owed : Nat} (small : bits < 64) (read : List Char) :
    step ⟨some ⟨code, owed, 0x80, 0xBF⟩, read⟩ (tail bits) =
      if owed ≤ 1 then ⟨none, Char.ofNat (code * 64 + bits) :: read⟩
      else ⟨some ⟨code * 64 + bits, owed - 1, 0x80, 0xBF⟩, read⟩ := by
  apply step_tail small
  · exact Nat.le_add_left 128 bits
  · exact Nat.le_pred_of_lt (Nat.add_lt_add_right small 128)

theorem step_last_tail {bits code : Nat} (small : bits < 64) (read : List Char) :
    step ⟨some ⟨code, 1, 0x80, 0xBF⟩, read⟩ (tail bits) =
      ⟨none, Char.ofNat (code * 64 + bits) :: read⟩ :=
  step_any_tail small read

theorem step_middle_tail {bits code : Nat} (small : bits < 64) (read : List Char) :
    step ⟨some ⟨code, 2, 0x80, 0xBF⟩, read⟩ (tail bits) =
      ⟨some ⟨code * 64 + bits, 1, 0x80, 0xBF⟩, read⟩ :=
  step_any_tail small read

/-- A character of seven bits. -/
theorem foldl_step_one {code : Nat} (small : code < 128) (read : List Char) :
    [UInt8.ofNat code].foldl step ⟨none, read⟩ = ⟨none, Char.ofNat code :: read⟩ := by
  have value : (UInt8.ofNat code).toNat = code := by
    rw [UInt8.toNat_ofNat']
    omega
  have single : UInt8.ofNat code < 0x80 := by
    rw [UInt8.lt_iff_toNat_lt, value]
    exact small
  rw [List.foldl_cons, List.foldl_nil, step, first, if_pos single, value]

theorem toNat_lead {bits mark : Nat} (small : bits + mark < 256) :
    (UInt8.ofNat (bits + mark)).toNat = bits + mark := by
  rw [UInt8.toNat_ofNat']
  exact Nat.mod_eq_of_lt small

theorem le_lead {bits mark : Nat} (high : 128 ≤ mark) (small : bits + mark < 256) :
    128 ≤ (UInt8.ofNat (bits + mark)).toNat := by
  rw [toNat_lead small]
  exact Nat.le_add_left_of_le high

/-- A character of eleven bits. -/
theorem foldl_step_two {code : Nat} (above : 0x80 ≤ code) (below : code < 0x800)
    (read : List Char) :
    [UInt8.ofNat (code / 64 % 32 + 192), tail (code % 64)].foldl step ⟨none, read⟩ =
      ⟨none, Char.ofNat code :: read⟩ := by
  have high : code / 64 % 32 < 32 := Nat.mod_lt _ (by decide)
  have begins := begin?_two (code / 64 % 32) high (by omega)
  have lead : 128 ≤ (UInt8.ofNat (code / 64 % 32 + 192)).toNat :=
    le_lead (by decide) (by omega)
  have whole : code / 64 % 32 * 64 + code % 64 = code := by omega
  rw [List.foldl_cons, List.foldl_cons, List.foldl_nil, step_start lead begins,
    step_last_tail (Nat.mod_lt _ (by decide)), whole]

/-- A character of sixteen bits, which is no surrogate. -/
theorem foldl_step_three {code : Nat} (above : 0x800 ≤ code) (below : code < 0x10000)
    (valid : code < 0xD800 ∨ 0xDFFF < code) (read : List Char) :
    [UInt8.ofNat (code / 4096 % 16 + 224), tail (code / 64 % 64), tail (code % 64)].foldl step
        ⟨none, read⟩ =
      ⟨none, Char.ofNat code :: read⟩ := by
  have begins := begin?_three (code / 4096 % 16) (Nat.mod_lt _ (by decide))
  have lead : 128 ≤ (UInt8.ofNat (code / 4096 % 16 + 224)).toNat :=
    le_lead (by decide) (by omega)
  have least : (leastOfThree (code / 4096 % 16)).toNat ≤ code / 64 % 64 + 128 := by
    rw [leastOfThree]
    split
    · change 160 ≤ _
      omega
    · exact Nat.le_add_left 128 _
  have greatest : code / 64 % 64 + 128 ≤ (greatestOfThree (code / 4096 % 16)).toNat := by
    rw [greatestOfThree]
    split
    · change _ ≤ 159
      omega
    · change _ ≤ 191
      omega
  have whole : (code / 4096 % 16 * 64 + code / 64 % 64) * 64 + code % 64 = code := by omega
  rw [List.foldl_cons, List.foldl_cons, List.foldl_cons, List.foldl_nil, step_start lead begins,
    step_tail (Nat.mod_lt _ (by decide)) least greatest]
  change step ⟨some ⟨_, 1, 0x80, 0xBF⟩, read⟩ _ = _
  rw [step_last_tail (Nat.mod_lt _ (by decide)), whole]

/-- A character of more bits. -/
theorem foldl_step_four {code : Nat} (above : 0x10000 ≤ code) (below : code < 0x110000)
    (read : List Char) :
    [UInt8.ofNat (code / 262144 % 8 + 240), tail (code / 4096 % 64), tail (code / 64 % 64),
        tail (code % 64)].foldl step ⟨none, read⟩ =
      ⟨none, Char.ofNat code :: read⟩ := by
  have begins := begin?_four (code / 262144 % 8) (by omega)
  have lead : 128 ≤ (UInt8.ofNat (code / 262144 % 8 + 240)).toNat :=
    le_lead (by decide) (by omega)
  have least : (leastOfFour (code / 262144 % 8)).toNat ≤ code / 4096 % 64 + 128 := by
    rw [leastOfFour]
    split
    · change 144 ≤ _
      omega
    · exact Nat.le_add_left 128 _
  have greatest : code / 4096 % 64 + 128 ≤ (greatestOfFour (code / 262144 % 8)).toNat := by
    rw [greatestOfFour]
    split
    · change _ ≤ 143
      omega
    · change _ ≤ 191
      omega
  have whole : ((code / 262144 % 8 * 64 + code / 4096 % 64) * 64 + code / 64 % 64) * 64 +
      code % 64 = code := by omega
  rw [List.foldl_cons, List.foldl_cons, List.foldl_cons, List.foldl_cons, List.foldl_nil,
    step_start lead begins, step_tail (Nat.mod_lt _ (by decide)) least greatest]
  change step (step ⟨some ⟨_, 2, 0x80, 0xBF⟩, read⟩ _) _ = _
  rw [step_middle_tail (Nat.mod_lt _ (by decide)), step_last_tail (Nat.mod_lt _ (by decide)),
    whole]

end Reading

/-! ## Characters and texts -/

/-- The bytes of a character are read as it. -/
theorem foldl_step_encodeChar (character : Char) (read : List Char) :
    (String.utf8EncodeChar character).foldl Reading.step ⟨none, read⟩ =
      ⟨none, character :: read⟩ := by
  have whole : Char.ofNat character.val.toNat = character := Char.ofNat_toNat character
  have valid : character.val.toNat < 0xD800 ∨
      0xDFFF < character.val.toNat ∧ character.val.toNat < 0x110000 := character.valid
  rw [String.utf8EncodeChar]
  split
  · rename_i one
    rw [Reading.foldl_step_one (Nat.lt_succ_of_le one), whole]
  · rename_i longer
    split
    · rename_i two
      exact (Reading.foldl_step_two (by omega) (Nat.lt_succ_of_le two) read).trans (by rw [whole])
    · rename_i longer
      split
      · rename_i three
        exact (Reading.foldl_step_three (by omega) (Nat.lt_succ_of_le three) (by omega)
          read).trans (by rw [whole])
      · exact (Reading.foldl_step_four (by omega) (by omega) read).trans (by rw [whole])

/-- A byte of seven bits stands for its own character. -/
theorem eq_of_mem_encodeChar {character : Char} {byte : UInt8}
    (member : byte ∈ String.utf8EncodeChar character) (small : byte.toNat < 128) :
    byte.toNat = character.toNat := by
  have longer {bits mark : Nat} (high : 128 ≤ mark) (fits : bits + mark < 256)
      (same : byte = UInt8.ofNat (bits + mark)) : byte.toNat = character.toNat := by
    rw [same, Reading.toNat_lead fits] at small
    omega
  rw [String.utf8EncodeChar] at member
  split at member
  · rename_i one
    rw [List.mem_singleton.mp member, UInt8.toNat_ofNat']
    exact Nat.mod_eq_of_lt (Nat.lt_of_le_of_lt one (by decide))
  · split at member
    · simp only [List.mem_cons, List.not_mem_nil, or_false] at member
      rcases member with same | same <;> exact longer (by decide) (by omega) same
    · split at member
      · simp only [List.mem_cons, List.not_mem_nil, or_false] at member
        rcases member with same | same | same <;> exact longer (by decide) (by omega) same
      · simp only [List.mem_cons, List.not_mem_nil, or_false] at member
        rcases member with same | same | same | same <;> exact longer (by decide) (by omega) same

/-- The bytes of a text. -/
def encode (text : List Char) : List UInt8 := text.flatMap String.utf8EncodeChar

@[simp] theorem encode_append (text more : List Char) :
    encode (text ++ more) = encode text ++ encode more := List.flatMap_append

theorem foldl_step_encode (text read : List Char) :
    (encode text).foldl Reading.step ⟨none, read⟩ = ⟨none, text.reverse ++ read⟩ := by
  induction text generalizing read with
  | nil => rfl
  | cons character rest ih =>
      rw [encode, List.flatMap_cons, List.foldl_append, foldl_step_encodeChar, ← encode, ih,
        List.reverse_cons, List.append_assoc]
      rfl

/-- The bytes of a text are read as the text. -/
theorem decode_encode (text : List Char) : decode (encode text) = text := by
  rw [decode, Reading.start, foldl_step_encode, Reading.finish, List.append_nil,
    List.reverse_reverse]

/-- A byte of seven bits does not occur where its character does not. -/
theorem not_mem_encode {byte : UInt8} (small : byte.toNat < 128) {text : List Char}
    (absent : ∀ character ∈ text, character.toNat ≠ byte.toNat) : byte ∉ encode text := by
  intro member
  obtain ⟨character, occurs, inside⟩ := List.mem_flatMap.mp member
  exact absent character occurs (eq_of_mem_encodeChar inside small).symm

/-! ## Byte arrays -/

theorem toList_loop_eq (bytes : ByteArray) (position : Nat) (read : List UInt8) :
    ByteArray.toList.loop bytes position read =
      read.reverse ++ bytes.data.toList.drop position := by
  fun_induction ByteArray.toList.loop bytes position read with
  | case1 position read inside ih =>
      have within : position < bytes.data.toList.length := by simpa using inside
      rw [ih, List.drop_eq_getElem_cons within]
      simp [ByteArray.get!, inside]
  | case2 position read outside =>
      rw [List.drop_eq_nil_of_le (by simpa using Nat.le_of_not_lt outside), List.append_nil]

theorem toList_eq_data_toList (bytes : ByteArray) : bytes.toList = bytes.data.toList :=
  toList_loop_eq bytes 0 []

theorem toList_toUTF8 (text : String) : text.toUTF8.toList = encode text.toList := by
  rw [String.toUTF8_eq_toByteArray, ← String.utf8Encode_toList, toList_eq_data_toList,
    List.utf8Encode, List.toList_data_toByteArray, encode]

theorem length_encode (text : String) : (encode text.toList).length = text.utf8ByteSize := by
  rw [← toList_toUTF8, toList_eq_data_toList]
  rfl

end ChatGateway.Text.Utf8
