import ContainerFleet.Text.Utf8

/-!
# Reading what was encoded

The octets of a text are read back as the text.  Between the characters the decoder has
no open sequence, so that texts one behind another are read one after another.  All
octets of a character outside ASCII are above it; hence a line feed among the octets is
one of the text.
-/

namespace ContainerFleet
namespace Utf8

/-! ## The octets of a text -/

theorem toList_loop (octets : ByteArray) (index : Nat) (read : List UInt8) :
    ByteArray.toList.loop octets index read = read.reverse ++ octets.data.toList.drop index := by
  fun_induction ByteArray.toList.loop octets index read with
  | case1 index read small inductionHypothesis =>
    have within : index < octets.data.toList.length := small
    have first : octets.get! index = octets.data.toList[index] :=
      getElem!_pos octets.data index small
    rw [inductionHypothesis, List.drop_eq_getElem_cons within, List.reverse_cons,
      List.append_assoc, List.singleton_append, first]
  | case2 index read large =>
    have behind : octets.data.toList.length ≤ index := Nat.le_of_not_lt large
    rw [List.drop_eq_nil_of_le behind, List.append_nil]

/-- The octets of a text are those of its characters. -/
theorem encodeText_eq (text : String) :
    encodeText text = text.toList.flatMap String.utf8EncodeChar := by
  rw [encodeText, String.toUTF8_eq_toByteArray, ← String.utf8Encode_toList, List.utf8Encode,
    ByteArray.toList, toList_loop, List.toList_data_toByteArray]
  rfl

/-! ## First octets and those that follow -/

theorem lead_of_ascii : ∀ number < 0x80,
    Lead.ofOctet (UInt8.ofNat number) = .whole (Char.ofNat number) := by
  decide

theorem lead_of_two : ∀ bits < 32, 2 ≤ bits →
    Lead.ofOctet (UInt8.ofNat (bits + 192)) = .begins ⟨1, 0x80, 0xBF, bits⟩ := by
  decide

theorem lead_of_three : ∀ bits < 16,
    Lead.ofOctet (UInt8.ofNat (bits + 224)) =
      .begins ⟨2, if bits = 0 then 0xA0 else 0x80, if bits = 13 then 0x9F else 0xBF, bits⟩ := by
  decide

theorem lead_of_four : ∀ bits < 5,
    Lead.ofOctet (UInt8.ofNat (bits + 240)) =
      .begins ⟨3, if bits = 0 then 0x90 else 0x80, if bits = 4 then 0x8F else 0xBF, bits⟩ := by
  decide

namespace Decoder

variable (read : List Char)

theorem feed_begins {octet : UInt8} {sequence : Partial}
    (lead : Lead.ofOctet octet = .begins sequence) :
    feed ⟨read, none⟩ octet = ⟨read, some sequence⟩ := by
  rw [feed, feedLead, lead]

variable {bits tail : Nat} {low high : UInt8}

/-- An octet that continues a sequence adds its six bits. -/
theorem feed_continues (missing : Nat) (small : tail < 64) (above : low.toNat ≤ tail + 128)
    (below : tail + 128 ≤ high.toNat) :
    feed ⟨read, some ⟨missing, low, high, bits⟩⟩ (UInt8.ofNat (tail + 128)) =
      if missing = 1 then ⟨Char.ofNat (64 * bits + tail) :: read, none⟩
      else ⟨read, some ⟨missing - 1, 0x80, 0xBF, 64 * bits + tail⟩⟩ := by
  have range : UInt8.size = 256 := rfl
  have octet : (UInt8.ofNat (tail + 128)).toNat = tail + 128 :=
    UInt8.toNat_ofNat_of_lt' (by omega)
  have inside : low ≤ UInt8.ofNat (tail + 128) ∧ UInt8.ofNat (tail + 128) ≤ high := by
    rw [UInt8.le_iff_toNat_le, UInt8.le_iff_toNat_le, octet]
    exact ⟨above, below⟩
  rw [feed]
  dsimp only
  rw [if_pos inside, octet, Nat.add_sub_cancel]

/-- The range in which octets lie that continue a sequence. -/
theorem tail_bounds (small : tail < 64) :
    (0x80 : UInt8).toNat ≤ tail + 128 ∧ tail + 128 ≤ (0xBF : UInt8).toNat := by
  change 128 ≤ _ ∧ _ ≤ 191
  omega

theorem feed_last (small : tail < 64) :
    feed ⟨read, some ⟨1, 0x80, 0xBF, bits⟩⟩ (UInt8.ofNat (tail + 128)) =
      ⟨Char.ofNat (64 * bits + tail) :: read, none⟩ :=
  feed_continues read 1 small (tail_bounds small).1 (tail_bounds small).2

theorem feed_middle (missing : Nat) (small : tail < 64) (above : low.toNat ≤ tail + 128)
    (below : tail + 128 ≤ high.toNat) :
    feed ⟨read, some ⟨missing + 2, low, high, bits⟩⟩ (UInt8.ofNat (tail + 128)) =
      ⟨read, some ⟨missing + 1, 0x80, 0xBF, 64 * bits + tail⟩⟩ :=
  feed_continues read (missing + 2) small above below

/-- The second octet of three is neither that of a shorter form nor of a surrogate. -/
theorem second_of_three {number : Nat} (large : 2047 < number) (small : number ≤ 65535)
    (real : number < 0xD800 ∨ 0xDFFF < number) :
    (if number / 4096 % 16 = 0 then 0xA0 else 0x80 : UInt8).toNat ≤ number / 64 % 64 + 128 ∧
      number / 64 % 64 + 128 ≤ (if number / 4096 % 16 = 13 then 0x9F else 0xBF : UInt8).toNat := by
  constructor
  · split
    · change 160 ≤ _
      omega
    · change 128 ≤ _
      omega
  · split
    · change _ ≤ 159
      omega
    · change _ ≤ 191
      omega

/-- The second octet of four is neither that of a shorter form nor of a number that is
too large. -/
theorem second_of_four {number : Nat} (large : 65535 < number) (small : number < 0x110000) :
    (if number / 262144 % 8 = 0 then 0x90 else 0x80 : UInt8).toNat ≤ number / 4096 % 64 + 128 ∧
      number / 4096 % 64 + 128 ≤
        (if number / 262144 % 8 = 4 then 0x8F else 0xBF : UInt8).toNat := by
  constructor
  · split
    · change 144 ≤ _
      omega
    · change 128 ≤ _
      omega
  · split
    · change _ ≤ 143
      omega
    · change _ ≤ 191
      omega

/-- The octets of a character are read as that character. -/
theorem foldl_utf8EncodeChar (char : Char) :
    (String.utf8EncodeChar char).foldl feed ⟨read, none⟩ = ⟨char :: read, none⟩ := by
  have real : char.toNat < 0xD800 ∨ 0xDFFF < char.toNat ∧ char.toNat < 0x110000 := char.valid
  have back : Char.ofNat char.toNat = char := Char.ofNat_toNat char
  rw [String.utf8EncodeChar.eq_1, Char.toNat_val]
  generalize char.toNat = number at real back
  subst back
  have continues (bits : Nat) : bits % 64 < 64 := Nat.mod_lt bits (by decide)
  by_cases one : number ≤ 127
  · rw [if_pos one, List.foldl_cons, List.foldl_nil, feed, feedLead,
      lead_of_ascii number (Nat.lt_succ_of_le one)]
  rw [if_neg one]
  by_cases two : number ≤ 2047
  · have joined : 64 * (number / 64 % 32) + number % 64 = number := by omega
    rw [if_pos two]
    simp only [List.foldl_cons, List.foldl_nil]
    rw [feed_begins read (lead_of_two (number / 64 % 32) (by omega) (by omega)),
      feed_last read (continues _), joined]
  rw [if_neg two]
  by_cases three : number ≤ 65535
  · have joined : 64 * (64 * (number / 4096 % 16) + number / 64 % 64) + number % 64 = number := by
      omega
    rcases second_of_three (Nat.lt_of_not_le two) three (by omega) with ⟨above, below⟩
    rw [if_pos three]
    simp only [List.foldl_cons, List.foldl_nil]
    rw [feed_begins read (lead_of_three (number / 4096 % 16) (by omega)),
      feed_middle read 0 (continues _) above below, feed_last read (continues _), joined]
  · have joined : 64 * (64 * (64 * (number / 262144 % 8) + number / 4096 % 64) +
        number / 64 % 64) + number % 64 = number := by
      omega
    rcases second_of_four (Nat.lt_of_not_le three) (by omega) with ⟨above, below⟩
    rcases tail_bounds (continues (number / 64)) with ⟨aboveThird, belowThird⟩
    rw [if_neg three]
    simp only [List.foldl_cons, List.foldl_nil]
    rw [feed_begins read (lead_of_four (number / 262144 % 8) (by omega)),
      feed_middle read 1 (continues _) above below,
      feed_middle read 0 (continues _) aboveThird belowThird, feed_last read (continues _), joined]

/-- Texts are read one character after another. -/
theorem foldl_encode (chars : List Char) :
    (chars.flatMap String.utf8EncodeChar).foldl feed ⟨read, none⟩ =
      ⟨chars.reverse ++ read, none⟩ := by
  induction chars generalizing read with
  | nil => rfl
  | cons char chars inductionHypothesis =>
    rw [List.flatMap_cons, List.foldl_append, foldl_utf8EncodeChar, inductionHypothesis,
      List.reverse_cons, List.append_assoc, List.singleton_append]

end Decoder

/-- The octets of a text are read as the text. -/
theorem decodeText_encodeText (text : String) : decodeText (encodeText text) = text := by
  rw [decodeText, decode, encodeText_eq, Decoder.start, Decoder.foldl_encode, List.append_nil,
    Decoder.finish, List.reverse_reverse, String.ofList_toList]

/-! ## Line feeds -/

/-- No octet of a character outside ASCII is in ASCII. -/
theorem above_ascii {char : Char} (large : 127 < char.toNat) {octet : UInt8}
    (member : octet ∈ String.utf8EncodeChar char) : 128 ≤ octet.toNat := by
  rw [String.utf8EncodeChar.eq_1, Char.toNat_val, if_neg (Nat.not_le_of_lt large)] at member
  split at member
  · simp only [List.mem_cons, List.not_mem_nil, or_false] at member
    rcases member with rfl | rfl
    all_goals
      rw [UInt8.toNat_ofNat']
      omega
  · split at member
    all_goals simp only [List.mem_cons, List.not_mem_nil, or_false] at member
    · rcases member with rfl | rfl | rfl
      all_goals
        rw [UInt8.toNat_ofNat']
        omega
    · rcases member with rfl | rfl | rfl | rfl
      all_goals
        rw [UInt8.toNat_ofNat']
        omega

/-- The octet of the line feed belongs to no other character. -/
theorem lineFeed_mem_utf8EncodeChar {char : Char} :
    0x0A ∈ String.utf8EncodeChar char ↔ char = '\n' := by
  constructor
  · intro member
    by_cases small : char.toNat ≤ 127
    · rw [String.utf8EncodeChar.eq_1, Char.toNat_val, if_pos small, List.mem_singleton] at member
      have number := congrArg UInt8.toNat member
      rw [UInt8.toNat_ofNat', Nat.mod_eq_of_lt (by omega)] at number
      rw [← Char.ofNat_toNat char, ← number]
      rfl
    · exact absurd (above_ascii (Nat.lt_of_not_le small) member) (by decide)
  · rintro rfl
    decide

theorem lineFeed_mem_encodeText {text : String} :
    0x0A ∈ encodeText text ↔ '\n' ∈ text.toList := by
  rw [encodeText_eq, List.mem_flatMap]
  simp only [lineFeed_mem_utf8EncodeChar, exists_eq_right]

end Utf8
end ContainerFleet
