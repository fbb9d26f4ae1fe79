import ContainerFleet.Proofs.Text.Utf8

/-!
# Octets that are no text

Among the octets of a text each maximal ill-formed subpart is read as one replacement
character: the longest beginning of a character's octets, or else one octet.  `Lossy`
says so without a decoder.  All octets have exactly one such reading, which is the one
that the decoder finds.  An octet in ASCII stands for itself wherever it stands, so that
what is before it and what is behind it are read by themselves.
-/

namespace ContainerFleet
namespace Utf8

open String (utf8EncodeChar)

/-- One octet, or a beginning of the octets of some character. -/
def Begun (part : List UInt8) : Prop :=
  part.length = 1 ∨ ∃ char, part <+: utf8EncodeChar char

/-- A maximal ill-formed subpart in front of other octets: the longest beginning of a
character's octets, or else one octet. -/
structure IllFormed (part rest : List UInt8) : Prop where
  begun : Begun part
  present : part ≠ []
  unfinished : ∀ char, part ≠ utf8EncodeChar char
  longest : ∀ octet ∈ rest.head?, ∀ char, ¬ part ++ [octet] <+: utf8EncodeChar char

/-- The text that octets are read as, with one replacement character for each maximal
ill-formed subpart. -/
inductive Lossy : List UInt8 → List Char → Prop where
  | nil : Lossy [] []
  | char (char : Char) {rest : List UInt8} {chars : List Char} (others : Lossy rest chars) :
      Lossy (utf8EncodeChar char ++ rest) (char :: chars)
  | illFormed {part rest : List UInt8} {chars : List Char} (ill : IllFormed part rest)
      (others : Lossy rest chars) : Lossy (part ++ rest) (replacement :: chars)

/-! ## All octets have a reading -/

theorem utf8EncodeChar_ne_nil (char : Char) : utf8EncodeChar char ≠ [] := by
  rw [String.utf8EncodeChar.eq_1]
  split
  · exact List.cons_ne_nil _ _
  · split
    · exact List.cons_ne_nil _ _
    · split <;> exact List.cons_ne_nil _ _

/-- What has begun goes on as long as some character's octets do. -/
theorem exists_longest {part : List UInt8} (begun : Begun part) (rest : List UInt8) :
    ∃ more after, rest = more ++ after ∧ Begun (part ++ more) ∧
      ∀ octet ∈ after.head?, ∀ char, ¬ part ++ more ++ [octet] <+: utf8EncodeChar char := by
  induction rest generalizing part with
  | nil =>
    refine ⟨[], [], rfl, ?_, fun _ member => nomatch member⟩
    rwa [List.append_nil]
  | cons octet rest inductionHypothesis =>
    by_cases goes_on : ∃ char, part ++ [octet] <+: utf8EncodeChar char
    · rcases inductionHypothesis (.inr goes_on) with ⟨more, after, rfl, begunAll, longest⟩
      rw [List.append_assoc, List.singleton_append] at begunAll longest
      exact ⟨octet :: more, after, rfl, begunAll, longest⟩
    · refine ⟨[], octet :: rest, rfl, ?_, ?_⟩
      · rwa [List.append_nil]
      · rintro other ⟨⟩ char continued
        rw [List.append_nil] at continued
        exact goes_on ⟨char, continued⟩

/-- Octets begin with those of a character or with a maximal ill-formed subpart. -/
theorem exists_front {octets : List UInt8} (present : octets ≠ []) :
    ∃ part rest, octets = part ++ rest ∧ part ≠ [] ∧
      ((∃ char, part = utf8EncodeChar char) ∨ IllFormed part rest) := by
  by_cases whole : ∃ char, utf8EncodeChar char <+: octets
  · rcases whole with ⟨char, rest, shape⟩
    exact ⟨_, rest, shape.symm, utf8EncodeChar_ne_nil char, .inl ⟨char, rfl⟩⟩
  · rcases List.exists_cons_of_ne_nil present with ⟨first, more, rfl⟩
    rcases exists_longest (.inl rfl : Begun [first]) more with
      ⟨others, rest, rfl, begun, longest⟩
    have filled : [first] ++ others ≠ [] := List.cons_ne_nil first others
    refine ⟨[first] ++ others, rest, rfl, filled, .inr ⟨begun, filled, ?_, longest⟩⟩
    intro char same
    exact whole ⟨char, rest, by rw [← same]; rfl⟩

theorem exists_lossy (octets : List UInt8) : ∃ chars, Lossy octets chars := by
  induction size : octets.length using Nat.strongRecOn generalizing octets with
  | _ length inductionHypothesis =>
  by_cases present : octets = []
  · exact ⟨[], present ▸ .nil⟩
  · rcases exists_front present with ⟨part, rest, rfl, filled, front⟩
    have shorter : rest.length < length := by
      rw [← size, List.length_append]
      exact Nat.lt_add_of_pos_left (List.length_pos_iff.mpr filled)
    rcases inductionHypothesis rest.length shorter rest rfl with ⟨chars, others⟩
    rcases front with ⟨char, rfl⟩ | ill
    · exact ⟨char :: chars, .char char others⟩
    · exact ⟨replacement :: chars, .illFormed ill others⟩

/-! ## The decoder on what stands in front -/

namespace Decoder

variable (read : List Char)

/-- What has been read before stays as it is. -/
theorem feed_append (first : List Char) (open? : Option Partial) (octet : UInt8) :
    feed ⟨first ++ read, open?⟩ octet =
      ⟨(feed ⟨first, open?⟩ octet).read ++ read, (feed ⟨first, open?⟩ octet).open?⟩ := by
  have lead (before : List Char) : feedLead (before ++ read) octet =
      ⟨(feedLead before octet).read ++ read, (feedLead before octet).open?⟩ := by
    rw [feedLead, feedLead]
    cases Lead.ofOctet octet <;> rfl
  cases open? with
  | none => exact lead first
  | some sequence =>
    rw [feed, feed]
    dsimp only
    split
    · split <;> rfl
    · exact lead (replacement :: first)

theorem foldl_append (octets : List UInt8) (first : List Char) (open? : Option Partial) :
    octets.foldl feed ⟨first ++ read, open?⟩ =
      ⟨(octets.foldl feed ⟨first, open?⟩).read ++ read,
        (octets.foldl feed ⟨first, open?⟩).open?⟩ := by
  induction octets generalizing first open? with
  | nil => rfl
  | cons octet octets inductionHypothesis =>
    rw [List.foldl_cons, feed_append, inductionHypothesis, List.foldl_cons]

/-- Octets that come when no sequence is open are read as by themselves. -/
theorem finish_foldl (octets : List UInt8) :
    (octets.foldl feed ⟨read, none⟩).finish = read.reverse ++ decode octets := by
  have whole := foldl_append read octets [] none
  rw [List.nil_append] at whole
  rw [whole, decode, start, finish, finish]
  cases (octets.foldl feed ⟨[], none⟩).open? <;> simp

end Decoder

/-! ## The octets of characters -/

/-- The octets of a character, told by the bits that each of them carries. -/
inductive Octets : List UInt8 → Prop where
  | one {bits : Nat} (small : bits < 128) : Octets [UInt8.ofNat bits]
  | two {lead last : Nat} (low : 2 ≤ lead) (high : lead < 32) (tail : last < 64) :
      Octets [UInt8.ofNat (lead + 192), UInt8.ofNat (last + 128)]
  | three {lead second last : Nat} (high : lead < 16) (next : second < 64) (tail : last < 64)
      (long : lead = 0 → 32 ≤ second) (noSurrogate : lead = 13 → second < 32) :
      Octets [UInt8.ofNat (lead + 224), UInt8.ofNat (second + 128), UInt8.ofNat (last + 128)]
  | four {lead second third last : Nat} (high : lead < 5) (next : second < 64)
      (middle : third < 64) (tail : last < 64) (long : lead = 0 → 16 ≤ second)
      (inRange : lead = 4 → second < 16) :
      Octets [UInt8.ofNat (lead + 240), UInt8.ofNat (second + 128), UInt8.ofNat (third + 128),
        UInt8.ofNat (last + 128)]

theorem toNat_ofNat {number : Nat} (real : number.isValidChar) :
    (Char.ofNat number).toNat = number := by
  rw [Char.ofNat, dif_pos real]
  rfl

theorem octets_utf8EncodeChar (char : Char) : Octets (utf8EncodeChar char) := by
  have real : char.toNat < 0xD800 ∨ 0xDFFF < char.toNat ∧ char.toNat < 0x110000 := char.valid
  rw [String.utf8EncodeChar.eq_1, Char.toNat_val]
  split
  · exact .one (by omega)
  · split
    · exact .two (by omega) (by omega) (by omega)
    · split
      · exact .three (by omega) (by omega) (by omega) (by omega) (by omega)
      · exact .four (by omega) (by omega) (by omega) (by omega) (by omega) (by omega)

theorem exists_char_of_octets {octets : List UInt8} (shape : Octets octets) :
    ∃ char, octets = utf8EncodeChar char := by
  cases shape with
  | @one bits small =>
    refine ⟨Char.ofNat bits, ?_⟩
    rw [String.utf8EncodeChar.eq_1, Char.toNat_val, toNat_ofNat (.inl (by omega)), if_pos (by omega)]
  | @two lead last low high tail =>
    refine ⟨Char.ofNat (64 * lead + last), ?_⟩
    rw [String.utf8EncodeChar.eq_1, Char.toNat_val, toNat_ofNat (.inl (by omega)),
      if_neg (by omega), if_pos (by omega)]
    congr <;> omega
  | @three lead second last high next tail long noSurrogate =>
    have real : (64 * (64 * lead + second) + last).isValidChar := by
      unfold Nat.isValidChar
      omega
    refine ⟨Char.ofNat (64 * (64 * lead + second) + last), ?_⟩
    rw [String.utf8EncodeChar.eq_1, Char.toNat_val, toNat_ofNat real, if_neg (by omega),
      if_neg (by omega), if_pos (by omega)]
    congr <;> omega
  | @four lead second third last high next middle tail long inRange =>
    have real : (64 * (64 * (64 * lead + second) + third) + last).isValidChar := by
      unfold Nat.isValidChar
      omega
    refine ⟨Char.ofNat (64 * (64 * (64 * lead + second) + third) + last), ?_⟩
    rw [String.utf8EncodeChar.eq_1, Char.toNat_val, toNat_ofNat real, if_neg (by omega),
      if_neg (by omega), if_neg (by omega)]
    congr <;> omega

/-- An octet in the range of those that may come next. -/
theorem exists_tail {low high octet : UInt8} (least : 128 ≤ low.toNat) (most : high.toNat ≤ 191)
    (above : low ≤ octet) (below : octet ≤ high) :
    ∃ tail, tail < 64 ∧ octet = UInt8.ofNat (tail + 128) ∧ low.toNat ≤ tail + 128 ∧
      tail + 128 ≤ high.toNat := by
  rw [UInt8.le_iff_toNat_le] at above below
  have known : octet.toNat - 128 + 128 = octet.toNat := by omega
  refine ⟨octet.toNat - 128, by omega, ?_, by omega, by omega⟩
  rw [known, UInt8.ofNat_toNat]

theorem exists_last {octet : UInt8} (above : 0x80 ≤ octet) (below : octet ≤ 0xBF) :
    ∃ tail, tail < 64 ∧ octet = UInt8.ofNat (tail + 128) := by
  rcases exists_tail (by decide) (by decide) above below with ⟨tail, small, known, -, -⟩
  exact ⟨tail, small, known⟩

/-- Behind one first octet the least second octet is higher, and behind another the greatest
is lower. -/
theorem narrowed_iff {lead first last second least most : Nat} {low high : UInt8}
    (next : second < 64) (lowest : low.toNat = least + 128) (highest : high.toNat + 1 = most + 128) :
    ((if lead = first then low else 0x80).toNat ≤ second + 128 ∧
        second + 128 ≤ (if lead = last then high else 0xBF).toNat) ↔
      (lead = first → least ≤ second) ∧ (lead = last → second < most) := by
  refine and_congr ?_ ?_
  · split
    · rename_i narrow
      rw [lowest, Nat.add_le_add_iff_right, imp_iff_right narrow]
    · rename_i wide
      exact iff_of_true (Decoder.tail_bounds next).1 fun wrong => absurd wrong wide
  · split
    · rename_i narrow
      rw [← Nat.lt_succ_iff, Nat.succ_eq_add_one, highest, Nat.add_lt_add_iff_right,
        imp_iff_right narrow]
    · rename_i wide
      exact iff_of_true (Decoder.tail_bounds next).2 fun wrong => absurd wrong wide

/-- An octet in the range of the second ones. -/
theorem exists_second {lead first last least most : Nat} {low high octet : UInt8}
    (lowest : low.toNat = least + 128) (highest : high.toNat + 1 = most + 128) (within : most ≤ 64)
    (above : (if lead = first then low else 0x80) ≤ octet)
    (below : octet ≤ if lead = last then high else 0xBF) :
    ∃ second, second < 64 ∧ octet = UInt8.ofNat (second + 128) ∧
      (lead = first → least ≤ second) ∧ (lead = last → second < most) := by
  have from128 : 128 ≤ (if lead = first then low else 0x80).toNat := by
    split
    · exact lowest ▸ Nat.le_add_left 128 least
    · decide
  have to191 : (if lead = last then high else 0xBF).toNat ≤ 191 := by
    split
    · omega
    · decide
  rcases exists_tail from128 to191 above below with ⟨second, next, known, low, up⟩
  exact ⟨second, next, known, (narrowed_iff next lowest highest).mp ⟨low, up⟩⟩

/-- The octets leave a sequence open that goes on only as the octets of some character do. -/
structure Leaves (part : List UInt8) (sequence : Partial) : Prop where
  opens : ∀ read, part.foldl Decoder.feed ⟨read, none⟩ = ⟨read, some sequence⟩
  continues : ∀ octet, sequence.low ≤ octet → octet ≤ sequence.high →
    ∃ longer, Octets longer ∧ part ++ [octet] <+: longer

namespace Leaves

variable {lead second third : Nat}

theorem two (low : 2 ≤ lead) (high : lead < 32) :
    Leaves [UInt8.ofNat (lead + 192)] ⟨1, 0x80, 0xBF, lead⟩ where
  opens read := Decoder.feed_begins read (lead_of_two lead high low)
  continues octet above below := by
    rcases exists_last above below with ⟨last, tail, rfl⟩
    exact ⟨_, .two low high tail, List.prefix_refl _⟩

theorem three (high : lead < 16) :
    Leaves [UInt8.ofNat (lead + 224)]
      ⟨2, if lead = 0 then 0xA0 else 0x80, if lead = 13 then 0x9F else 0xBF, lead⟩ where
  opens read := Decoder.feed_begins read (lead_of_three lead high)
  continues octet above below := by
    have within : 32 ≤ 64 := by decide
    rcases exists_second rfl rfl within above below with ⟨second, next, rfl, long, noSurrogate⟩
    exact ⟨_, .three high next (by decide : 0 < 64) long noSurrogate, [UInt8.ofNat (0 + 128)], rfl⟩

theorem threeSecond (high : lead < 16) (next : second < 64) (long : lead = 0 → 32 ≤ second)
    (noSurrogate : lead = 13 → second < 32) :
    Leaves [UInt8.ofNat (lead + 224), UInt8.ofNat (second + 128)]
      ⟨1, 0x80, 0xBF, 64 * lead + second⟩ where
  opens read := by
    have lowest : (0xA0 : UInt8).toNat = 32 + 128 := rfl
    have highest : (0x9F : UInt8).toNat + 1 = 32 + 128 := rfl
    rcases (narrowed_iff next lowest highest).mpr ⟨long, noSurrogate⟩ with ⟨low, up⟩
    rw [List.foldl_cons, Decoder.feed_begins read (lead_of_three lead high)]
    exact Decoder.feed_middle read 0 next low up
  continues octet above below := by
    rcases exists_last above below with ⟨last, tail, rfl⟩
    exact ⟨_, .three high next tail long noSurrogate, List.prefix_refl _⟩

theorem four (high : lead < 5) :
    Leaves [UInt8.ofNat (lead + 240)]
      ⟨3, if lead = 0 then 0x90 else 0x80, if lead = 4 then 0x8F else 0xBF, lead⟩ where
  opens read := Decoder.feed_begins read (lead_of_four lead high)
  continues octet above below := by
    have within : 16 ≤ 64 := by decide
    rcases exists_second rfl rfl within above below with ⟨second, next, rfl, long, inRange⟩
    have none_more : 0 < 64 := by decide
    exact ⟨_, .four high next none_more none_more long inRange,
      [UInt8.ofNat (0 + 128), UInt8.ofNat (0 + 128)], rfl⟩

theorem fourSecond (high : lead < 5) (next : second < 64) (long : lead = 0 → 16 ≤ second)
    (inRange : lead = 4 → second < 16) :
    Leaves [UInt8.ofNat (lead + 240), UInt8.ofNat (second + 128)]
      ⟨2, 0x80, 0xBF, 64 * lead + second⟩ where
  opens read := by
    have lowest : (0x90 : UInt8).toNat = 16 + 128 := rfl
    have highest : (0x8F : UInt8).toNat + 1 = 16 + 128 := rfl
    rcases (narrowed_iff next lowest highest).mpr ⟨long, inRange⟩ with ⟨low, up⟩
    rw [List.foldl_cons, Decoder.feed_begins read (lead_of_four lead high)]
    exact Decoder.feed_middle read 1 next low up
  continues octet above below := by
    rcases exists_last above below with ⟨third, middle, rfl⟩
    exact ⟨_, .four high next middle (by decide : 0 < 64) long inRange, [UInt8.ofNat (0 + 128)],
      rfl⟩

theorem fourThird (high : lead < 5) (next : second < 64) (middle : third < 64)
    (long : lead = 0 → 16 ≤ second) (inRange : lead = 4 → second < 16) :
    Leaves [UInt8.ofNat (lead + 240), UInt8.ofNat (second + 128), UInt8.ofNat (third + 128)]
      ⟨1, 0x80, 0xBF, 64 * (64 * lead + second) + third⟩ where
  opens read := by
    have twoRead := (fourSecond high next long inRange).opens read
    rw [List.foldl_cons, List.foldl_cons, List.foldl_nil] at twoRead
    rw [List.foldl_cons, List.foldl_cons, twoRead]
    exact Decoder.feed_middle read 0 middle (Decoder.tail_bounds middle).1
      (Decoder.tail_bounds middle).2
  continues octet above below := by
    rcases exists_last above below with ⟨last, tail, rfl⟩
    exact ⟨_, .four high next middle tail long inRange, List.prefix_refl _⟩

end Leaves

/-- What is there of octets, if it is anything but not all, has the first of them. -/
theorem eq_cons_of_proper {part octets : List UInt8} {octet : UInt8} (present : part ≠ [])
    (within : part <+: octet :: octets) (unfinished : part ≠ octet :: octets) :
    ∃ more, part = octet :: more ∧ more <+: octets ∧ more ≠ octets := by
  rcases List.prefix_cons_iff.mp within with nothing | ⟨more, rfl, inRest⟩
  · exact absurd nothing present
  · exact ⟨more, rfl, inRest, fun same => unfinished (congrArg (octet :: ·) same)⟩

/-- What is a beginning of a character's octets, but not all of them, leaves a sequence open
that goes on only as the octets of some character do. -/
theorem exists_leaves {part octets : List UInt8} (present : part ≠ []) (shape : Octets octets)
    (within : part <+: octets) (unfinished : part ≠ octets) :
    ∃ sequence, Leaves part sequence := by
  cases shape with
  | one small =>
    rcases eq_cons_of_proper present within unfinished with ⟨_, -, nothing, wrong⟩
    exact absurd (List.prefix_nil.mp nothing) wrong
  | two low high tail =>
    rcases eq_cons_of_proper present within unfinished with ⟨more, rfl, inRest, short⟩
    by_cases there : more = []
    · exact there ▸ ⟨_, .two low high⟩
    rcases eq_cons_of_proper there inRest short with ⟨_, -, nothing, wrong⟩
    exact absurd (List.prefix_nil.mp nothing) wrong
  | three high next tail long noSurrogate =>
    rcases eq_cons_of_proper present within unfinished with ⟨more, rfl, inRest, short⟩
    by_cases there : more = []
    · exact there ▸ ⟨_, .three high⟩
    rcases eq_cons_of_proper there inRest short with ⟨others, rfl, inOthers, shorter⟩
    by_cases second : others = []
    · exact second ▸ ⟨_, .threeSecond high next long noSurrogate⟩
    rcases eq_cons_of_proper second inOthers shorter with ⟨_, -, nothing, wrong⟩
    exact absurd (List.prefix_nil.mp nothing) wrong
  | four high next middle tail long inRange =>
    rcases eq_cons_of_proper present within unfinished with ⟨more, rfl, inRest, short⟩
    by_cases there : more = []
    · exact there ▸ ⟨_, .four high⟩
    rcases eq_cons_of_proper there inRest short with ⟨others, rfl, inOthers, shorter⟩
    by_cases second : others = []
    · exact second ▸ ⟨_, .fourSecond high next long inRange⟩
    rcases eq_cons_of_proper second inOthers shorter with ⟨left, rfl, inLeft, shortest⟩
    by_cases third : left = []
    · exact third ▸ ⟨_, .fourThird high next middle long inRange⟩
    rcases eq_cons_of_proper third inLeft shortest with ⟨_, -, nothing, wrong⟩
    exact absurd (List.prefix_nil.mp nothing) wrong

/-- An octet is stray, or some character's octets begin with it. -/
theorem stray_or_begins (octet : UInt8) :
    Lead.ofOctet octet = .stray ∨ ∃ octets, Octets octets ∧ [octet] <+: octets := by
  have zero : 0 < 64 := by decide
  have begins {lead offset : Nat} {more : List UInt8} (known : lead + offset = octet.toNat)
      (shape : Octets (UInt8.ofNat (lead + offset) :: more)) :
      ∃ octets, Octets octets ∧ [octet] <+: octets := by
    rw [known, UInt8.ofNat_toNat] at shape
    exact ⟨_, shape, more, rfl⟩
  -- The second octets are the least that the first ones allow.
  have third {lead : Nat} (high : lead < 16) :
      Octets (UInt8.ofNat (lead + 224) :: [UInt8.ofNat ((if lead = 0 then 32 else 0) + 128),
        UInt8.ofNat (0 + 128)]) :=
    .three high (by split <;> decide) zero (fun first => Nat.le_of_eq (if_pos first).symm)
      fun last => by rw [if_neg (by omega)]; decide
  have fourth {lead : Nat} (high : lead < 5) :
      Octets (UInt8.ofNat (lead + 240) :: [UInt8.ofNat ((if lead = 0 then 16 else 0) + 128),
        UInt8.ofNat (0 + 128), UInt8.ofNat (0 + 128)]) :=
    .four high (by split <;> decide) zero zero (fun first => Nat.le_of_eq (if_pos first).symm)
      fun last => by rw [if_neg (by omega)]; decide
  simp only [Lead.ofOctet, UInt8.lt_iff_toNat_lt, UInt8.reduceToNat]
  split
  · rename_i ascii
    exact .inr (begins rfl (.one ascii : Octets [UInt8.ofNat (octet.toNat + 0)]))
  split
  · exact .inl rfl
  split
  · have known : octet.toNat - 192 + 192 = octet.toNat := by omega
    exact .inr (begins known (.two (by omega) (by omega) zero))
  split
  · have known : octet.toNat - 224 + 224 = octet.toNat := by omega
    exact .inr (begins known (third (by omega)))
  split
  · have known : octet.toNat - 240 + 240 = octet.toNat := by omega
    exact .inr (begins known (fourth (by omega)))
  · exact .inl rfl

/-! ## The reading that the decoder finds -/

theorem decode_char (char : Char) (rest : List UInt8) :
    decode (utf8EncodeChar char ++ rest) = char :: decode rest := by
  rw [decode, List.foldl_append, Decoder.start, Decoder.foldl_utf8EncodeChar,
    Decoder.finish_foldl]
  rfl

/-- A maximal ill-formed subpart is read as one replacement character. -/
theorem decode_illFormed {part rest : List UInt8} (ill : IllFormed part rest) :
    decode (part ++ rest) = replacement :: decode rest := by
  have behind : ([replacement] : List Char).reverse ++ decode rest = replacement :: decode rest :=
    rfl
  rw [decode, List.foldl_append, Decoder.start, ← behind, ← Decoder.finish_foldl]
  by_cases begins : ∃ octets, Octets octets ∧ part <+: octets
  · rcases begins with ⟨octets, shape, within⟩
    rcases exists_char_of_octets shape with ⟨char, rfl⟩
    rcases exists_leaves ill.present shape within (ill.unfinished char) with ⟨sequence, leaves⟩
    rw [leaves.opens]
    cases rest with
    | nil => rfl
    | cons octet rest =>
      -- The octet behind the subpart cannot go on with it, so it is read as a new start.
      have outside : ¬ (sequence.low ≤ octet ∧ octet ≤ sequence.high) := by
        rintro ⟨above, below⟩
        rcases leaves.continues octet above below with ⟨longer, shape, within⟩
        rcases exists_char_of_octets shape with ⟨other, rfl⟩
        exact ill.longest octet rfl other within
      have ended : Decoder.feed ⟨[], some sequence⟩ octet = Decoder.feed ⟨[replacement], none⟩ octet :=
        if_neg outside
      rw [List.foldl_cons, List.foldl_cons, ended]
  · have single : part.length = 1 := by
      rcases ill.begun with single | ⟨char, within⟩
      · exact single
      · exact absurd ⟨_, octets_utf8EncodeChar char, within⟩ begins
    rcases List.length_eq_one_iff.mp single with ⟨octet, rfl⟩
    have stray := (stray_or_begins octet).resolve_right begins
    rw [List.foldl_cons, List.foldl_nil, Decoder.feed]
    dsimp only
    rw [Decoder.feedLead, stray]

/-- The decoder finds the one reading that there is. -/
theorem lossy_iff {octets : List UInt8} {chars : List Char} :
    Lossy octets chars ↔ decode octets = chars := by
  have found {octets : List UInt8} {chars : List Char} (lossy : Lossy octets chars) :
      decode octets = chars := by
    induction lossy with
    | nil => rfl
    | char char others inductionHypothesis => rw [decode_char, inductionHypothesis]
    | illFormed ill others inductionHypothesis => rw [decode_illFormed ill, inductionHypothesis]
  constructor
  · exact found
  · rintro rfl
    rcases exists_lossy octets with ⟨chars, lossy⟩
    exact (found lossy).symm ▸ lossy

/-! ## Characters in ASCII -/

theorem utf8EncodeChar_of_ascii {char : Char} (small : char.toNat < 128) :
    utf8EncodeChar char = [UInt8.ofNat char.toNat] := by
  rw [String.utf8EncodeChar.eq_1, Char.toNat_val, if_pos (Nat.le_of_lt_succ small)]

/-- No octet but the first of a character is in ASCII. -/
theorem not_prefix_of_ascii {part : List UInt8} {ascii char : Char} (present : part ≠ [])
    (small : ascii.toNat < 128) : ¬ part ++ [UInt8.ofNat ascii.toNat] <+: utf8EncodeChar char := by
  intro within
  have octet : (UInt8.ofNat ascii.toNat).toNat = ascii.toNat :=
    UInt8.toNat_ofNat_of_lt' (Nat.lt_trans small (by decide))
  by_cases one : char.toNat < 128
  · have short := within.length_le
    rw [utf8EncodeChar_of_ascii one, List.length_append] at short
    exact absurd (List.length_pos_iff.mpr present) (Nat.not_lt_of_le (Nat.le_of_succ_le_succ short))
  · have member : UInt8.ofNat ascii.toNat ∈ utf8EncodeChar char := within.subset (by simp)
    have large := above_ascii (Nat.lt_of_succ_le (Nat.le_of_not_lt one)) member
    rw [octet] at large
    exact absurd small (Nat.not_lt_of_le large)

/-- A character in ASCII stands for itself wherever it stands: it ends what is ill-formed
before it. -/
theorem Lossy.append {front rest : List UInt8} {chars others : List Char} {ascii : Char}
    (small : ascii.toNat < 128) (before : Lossy front chars) (behind : Lossy rest others) :
    Lossy (front ++ UInt8.ofNat ascii.toNat :: rest) (chars ++ ascii :: others) := by
  induction before with
  | nil =>
    have whole := Lossy.char ascii behind
    rwa [utf8EncodeChar_of_ascii small] at whole
  | char char _ inductionHypothesis =>
    rw [List.append_assoc]
    exact .char char inductionHypothesis
  | @illFormed part left chars ill _ inductionHypothesis =>
    rw [List.append_assoc]
    refine .illFormed ⟨ill.begun, ill.present, ill.unfinished, ?_⟩ inductionHypothesis
    cases left with
    | nil =>
      rintro octet ⟨⟩ char
      exact not_prefix_of_ascii ill.present small
    | cons octet left => exact ill.longest

theorem decode_append {ascii : Char} (small : ascii.toNat < 128) (front rest : List UInt8) :
    decode (front ++ UInt8.ofNat ascii.toNat :: rest) = decode front ++ ascii :: decode rest :=
  lossy_iff.mp (Lossy.append small (lossy_iff.mpr rfl) (lossy_iff.mpr rfl))

/-- No other octets are read as a character in ASCII. -/
theorem Lossy.mem {octets : List UInt8} {chars : List Char} {ascii : Char}
    (small : ascii.toNat < 128) (lossy : Lossy octets chars) (member : ascii ∈ chars) :
    UInt8.ofNat ascii.toNat ∈ octets := by
  induction lossy with
  | nil => cases member
  | char char _ inductionHypothesis =>
    rw [List.mem_append]
    rcases List.mem_cons.mp member with rfl | inOthers
    · rw [utf8EncodeChar_of_ascii small]
      exact .inl List.mem_cons_self
    · exact .inr (inductionHypothesis inOthers)
  | illFormed _ _ inductionHypothesis =>
    rw [List.mem_append]
    rcases List.mem_cons.mp member with rfl | inOthers
    · exact absurd small (by decide)
    · exact .inr (inductionHypothesis inOthers)

theorem mem_of_mem_decode {octets : List UInt8} {ascii : Char} (small : ascii.toNat < 128)
    (member : ascii ∈ decode octets) : UInt8.ofNat ascii.toNat ∈ octets :=
  Lossy.mem small (lossy_iff.mpr rfl) member

theorem decode_eq_nil_iff {octets : List UInt8} : decode octets = [] ↔ octets = [] := by
  rw [← lossy_iff]
  constructor
  · intro lossy
    cases lossy
    rfl
  · rintro rfl
    exact .nil

end Utf8
end ContainerFleet
