import ContainerFleet.Log.Wire

/-!
# Packets at the front of octets

The octets of a stream divide in one way: complete packets that carry output,
as many as stand at the front, and a rest behind them after which the stream
ends.  `Wire.Division` and `Wire.Ends` say so about octets alone, through the
written form of packets; they know neither sources nor reads, and they do not
mention `Wire.first?`, which finds the division.
-/

namespace ContainerFleet
namespace Log
namespace Wire

/-! ## Lengths in four octets -/

theorem bigEndian_fourOctets {number : Nat} (small : number < 0x100000000) :
    Frame.bigEndian (fourOctets number) = number := by
  simp only [Frame.bigEndian, fourOctets, octetOf, List.foldl_cons, List.foldl_nil,
    UInt8.toNat_ofNat']
  omega

theorem fourOctets_bigEndian (s₁ s₂ s₃ s₄ : UInt8) :
    fourOctets (Frame.bigEndian [s₁, s₂, s₃, s₄]) = [s₁, s₂, s₃, s₄] := by
  have b₁ := s₁.toNat_lt
  have b₂ := s₂.toNat_lt
  have b₃ := s₃.toNat_lt
  have b₄ := s₄.toNat_lt
  simp only [Frame.bigEndian, fourOctets, octetOf, List.foldl_cons, List.foldl_nil,
    List.cons.injEq, and_true, ← UInt8.toNat_inj, UInt8.toNat_ofNat']
  omega

theorem bigEndian_lt (s₁ s₂ s₃ s₄ : UInt8) : Frame.bigEndian [s₁, s₂, s₃, s₄] < 0x100000000 := by
  have b₁ := s₁.toNat_lt
  have b₂ := s₂.toNat_lt
  have b₃ := s₃.toNat_lt
  have b₄ := s₄.toNat_lt
  simp only [Frame.bigEndian, List.foldl_cons, List.foldl_nil]
  omega

/-! ## The packet at the front -/

theorem Packet.length_header (packet : Packet) : packet.header.length = Frame.headerSize := rfl

theorem Packet.length_encode (packet : Packet) :
    packet.encode.length = Frame.headerSize + packet.payload.length := by
  rw [Packet.encode, List.length_append, packet.length_header]

/-- A complete packet is found whatever follows it. -/
theorem first?_encode (packet : Packet) (fits : packet.Fits) (rest : List UInt8) :
    first? (packet.encode ++ rest) = some (packet, rest) := by
  have size : Frame.bigEndian [octetOf 3 packet.payload.length, octetOf 2 packet.payload.length,
      octetOf 1 packet.payload.length, octetOf 0 packet.payload.length] = packet.payload.length :=
    bigEndian_fourOctets fits
  simp only [Packet.encode, Packet.header, fourOctets, List.cons_append, List.nil_append, first?,
    size, List.length_append]
  rw [if_neg (by omega), List.take_left, List.drop_left]

/-- Octets that are too few for a header hold no complete packet; that the
header is incomplete is then all that is missing. -/
theorem first?_of_length_lt {octets : List UInt8} (few : octets.length < Frame.headerSize) :
    first? octets = none ∧
      (octets ≠ [] → shortfall octets = some (.shortHeader octets.length)) := by
  match octets with
  | [] => exact ⟨rfl, fun present => absurd rfl present⟩
  | [_] | [_, _] | [_, _, _] | [_, _, _, _] | [_, _, _, _, _] | [_, _, _, _, _, _]
  | [_, _, _, _, _, _, _] => exact ⟨rfl, fun _ => rfl⟩
  | _ :: _ :: _ :: _ :: _ :: _ :: _ :: _ :: rest =>
    simp only [List.length_cons, Frame.headerSize] at few
    omega

/-- Octets are too few for a header or begin with one. -/
theorem short_or_header (octets : List UInt8) :
    octets.length < Frame.headerSize ∨ ∃ number filler₁ filler₂ filler₃ s₁ s₂ s₃ s₄ rest,
      octets = number :: filler₁ :: filler₂ :: filler₃ :: s₁ :: s₂ :: s₃ :: s₄ :: rest := by
  match octets with
  | [] | [_] | [_, _] | [_, _, _] | [_, _, _, _] | [_, _, _, _, _] | [_, _, _, _, _, _]
  | [_, _, _, _, _, _, _] => exact .inl (by simp [Frame.headerSize])
  | _ :: _ :: _ :: _ :: _ :: _ :: _ :: _ :: rest =>
    exact .inr ⟨_, _, _, _, _, _, _, _, _, rfl⟩

/-- What is found at the front is a packet that can be written, and it is what
stands there. -/
theorem eq_encode_of_first? {octets rest : List UInt8} {packet : Packet}
    (found : first? octets = some (packet, rest)) :
    packet.Fits ∧ octets = packet.encode ++ rest := by
  unfold first? at found
  split at found
  · rename_i number filler₁ filler₂ filler₃ s₁ s₂ s₃ s₄ behind
    simp only at found
    split at found
    · cases found
    · rename_i enough
      simp only [Option.some.injEq, Prod.mk.injEq] at found
      rcases found with ⟨rfl, rfl⟩
      have length : (behind.take (Frame.bigEndian [s₁, s₂, s₃, s₄])).length =
          Frame.bigEndian [s₁, s₂, s₃, s₄] := by
        rw [List.length_take, Nat.min_eq_left (Nat.le_of_not_lt enough)]
      constructor
      · rw [Packet.Fits, length]
        exact bigEndian_lt s₁ s₂ s₃ s₄
      · simp only [Packet.encode, Packet.header, length, fourOctets_bigEndian, List.cons_append,
          List.nil_append, List.take_append_drop]
  · cases found

/-! ## What stands behind the last frame -/

/-- Octets that hold no complete packet, and what is missing from them: nothing
where there are none, a part of a header, or a part of a payload.  Only the
length of a header that was cut is known; of a payload that was cut it is also
known how long it should have been. -/
inductive Shortfall : List UInt8 → Option FramingError → Prop
  | nothing : Shortfall [] none
  | header {left : List UInt8} : left ≠ [] → left.length < Frame.headerSize →
      Shortfall left (some (.shortHeader left.length))
  | payload {left : List UInt8} {packet : Packet} : packet.Fits → left <+: packet.encode →
      Frame.headerSize ≤ left.length → left ≠ packet.encode →
      Shortfall left
        (some (.shortPayload (left.length - Frame.headerSize) packet.payload.length))

/-- The packet carries output and not an error report or something unknown. -/
def Packet.CarriesOutput (packet : Packet) : Prop := packet.number ≤ 2

instance (packet : Packet) : Decidable packet.CarriesOutput :=
  inferInstanceAs (Decidable (_ ≤ _))

/-- The output of a packet that carries some. -/
def Packet.output (packet : Packet) : Output :=
  if packet.number = 2 then .stderr else .stdout

/-- What is shown of a packet that carries output. -/
def Packet.shown (packet : Packet) : Frame := ⟨packet.output, packet.payload⟩

/-- How a stream ends behind its last frame.  That a payload is incomplete
counts before the number of its packet, which is only looked at in a complete
one. -/
inductive Ends : (left : List UInt8) → (sourceEnding : Option PeerError) →
    Option StreamError → Prop
  | clean : Ends [] none none
  | failed {left : List UInt8} {missing : Option FramingError} {error : PeerError} :
      Shortfall left missing → Ends left (some error) (some (.peer error))
  | short {left : List UInt8} {missing : FramingError} :
      Shortfall left (some missing) → Ends left none (some (.framing missing))
  | report {packet : Packet} {later : List UInt8} {sourceEnding : Option PeerError} :
      packet.Fits → packet.number = 3 →
      Ends (packet.encode ++ later) sourceEnding
        (some (.framing (.runtime (Text.trimmed (Utf8.decodeText packet.payload)))))
  | unknown {packet : Packet} {later : List UInt8} {sourceEnding : Option PeerError} :
      packet.Fits → 3 < packet.number →
      Ends (packet.encode ++ later) sourceEnding
        (some (.framing (.unknownOutput packet.number.toNat)))

/-- Packets that carry output, at the front of some octets. -/
structure Division (octets : List UInt8) (packets : List Packet) (left : List UInt8) : Prop where
  octets_eq : octets = encode packets ++ left
  carried : ∀ packet ∈ packets, packet.Fits ∧ packet.CarriesOutput

theorem Shortfall.of_first? {octets : List UInt8} (unfound : first? octets = none) :
    Shortfall octets (shortfall octets) := by
  rcases short_or_header octets with few | ⟨number, filler₁, filler₂, filler₃, s₁, s₂, s₃, s₄,
    rest, rfl⟩
  · by_cases empty : octets = []
    · subst empty
      exact .nothing
    · rw [(first?_of_length_lt few).2 empty]
      exact .header empty few
  · have short : rest.length < Frame.bigEndian [s₁, s₂, s₃, s₄] := by
      simp only [first?] at unfound
      split at unfound
      · assumption
      · cases unfound
    let missing := List.replicate (Frame.bigEndian [s₁, s₂, s₃, s₄] - rest.length) (0 : UInt8)
    let packet : Packet := ⟨number, (filler₁, filler₂, filler₃), rest ++ missing⟩
    have size : packet.payload.length = Frame.bigEndian [s₁, s₂, s₃, s₄] := by
      simp only [packet, missing, List.length_append, List.length_replicate]
      omega
    have fits : packet.Fits := by
      rw [Packet.Fits, size]
      exact bigEndian_lt s₁ s₂ s₃ s₄
    have written : packet.encode = number :: filler₁ :: filler₂ :: filler₃ :: s₁ :: s₂ :: s₃ ::
        s₄ :: (rest ++ missing) := by
      simp only [Packet.encode, Packet.header, size, fourOctets_bigEndian]
      rfl
    have incomplete : number :: filler₁ :: filler₂ :: filler₃ :: s₁ :: s₂ :: s₃ :: s₄ :: rest ≠
        packet.encode := by
      intro same
      have lengths := congrArg List.length same
      rw [packet.length_encode, size] at lengths
      simp only [List.length_cons, Frame.headerSize] at lengths
      omega
    have enough : Frame.headerSize ≤ (number :: filler₁ :: filler₂ :: filler₃ :: s₁ :: s₂ :: s₃ ::
        s₄ :: rest).length := Nat.le_add_left Frame.headerSize rest.length
    have cut := Shortfall.payload fits ⟨missing, by rw [written]; rfl⟩ enough incomplete
    rw [size] at cut
    exact cut

/-- What is missing is told by the octets, and where something is missing there
is no complete packet. -/
theorem Shortfall.unique {left : List UInt8} {missing : Option FramingError}
    (cut : Shortfall left missing) : first? left = none ∧ missing = shortfall left := by
  cases cut with
  | nothing => exact ⟨rfl, rfl⟩
  | header present few =>
    rcases first?_of_length_lt few with ⟨unfound, told⟩
    exact ⟨unfound, (told present).symm⟩
  | @payload _ packet fits front enough incomplete =>
    let there := left.length - Frame.headerSize
    have split : left = packet.header ++ packet.payload.take there := by
      have taken := List.prefix_iff_eq_take.mp front
      rw [Packet.encode, List.take_append, List.take_of_length_le enough] at taken
      exact taken
    have short : there < packet.payload.length := by
      have most := front.length_le
      rw [packet.length_encode] at most
      refine Nat.lt_of_le_of_ne (by omega) ?_
      intro same
      apply incomplete
      rw [split, same, List.take_length, Packet.encode]
    have size : Frame.bigEndian [octetOf 3 packet.payload.length, octetOf 2 packet.payload.length,
        octetOf 1 packet.payload.length, octetOf 0 packet.payload.length] =
        packet.payload.length := bigEndian_fourOctets fits
    have length : (packet.payload.take there).length = there := by
      rw [List.length_take, Nat.min_eq_left (Nat.le_of_lt short)]
    have given : left.length - Frame.headerSize = there := rfl
    rw [given, split]
    simp only [Packet.header, fourOctets, List.cons_append, List.nil_append, first?, shortfall,
      size, length, if_pos short, true_and]

/-! ## The three kinds of complete packets -/

namespace Packet

theorem frame_of_carriesOutput {packet : Packet} (carries : packet.CarriesOutput) :
    packet.frame = .ok packet.shown := by
  rcases packet with ⟨number, filler, payload⟩
  have few : number.toNat ≤ 2 := UInt8.le_iff_toNat_le.mp carries
  have cases : number = 0 ∨ number = 1 ∨ number = 2 := by
    simp only [← UInt8.toNat_inj, UInt8.toNat_ofNat]
    omega
  rcases cases with rfl | rfl | rfl <;> rfl

theorem frame_of_report {packet : Packet} (report : packet.number = 3) :
    packet.frame =
      .error (.runtime (Text.trimmed (Utf8.decodeText packet.payload))) := by
  rw [frame, report]
  rfl

theorem frame_of_unknown {packet : Packet} (unknown : 3 < packet.number) :
    packet.frame = .error (.unknownOutput packet.number.toNat) := by
  have many : 3 < packet.number.toNat := UInt8.lt_iff_toNat_lt.mp unknown
  rw [frame]
  unfold Frame.ofParts
  split
  · omega
  · omega
  · omega
  · omega
  · rfl

/-- A complete packet carries output, reports an error, or is unknown. -/
theorem kinds (packet : Packet) :
    packet.CarriesOutput ∨ packet.number = 3 ∨ 3 < packet.number := by
  simp only [CarriesOutput, UInt8.le_iff_toNat_le, UInt8.lt_iff_toNat_lt, ← UInt8.toNat_inj,
    UInt8.toNat_ofNat]
  omega

end Packet

/-! ## One division for all octets -/

/-- One step of `readAll`. -/
theorem readAll_of_first? {octets rest : List UInt8} {packet : Packet}
    (sourceEnding : Option PeerError) (found : first? octets = some (packet, rest)) :
    readAll octets sourceEnding =
      match packet.frame with
      | .error error => ([], some (.framing error))
      | .ok frame => (frame :: (readAll rest sourceEnding).1, (readAll rest sourceEnding).2) := by
  have divided : packets octets = (packet :: (packets rest).1, (packets rest).2) := by
    rw [packets]
    split
    · rename_i unfound
      rw [unfound] at found
      cases found
    · rename_i other behind also
      rw [also] at found
      cases found
      rfl
  rw [readAll, divided]
  cases of : packet.frame with
  | error error => simp only [frames, of]
  | ok frame =>
    simp only [frames, of, readAll]
    cases (frames (packets rest).1).2 <;> rfl

theorem readAll_of_unfound {octets : List UInt8} (sourceEnding : Option PeerError)
    (unfound : first? octets = none) :
    readAll octets sourceEnding = ([], endingOf octets sourceEnding) := by
  have divided : packets octets = ([], octets) := by
    rw [packets]
    split
    · rfl
    · rename_i found
      rw [found] at unfound
      cases unfound
  rw [readAll, divided]
  rfl

/-- Every division of the octets after which they end tells what is read. -/
theorem readAll_of_division {octets left : List UInt8} {packets : List Packet}
    {sourceEnding : Option PeerError} {ending : Option StreamError}
    (division : Division octets packets left) (ends : Ends left sourceEnding ending) :
    readAll octets sourceEnding = (packets.map Packet.shown, ending) := by
  rcases division with ⟨rfl, carried⟩
  induction packets with
  | nil =>
    rw [encode, List.flatMap_nil, List.nil_append, List.map_nil]
    cases ends with
    | clean => exact readAll_of_unfound none rfl
    | failed cut => exact readAll_of_unfound _ cut.unique.1
    | short cut =>
      rcases cut.unique with ⟨unfound, missing⟩
      rw [readAll_of_unfound none unfound, endingOf, ← missing]
      rfl
    | report fits report =>
      rw [readAll_of_first? sourceEnding (first?_encode _ fits _), Packet.frame_of_report report]
    | unknown fits unknown =>
      rw [readAll_of_first? sourceEnding (first?_encode _ fits _), Packet.frame_of_unknown unknown]
  | cons packet packets inductionHypothesis =>
    rcases carried packet List.mem_cons_self with ⟨fits, carries⟩
    have later := inductionHypothesis fun other member =>
      carried other (List.mem_cons_of_mem packet member)
    rw [encode, List.flatMap_cons, List.append_assoc, ← encode,
      readAll_of_first? sourceEnding (first?_encode packet fits _),
      Packet.frame_of_carriesOutput carries]
    simp only [later, List.map_cons]

/-- All octets have a division after which they end. -/
theorem exists_division (octets : List UInt8) (sourceEnding : Option PeerError) :
    ∃ packets left ending, Division octets packets left ∧ Ends left sourceEnding ending := by
  induction size : octets.length using Nat.strongRecOn generalizing octets with
  | _ size_octets inductionHypothesis =>
  cases found : first? octets with
  | none =>
    have cut := Shortfall.of_first? found
    cases sourceEnding with
    | some error => exact ⟨[], octets, _, ⟨rfl, fun _ member => nomatch member⟩, .failed cut⟩
    | none =>
      cases missing : shortfall octets with
      | some error =>
        exact ⟨[], octets, _, ⟨rfl, fun _ member => nomatch member⟩, .short (missing ▸ cut)⟩
      | none =>
        rw [missing] at cut
        cases cut
        exact ⟨[], [], none, ⟨rfl, fun _ member => nomatch member⟩, .clean⟩
  | some found_packet =>
    rcases found_packet with ⟨packet, rest⟩
    rcases eq_encode_of_first? found with ⟨fits, rfl⟩
    rcases packet.kinds with carries | report | unknown
    · rcases inductionHypothesis rest.length (size ▸ length_of_first? found) rest rfl with
        ⟨packets, left, ending, ⟨rfl, carried⟩, ends⟩
      refine ⟨packet :: packets, left, ending, ⟨?_, ?_⟩, ends⟩
      · rw [encode, encode, List.flatMap_cons, List.append_assoc]
      · exact List.forall_mem_cons.mpr ⟨⟨fits, carries⟩, carried⟩
    · exact ⟨[], _, _, ⟨rfl, fun _ member => nomatch member⟩, .report fits report⟩
    · exact ⟨[], _, _, ⟨rfl, fun _ member => nomatch member⟩, .unknown fits unknown⟩

/-- Behind the last frame no packet that carries output is complete. -/
theorem Ends.no_output {left rest : List UInt8} {packet : Packet}
    {sourceEnding : Option PeerError} {ending : Option StreamError}
    (ends : Ends left sourceEnding ending) (found : first? left = some (packet, rest)) :
    ¬ packet.CarriesOutput := by
  have unfound_of_cut : ∀ missing, ¬ Shortfall left missing := by
    intro missing cut
    rw [cut.unique.1] at found
    cases found
  cases ends with
  | clean => exact absurd Shortfall.nothing (unfound_of_cut none)
  | failed cut => exact absurd cut (unfound_of_cut _)
  | short cut => exact absurd cut (unfound_of_cut _)
  | report fits report =>
    rw [first?_encode _ fits] at found
    cases found
    rw [Packet.CarriesOutput, report]
    decide
  | unknown fits unknown =>
    rw [first?_encode _ fits] at found
    cases found
    intro carries
    rw [Packet.CarriesOutput, UInt8.le_iff_toNat_le] at carries
    rw [UInt8.lt_iff_toNat_lt] at unknown
    simp only [UInt8.toNat_ofNat] at carries unknown
    omega

/-- No other packets at the front go further than those before an ending. -/
theorem Division.longest {octets left rest : List UInt8} {packets others : List Packet}
    {sourceEnding : Option PeerError} {ending : Option StreamError}
    (division : Division octets packets left) (ends : Ends left sourceEnding ending)
    (other : Division octets others rest) : others <+: packets := by
  rcases division with ⟨rfl, carried⟩
  rcases other with ⟨same, otherCarried⟩
  induction others generalizing packets with
  | nil => exact List.nil_prefix
  | cons first others inductionHypothesis =>
    rcases List.forall_mem_cons.mp otherCarried with ⟨⟨fits, carries⟩, othersCarried⟩
    have found : first? (encode packets ++ left) = some (first, encode others ++ rest) := by
      rw [same, encode, List.flatMap_cons, List.append_assoc]
      exact first?_encode first fits _
    cases packets with
    | nil => exact absurd carries (ends.no_output found)
    | cons packet packets =>
      rcases List.forall_mem_cons.mp carried with ⟨⟨packetFits, _⟩, packetsCarried⟩
      rw [encode, List.flatMap_cons, List.append_assoc, first?_encode packet packetFits] at found
      simp only [Option.some.injEq, Prod.mk.injEq] at found
      rcases found with ⟨rfl, behind⟩
      have front := inductionHypothesis packetsCarried behind othersCarried
      exact List.cons_prefix_cons.mpr ⟨rfl, front⟩

end Wire
end Log
end ContainerFleet
