import ContainerFleet.Proofs.Log.Source
import ContainerFleet.Proofs.Log.Wire
import Mathlib

/-!
# Frames do not depend on the reads

What is read from a source is told by its octets and the way they end.  The
reader asks for a header and then for a payload; since a source delivers fronts
of its octets, this cuts off the same packet that `Wire.first?` finds, and the
frames are those of the one division of the octets.
-/

namespace ContainerFleet
namespace Log
namespace Frame

/-- What comes after a header that was read in full: the payload, and then the
number of the packet. -/
def afterHeader (header : List UInt8) (source : ByteSource) :
    Except StreamError (Option (Frame × ByteSource)) :=
  match source.readExact (bigEndian (header.drop 4)) with
  | .error error => .error (.peer error)
  | .ok (payload, rest) =>
    if payload.length < bigEndian (header.drop 4) then
      .error (.framing (.shortPayload payload.length (bigEndian (header.drop 4))))
    else
      match ofParts (bigEndian (header.take 1)) payload with
      | .error error => .error (.framing error)
      | .ok frame => .ok (some (frame, rest))

theorem next_eq (source : ByteSource) :
    next source =
      match source.readExact headerSize with
      | .error error => .error (.peer error)
      | .ok (header, rest) =>
        if header.isEmpty then .ok none
        else if header.length < headerSize then
          .error (.framing (.shortHeader header.length))
        else afterHeader header rest := by
  unfold next readOctets afterHeader
  cases source.readExact headerSize with
  | error error => rfl
  | ok read =>
    rcases read with ⟨header, rest⟩
    simp only [Except.mapError, bind, Except.bind, pure, Except.pure, throw, throwThe,
      MonadExceptOf.throw]
    split
    · rfl
    · split
      · rfl
      · cases rest.readExact (bigEndian (header.drop 4)) with
        | error error => rfl
        | ok read =>
          dsimp only
          split
          · rfl
          · cases ofParts (bigEndian (header.take 1)) read.1 <;> rfl

/-- The next frame of a source is told by the packet at the front of its
octets. -/
theorem next_of_first? (source : ByteSource) {packet : Wire.Packet} {octets : List UInt8}
    (found : Wire.first? source.octets = some (packet, octets)) :
    ∃ rest : ByteSource, rest.octets = octets ∧ rest.ending = source.ending ∧
      next source =
        match packet.frame with
        | .error error => .error (.framing error)
        | .ok frame => .ok (some (frame, rest)) := by
  rcases Wire.eq_encode_of_first? found with ⟨fits, split⟩
  rw [Wire.Packet.encode, List.append_assoc] at split
  have enough : headerSize ≤ source.octets.length := by
    rw [split, List.length_append, packet.length_header]
    exact Nat.le_add_right _ _
  rcases source.readExact_of_le enough with ⟨middle, header_read, header_behind⟩
  have middle_octets : middle.octets = packet.payload ++ octets := by
    rw [header_behind.octets, split, ← packet.length_header, List.drop_left]
  have payload_there : packet.payload.length ≤ middle.octets.length := by
    rw [middle_octets, List.length_append]
    exact Nat.le_add_right _ _
  rcases middle.readExact_of_le payload_there with ⟨rest, payload_read, payload_behind⟩
  rw [split, ← packet.length_header, List.take_left] at header_read
  rw [middle_octets, List.take_left] at payload_read
  have size : bigEndian (packet.header.drop 4) = packet.payload.length :=
    Wire.bigEndian_fourOctets fits
  have number : bigEndian (packet.header.take 1) = packet.number.toNat := by
    simp [bigEndian, Wire.Packet.header]
  refine ⟨rest, ?_, payload_behind.ending.trans header_behind.ending, ?_⟩
  · rw [payload_behind.octets, middle_octets, List.drop_left]
  · rw [next_eq, ← packet.length_header, header_read]
    simp only [afterHeader, size, number, payload_read, Nat.lt_irrefl, if_false]
    rfl

/-- Where no complete packet stands at the front, the stream has ended there. -/
theorem next_of_unfound (source : ByteSource) (unfound : Wire.first? source.octets = none) :
    next source =
      match Wire.endingOf source.octets source.ending with
      | none => .ok none
      | some error => .error error := by
  rw [next_eq]
  rcases Wire.short_or_header source.octets with few | ⟨number, filler₁, filler₂, filler₃, s₁, s₂,
    s₃, s₄, behind, split⟩
  · cases ending : source.ending with
    | some error => rw [source.readExact_of_failing few ending]; rfl
    | none =>
      rcases source.readExact_of_clean few ending with ⟨rest, read⟩
      rw [read]
      by_cases empty : source.octets = []
      · rw [empty]
        rfl
      · have present : source.octets.isEmpty = false := by
          rw [List.isEmpty_eq_false_iff]
          exact empty
        simp only [present, Bool.false_eq_true, if_false, if_pos few, Wire.endingOf,
          (Wire.first?_of_length_lt few).2 empty, Option.map_some]
  · have enough : headerSize ≤ source.octets.length := by
      rw [split]
      exact Nat.le_add_left _ _
    rcases source.readExact_of_le enough with ⟨middle, header_read, header_behind⟩
    have header : source.octets.take headerSize =
        [number, filler₁, filler₂, filler₃, s₁, s₂, s₃, s₄] := by
      rw [split]
      rfl
    have middle_octets : middle.octets = behind := by
      rw [header_behind.octets, split]
      rfl
    have short : middle.octets.length < bigEndian [s₁, s₂, s₃, s₄] := by
      rw [split] at unfound
      simp only [Wire.first?] at unfound
      split at unfound
      · rw [middle_octets]
        assumption
      · cases unfound
    rw [header_read, header]
    cases ending : source.ending with
    | some error =>
      have payload_read := middle.readExact_of_failing short (header_behind.ending.trans ending)
      simp [afterHeader, payload_read, Wire.endingOf, headerSize]
    | none =>
      rcases middle.readExact_of_clean short (header_behind.ending.trans ending) with
        ⟨rest, payload_read⟩
      have missing : Wire.shortfall source.octets =
          some (.shortPayload middle.octets.length (bigEndian [s₁, s₂, s₃, s₄])) := by
        rw [split, middle_octets]
        rfl
      simp [afterHeader, payload_read, Wire.endingOf, headerSize, missing, short]

theorem readFrom_eq (fuel : Nat) (read : List Frame) (source : ByteSource)
    (fueled : source.octets.length < fuel) :
    readFrom fuel read source =
      (read.reverse ++ (Wire.readAll source.octets source.ending).1,
        (Wire.readAll source.octets source.ending).2) := by
  induction fuel generalizing read source with
  | zero => exact absurd fueled (Nat.not_lt_zero _)
  | succ fuel inductionHypothesis =>
    rw [readFrom]
    cases found : Wire.first? source.octets with
    | none =>
      rw [next_of_unfound source found, Wire.readAll_of_unfound source.ending found]
      cases Wire.endingOf source.octets source.ending <;> simp
    | some front =>
      rcases front with ⟨packet, octets⟩
      rcases next_of_first? source found with ⟨rest, rest_octets, rest_ending, next_read⟩
      rw [next_read, Wire.readAll_of_first? source.ending found]
      cases packet.frame with
      | error error => simp
      | ok frame =>
        have shorter := Wire.length_of_first? found
        have later := inductionHypothesis (frame :: read) rest (by rw [rest_octets]; omega)
        rw [rest_octets, rest_ending] at later
        simp only [later, List.reverse_cons, List.append_assoc, List.singleton_append]

/-- What is read from a source follows from its octets and their ending. -/
theorem readAll_eq (source : ByteSource) :
    readAll source = Wire.readAll source.octets source.ending := by
  rw [readAll, readFrom_eq _ [] source (Nat.lt_succ_self _)]
  rfl

/-- What is read from a source, whatever its reads deliver: the frames of the
longest run of complete packets that carry output, and then one ending.  It is
a clean one just where nothing is left and the source ended cleanly.  Packets
that were written one after another are all read again. -/
theorem readAll_longest_run (source : ByteSource) :
    ∃ packets left ending,
      Wire.Division source.octets packets left ∧
      (∀ others rest, Wire.Division source.octets others rest → others <+: packets) ∧
      Wire.Ends left source.ending ending ∧
      (∀ other, Wire.Ends left source.ending other → other = ending) ∧
      (ending = none ↔ left = [] ∧ source.ending = none) ∧
      readAll source = (packets.map Wire.Packet.shown, ending) ∧
      ∀ sent : List Wire.Packet, (∀ packet ∈ sent, packet.Fits ∧ packet.CarriesOutput) →
        source.octets = Wire.encode sent → source.ending = none →
        readAll source = (sent.map Wire.Packet.shown, none) := by
  rcases Wire.exists_division source.octets source.ending with
    ⟨packets, left, ending, division, ends⟩
  have read := Wire.readAll_of_division division ends
  rw [← readAll_eq] at read
  have unique : ∀ other, Wire.Ends left source.ending other → other = ending := by
    intro other otherEnds
    have also := Wire.readAll_of_division division otherEnds
    rw [← readAll_eq, read] at also
    exact (congrArg Prod.snd also).symm
  refine ⟨packets, left, ending, division, fun _ _ other => division.longest ends other, ends,
    unique, ⟨?_, ?_⟩, read, ?_⟩
  · rintro rfl
    generalize source.ending = sourceEnding at ends
    cases ends
    exact ⟨rfl, rfl⟩
  · rintro ⟨rfl, clean⟩
    exact (unique none (clean ▸ .clean)).symm
  · intro sent carried written clean
    have whole : Wire.Division source.octets sent [] := ⟨by rw [written, List.append_nil], carried⟩
    rw [readAll_eq]
    exact Wire.readAll_of_division whole (clean ▸ .clean)

/-- An echo of input and a line of errors, read one octet at a time. -/
theorem readAll_two_packets :
    let sent : List Wire.Packet := [⟨0, (0, 0, 0), [0x61, 0x0A]⟩, ⟨2, (7, 7, 7), []⟩]
    (∀ packet ∈ sent, packet.Fits ∧ packet.CarriesOutput) ∧
      readAll (.chunked (Wire.encode sent) none 1) =
        ([⟨.stdout, [0x61, 0x0A]⟩, ⟨.stderr, []⟩], none) := by
  intro sent
  rcases readAll_longest_run (.chunked (Wire.encode sent) none 1) with
    ⟨_, _, _, _, _, _, _, _, _, again⟩
  have carried : ∀ packet ∈ sent, packet.Fits ∧ packet.CarriesOutput := by decide
  exact ⟨carried, again sent carried rfl rfl⟩

end Frame
end Log
end ContainerFleet
