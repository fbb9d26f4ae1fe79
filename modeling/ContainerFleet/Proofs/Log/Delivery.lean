import ContainerFleet.Proofs.Log.Demux
import ContainerFleet.Proofs.Log.Frames
import Mathlib

/-!
# Entries of a source

What is delivered of a source follows from its complete packets and the way
their stream ends.
-/

namespace ContainerFleet
namespace Log
namespace Demux

open LineBuffer

theorem filterMap_reading (octets : List UInt8) (output : Output) :
    ((ended octets ++ [waiting octets]).map (output, ·)).filterMap reading? =
      (texts octets).map (Entry.ofLine · output) := by
  rw [List.filterMap_map, texts_eq, List.map_filterMap]
  rfl

/-- What is read of the lines of one output is what is read of its octets. -/
theorem Reads.of_output {frames : List Frame} {entries : List Entry}
    (reads : Reads (lines frames) entries) (output : Output) :
    (texts (octetsOf frames output)).map (Entry.ofLine · output) =
      (entries.filter (·.output = output)).map Except.ok := by
  have own := reads.filter output
  rw [Reads, lines_filter, filterMap_reading] at own
  exact own

/-- A line of the frames that cannot be read is a line of its output. -/
theorem mem_texts_of_reading {frames : List Frame} {line : Output × List UInt8}
    {error : RangeError} (member : line ∈ lines frames)
    (refused : reading? line = some (.error error)) :
    ∃ text ∈ texts (octetsOf frames line.1), Entry.ofLine text line.1 = .error error := by
  rcases Option.map_eq_some_iff.mp refused with ⟨text, inside, read⟩
  have own : line ∈ (lines frames).filter (·.1 = line.1) :=
    List.mem_filter.mpr ⟨member, decide_eq_true rfl⟩
  rw [lines_filter] at own
  rcases List.mem_map.mp own with ⟨octets, there, same⟩
  have found : line.2 = octets := (congrArg Prod.snd same).symm
  refine ⟨text, ?_, read⟩
  rw [texts_eq, List.mem_filterMap]
  exact ⟨octets, there, found ▸ inside⟩

theorem run_eq {source : ByteSource} {packets : List Wire.Packet} {left : List UInt8}
    {ending : Option StreamError} (division : Wire.Division source.octets packets left)
    (ends : Wire.Ends left source.ending ending) :
    run source = ofFrames (packets.map Wire.Packet.shown) ending := by
  rw [run, Frame.readAll_eq, Wire.readAll_of_division division ends]

/-- Where every line can be read, all of them are, and the stream ends as it does. -/
theorem reads_of_readable {source : ByteSource} {packets : List Wire.Packet}
    {left : List UInt8} {ending : Option StreamError}
    (division : Wire.Division source.octets packets left)
    (ends : Wire.Ends left source.ending ending)
    (readable : ∀ output, Readable (octetsOf (packets.map Wire.Packet.shown) output) output) :
    Reads (lines (packets.map Wire.Packet.shown)) (run source).entries ∧
      (run source).failure = ending.map Failure.ofStream := by
  rw [run_eq division ends]
  rcases ofFrames_reads (packets.map Wire.Packet.shown) ending with
    reads | ⟨⟨line, member, refused⟩, _⟩
  · exact reads
  · rcases mem_texts_of_reading member refused with ⟨text, inside, unread⟩
    rcases readable line.1 text inside with ⟨entry, read⟩
    rw [unread] at read
    cases read

/-- Where every line can be read, nothing is lost, delivered twice or mixed up:
the entries of each output are those of the lines of its octets, so that they
do not depend on the frames, on their order or on the other output; the entries of
both come in the order in which their lines end, and all of them before the
stream fails. -/
theorem run_of_readable {source : ByteSource} {packets : List Wire.Packet} {left : List UInt8}
    {ending : Option StreamError} (division : Wire.Division source.octets packets left)
    (ends : Wire.Ends left source.ending ending)
    (readable : ∀ output, Readable (octetsOf (packets.map Wire.Packet.shown) output) output) :
    let frames := packets.map Wire.Packet.shown
    (run source).failure = ending.map Failure.ofStream ∧
    (∀ output, ((run source).entries.filter (·.output = output)).map Except.ok =
      (texts (octetsOf frames output)).map (Entry.ofLine · output)) ∧
    (run source).entries.map Except.ok = (lines frames).filterMap reading? ∧
    ∀ (other : ByteSource) (others : List Wire.Packet) (rest : List UInt8)
      (otherEnding : Option StreamError), Wire.Division other.octets others rest →
      Wire.Ends rest other.ending otherEnding →
      (∀ output, Readable (octetsOf (others.map Wire.Packet.shown) output) output) →
      ∀ output, octetsOf (others.map Wire.Packet.shown) output = octetsOf frames output →
        (run other).entries.filter (·.output = output) =
          (run source).entries.filter (·.output = output) := by
  intro frames
  rcases reads_of_readable division ends readable with ⟨reads, failure⟩
  refine ⟨failure, fun output => (reads.of_output output).symm, reads.symm, ?_⟩
  intro other others rest otherEnding otherDivision otherEnds otherReadable output same
  rcases reads_of_readable otherDivision otherEnds otherReadable with ⟨otherReads, -⟩
  have entries := otherReads.of_output output
  rw [same, reads.of_output output] at entries
  exact (List.map_inj_right fun _ _ => Except.ok.inj).mp entries.symm

/-- A line of output in two pieces, with a line of errors between them and what
is left of another behind them, on a stream that is cut in a header. -/
theorem run_two_pieces :
    let sent : List Wire.Packet :=
      [⟨1, (0, 0, 0), [0x68]⟩, ⟨2, (0, 0, 0), [0x78, 0x0A]⟩, ⟨1, (0, 0, 0), [0x69, 0x0D, 0x0A]⟩,
        ⟨2, (0, 0, 0), [0x7A]⟩]
    let source : ByteSource := .chunked (Wire.encode sent ++ [1]) none 3
    (Wire.Division source.octets sent [1] ∧
      Wire.Ends [1] source.ending (some (.framing (.shortHeader 1))) ∧
      ∀ output, Readable (octetsOf (sent.map Wire.Packet.shown) output) output) ∧
    (run source).failure = some (.framing (.shortHeader 1)) ∧
    (run source).entries.map Except.ok =
      [Entry.ofLine "x" .stderr, Entry.ofLine "hi" .stdout, Entry.ofLine "z" .stderr] := by
  intro sent source
  have division : Wire.Division source.octets sent [1] := ⟨rfl, by decide⟩
  have ends : Wire.Ends [1] source.ending (some (.framing (.shortHeader 1))) :=
    .short (.header (List.cons_ne_nil _ _) (by decide))
  have onStdout : texts (octetsOf (sent.map Wire.Packet.shown) .stdout) = ["hi"] := by
    decide +kernel
  have onStderr : texts (octetsOf (sent.map Wire.Packet.shown) .stderr) = ["x", "z"] := by
    decide +kernel
  have readable : ∀ output, Readable (octetsOf (sent.map Wire.Packet.shown) output) output := by
    rintro (_ | _) text member
    · rw [onStdout, List.mem_singleton] at member
      subst member
      exact ⟨⟨none, .unknown, "hi", .stdout, "hi"⟩, by cbv⟩
    · rw [onStderr, List.mem_cons, List.mem_singleton] at member
      rcases member with rfl | rfl
      · exact ⟨⟨none, .unknown, "x", .stderr, "x"⟩, by cbv⟩
      · exact ⟨⟨none, .unknown, "z", .stderr, "z"⟩, by cbv⟩
  rcases run_of_readable division ends readable with ⟨failure, _, entries, _⟩
  have read : (lines (sent.map Wire.Packet.shown)).map (fun line => (line.1, text? line.2)) =
      [(.stderr, some "x"), (.stdout, some "hi"), (.stdout, none), (.stderr, some "z")] := by
    decide +kernel
  have reading : reading? = (fun line => line.2.map (Entry.ofLine · line.1)) ∘
      fun line : Output × List UInt8 => (line.1, text? line.2) := rfl
  refine ⟨⟨division, ends, readable⟩, failure, entries.trans ?_⟩
  rw [reading, ← List.filterMap_map, read]
  rfl

/-! ## Lines that cannot be read -/

/-- Some line of the frames leaves the calendar. -/
def SomeLeaves (frames : List Frame) : Prop :=
  ∃ output, ∃ text ∈ texts (octetsOf frames output), Timestamp.LeavesCalendar text.toList

/-- Only a moment outside the calendar keeps a line from being read, and only
such a line gives a delivery an ending that is not the one of its stream.
Without one there is an entry for every line. -/
theorem fails_only_outside_calendar (line : String) (output : Output) {source : ByteSource}
    {packets : List Wire.Packet} {left : List UInt8} {ending : Option StreamError}
    (division : Wire.Division source.octets packets left)
    (ends : Wire.Ends left source.ending ending) :
    ((Timestamp.LeavesCalendar line.toList → Entry.ofLine line output = .error .date) ∧
      (¬ Timestamp.LeavesCalendar line.toList → ∃ entry, Entry.ofLine line output = .ok entry ∧
        entry.raw = line ∧ entry.output = output)) ∧
    (SomeLeaves (packets.map Wire.Packet.shown) → (run source).failure = some (.range .date)) ∧
    (¬ SomeLeaves (packets.map Wire.Packet.shown) →
      (run source).failure = ending.map Failure.ofStream ∧
      ∀ output, ((run source).entries.filter (·.output = output)).map Entry.raw =
        texts (octetsOf (packets.map Wire.Packet.shown) output)) := by
  refine ⟨?_, ?_, ?_⟩
  · rcases Entry.ofLine_cases line output with ⟨leaves, failed⟩ | ⟨stays, read⟩
    · exact ⟨fun _ => failed, fun stays => absurd leaves stays⟩
    · exact ⟨fun leaves => absurd leaves stays, fun _ => read⟩
  · rintro ⟨output, text, member, leaves⟩
    rw [run_eq division ends]
    rcases ofFrames_reads (packets.map Wire.Packet.shown) ending with ⟨reads, -⟩ | ⟨-, failed⟩
    · have read : Entry.ofLine text output ∈
          (texts (octetsOf (packets.map Wire.Packet.shown) output)).map (Entry.ofLine · output) :=
        List.mem_map_of_mem member
      rw [reads.of_output output] at read
      rcases List.mem_map.mp read with ⟨entry, -, found⟩
      rcases Entry.ofLine_cases text output with ⟨-, failed⟩ | ⟨stays, -⟩
      · rw [← found] at failed
        cases failed
      · exact absurd leaves stays
    · exact failed
  · intro none_leaves
    have readable : ∀ output,
        Readable (octetsOf (packets.map Wire.Packet.shown) output) output := by
      intro output text member
      rcases Entry.ofLine_cases text output with ⟨leaves, -⟩ | ⟨-, entry, read, -⟩
      · exact absurd ⟨output, text, member, leaves⟩ none_leaves
      · exact ⟨entry, read⟩
    rcases reads_of_readable division ends readable with ⟨reads, failure⟩
    exact ⟨failure, fun output => Entry.map_raw_of_read (reads.of_output output)⟩

/-- The first midnight of the calendar on a clock that is an hour ahead. -/
theorem fails_before_the_first_day :
    let line := "01/Jan/0001:00:00:00 +0100 hello"
    let sent : List Wire.Packet := [⟨1, (0, 0, 0), line.toUTF8.toList ++ [0x0A]⟩]
    let source : ByteSource := .chunked (Wire.encode sent) none 8
    (Wire.Division source.octets sent [] ∧ Wire.Ends [] source.ending none) ∧
      Timestamp.LeavesCalendar line.toList ∧ SomeLeaves (sent.map Wire.Packet.shown) ∧
      Entry.ofLine line .stdout = .error .date ∧
      (run source).failure = some (.range .date) := by
  intro line sent source
  have front : line.toList.take 26 ∈ Timestamp.candidates (Text.trim line.toList) := by
    decide +kernel
  have spells : Timestamp.spelled? (line.toList.take 26) =
      some ⟨⟨1, 1, 1⟩, 0, 0, 0, [], .shifted true 1 0⟩ := by
    decide +kernel
  have leaves : Timestamp.LeavesCalendar line.toList :=
    ⟨_, front, _, spells, by decide⟩
  have text : texts (octetsOf (sent.map Wire.Packet.shown) .stdout) = [line] := by
    decide +kernel
  have some_leaves : SomeLeaves (sent.map Wire.Packet.shown) :=
    ⟨.stdout, line, by rw [text]; exact List.mem_singleton_self line, leaves⟩
  have division : Wire.Division source.octets sent [] :=
    ⟨(List.append_nil _).symm, by decide +kernel⟩
  have ends : Wire.Ends [] source.ending none := .clean
  rcases fails_only_outside_calendar line .stdout division ends with ⟨of_line, of_leaving, -⟩
  exact ⟨⟨division, ends⟩, leaves, some_leaves, of_line.1 leaves, of_leaving some_leaves⟩

end Demux
end Log
end ContainerFleet
