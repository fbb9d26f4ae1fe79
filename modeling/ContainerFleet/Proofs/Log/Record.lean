import ContainerFleet.Log.Entry
import ContainerFleet.Proofs.Json.Record
import ContainerFleet.Proofs.Text.Utf8
import ContainerFleet.Proofs.Timestamp.Interchange

/-!
# Entries that are sent

An entry is sent as one record on a line of its own.  The record has no line feed but
the last, whatever the message holds, and it is read back as the members that were
written.  So the records of any entries, one behind another, are told apart by their line
feeds, and each gives its entry again.
-/

namespace ContainerFleet
namespace Log

/-- The level of a name. -/
def Level.ofName? (name : String) : Option Level :=
  (Level.unknown :: Level.bySeverity).find? (·.name = name)

theorem Level.ofName?_name (level : Level) : ofName? level.name = some level := by
  cases level <;> decide

/-- The output of a name. -/
def Output.ofName? (name : String) : Option Output :=
  [Output.stdout, Output.stderr].find? (·.name = name)

theorem Output.ofName?_name (output : Output) : ofName? output.name = some output := by
  cases output <;> decide

namespace Entry

/-! ## Reading records -/

/-- The moment that a member says: none where it is null. -/
def moment? : Json → Option (Option Instant)
  | .null => some none
  | .text written =>
    match Timestamp.ofCandidate written.toList with
    | .ok (some instant) => some (some instant)
    | _ => none
  | _ => none

/-- The entry of a record. -/
def ofDocument? : Json → Option Entry
  | .object [("timestamp", moment), ("level", .text level), ("message", .text message),
      ("stream", .text output), ("raw", .text raw)] => do
    return ⟨← moment? moment, ← Level.ofName? level, message, ← Output.ofName? output, raw⟩
  | _ => none

/-- The entry of a line that was sent, read with so many levels. -/
def ofOctets? (levels : Nat) (octets : List UInt8) : Option Entry :=
  match Json.read (Utf8.decodeText octets) levels with
  | .ok document => ofDocument? document
  | .error _ => none

variable (entry : Entry)

/-- The document that an entry is sent as. -/
def document : Json :=
  .object (entry.members.map fun member => (member.1, Json.ofOption .text member.2))

theorem ofDocument?_document : ofDocument? entry.document = some entry := by
  rcases entry with ⟨timestamp, level, message, output, raw⟩
  have moment : moment? (Json.ofOption .text (timestamp.map fun instant => instant.isoText "Z")) =
      some timestamp := by
    cases timestamp with
    | none => rfl
    | some instant =>
      rw [Option.map_some, Json.ofOption, moment?, instant.ofCandidate_isoText]
  have reading : ofDocument? (document ⟨timestamp, level, message, output, raw⟩) =
      (moment? (Json.ofOption .text (timestamp.map fun instant => instant.isoText "Z"))).bind
        fun timestamp => (Level.ofName? level.name).bind fun level =>
          (Output.ofName? output.name).bind fun output =>
            some ⟨timestamp, level, message, output, raw⟩ := rfl
  rw [reading, moment, Level.ofName?_name, Output.ofName?_name]
  rfl

/-! ## Lines -/

/-- The octets of a record without the line feed. -/
def line : List UInt8 :=
  Utf8.encodeText (String.ofList (Json.record entry.members))

theorem octets_eq : entry.octets = entry.line ++ [0x0A] := by
  rw [octets, line, jsonLine, Utf8.encodeText_eq, Utf8.encodeText_eq, String.toList_ofList,
    String.toList_ofList, List.flatMap_append]
  rfl

theorem noFeed_line : 0x0A ∉ entry.line := by
  rw [line, Utf8.lineFeed_mem_encodeText, String.toList_ofList]
  exact Json.noFeed_record entry.members

theorem distinct_members : (entry.members.map Prod.fst).Nodup := by
  change ["timestamp", "level", "message", "stream", "raw"].Nodup
  decide

theorem read_octets (levels : Nat) :
    Json.read (Utf8.decodeText entry.octets) (levels + 1) = .ok entry.document := by
  rw [octets, Utf8.decodeText_encodeText, jsonLine]
  exact Json.read_record levels entry.distinct_members rfl

theorem read_line (levels : Nat) :
    Json.read (Utf8.decodeText entry.line) (levels + 1) = .ok entry.document := by
  have whole : Json.record entry.members = Json.record entry.members ++ [] :=
    (List.append_nil _).symm
  rw [line, Utf8.decodeText_encodeText, whole]
  exact Json.read_record levels entry.distinct_members rfl

theorem ofOctets?_line (levels : Nat) : ofOctets? (levels + 1) entry.line = some entry := by
  rw [ofOctets?, read_line]
  exact ofDocument?_document entry

/-- The records of some entries are split by their line feeds. -/
theorem splitOn_octets (entries : List Entry) :
    (entries.flatMap octets).splitOn 0x0A = entries.map line ++ [[]] := by
  induction entries with
  | nil => rfl
  | cons entry entries inductionHypothesis =>
    rw [List.flatMap_cons, octets_eq, List.append_assoc, List.singleton_append,
      List.splitOn_append_cons_self_of_not_mem entry.noFeed_line, inductionHypothesis,
      List.map_cons, List.cons_append]

/-- What is sent of an entry is one line, which is read as exactly the members of the
entry, its moment with the letter of universal time behind it.  The lines of any entries
give the entries again.  Any reader that allows a level at all will do. -/
theorem octets_lossless (levels : Nat) :
    (∀ entry : Entry,
      (∃ front, entry.octets = front ++ [0x0A] ∧ 0x0A ∉ front) ∧
      ∃ moment, Json.read (Utf8.decodeText entry.octets) (levels + 1) =
          .ok (.object [("timestamp", moment), ("level", .text entry.level.name),
            ("message", .text entry.message), ("stream", .text entry.output.name),
            ("raw", .text entry.raw)]) ∧
        (moment = .null ↔ entry.timestamp = none) ∧
        ∀ instant, entry.timestamp = some instant →
          ∃ front, moment = .text (String.ofList (front ++ ['Z'])) ∧
            Timestamp.ofCandidate (front ++ ['Z']) = .ok (some instant)) ∧
    ∀ entries : List Entry, ∃ lines,
      (entries.flatMap octets).splitOn 0x0A = lines ++ [[]] ∧
        lines.map (ofOctets? (levels + 1)) = entries.map some := by
  refine ⟨fun entry => ⟨⟨entry.line, entry.octets_eq, entry.noFeed_line⟩, ?_⟩, fun entries => ?_⟩
  · refine ⟨_, entry.read_octets levels, ?_, ?_⟩
    · cases entry.timestamp with
      | none => exact iff_of_true rfl rfl
      | some instant => exact iff_of_false (fun wrong => nomatch wrong) (fun wrong => nomatch wrong)
    · intro instant known
      rcases instant.isoText_ends with ⟨front, shape⟩
      refine ⟨front, ?_, ?_⟩
      · rw [known, Option.map_some, Json.ofOption, ← shape, String.ofList_toList]
      · rw [← shape]
        exact instant.ofCandidate_isoText
  · refine ⟨_, splitOn_octets entries, ?_⟩
    rw [List.map_map]
    exact List.map_congr_left fun entry _ => entry.ofOctets?_line levels

end Entry
end Log
end ContainerFleet
