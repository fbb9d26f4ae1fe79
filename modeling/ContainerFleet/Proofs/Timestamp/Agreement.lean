import ContainerFleet.Proofs.Timestamp.Heeded

/-!
# The front and the search agree

A line whose ISO-like front is a timestamp gives the same moment if only its beginnings are
searched, as far as the search reaches over the front.  A beginning that ends within the
front has no zone, or the whole of the captured one, and so does not leave the calendar.
One that goes on behind the front says what the front says, whatever stands there: digits
and zones are captured as far as they go, blanks and brackets come off again, and only a
line feed may be left.
-/

namespace ContainerFleet
namespace Timestamp

namespace Capture

variable {capture : Capture}

/-- What is cut before the zone and yet contains the front leaves nothing of it out. -/
theorem shortened_of_whole {digits ending more : List Char} (proper : capture.Proper)
    (shorter : digits <+: capture.fraction) (ended : Layout.atEnd ending = true)
    (same : capture.text ++ more = (capture.shortened digits).text ++ ending) :
    capture.shortened digits = capture := by
  rw [text, shortened_text] at same
  simp only [List.append_assoc] at same
  have behind := List.append_cancel_left same
  obtain ⟨later, feed⟩ : ∃ later, ending ++ later = ['\n'] := by
    rcases Layout.atEnd_iff.mp ended with rfl | rfl
    · exact ⟨['\n'], rfl⟩
    · exact ⟨[], rfl⟩
  have extended : (capture.shortened digits).fractionText ++ '\n' :: [] =
      capture.fractionText ++ (capture.zone.write ++ (more ++ later)) := by
    rw [← feed, ← List.append_assoc, ← behind]
    simp only [List.append_assoc]
  rcases whole_of_feed proper shorter extended with ⟨rfl, left⟩
  have absent : capture.zone = .absent := by
    by_contra zoned
    rcases ZoneText.exists_head zoned (more ++ later) with ⟨char, tail, head, isHead⟩
    rw [left] at head
    cases head
    rcases isHead with wrong | wrong | wrong <;> cases wrong
  rw [shortened, ← absent]

/-- A beginning of a line with a front says a universal time or all that is captured, and
the latter where it contains the front. -/
theorem fields_of_spelled {opening rest beginning : List Char} {fields : Fields}
    (proper : capture.Proper) (complete : capture.Complete rest)
    (opens : ∀ char ∈ opening, isBracket char = true)
    (within : beginning <+: opening ++ (capture.text ++ rest))
    (spelled : spelled? beginning = some fields) :
    (fields.zone = .universal ∨ fields = capture.fields) ∧
      (opening ++ capture.text <+: beginning → fields = capture.fields) := by
  have starts : StartsSolid capture.text := (startsSolid_localText proper).append _
  rcases split_of_spelled opens (starts.append rest) within spelled with
    ⟨body, rfl, inLine, shorter⟩
  rcases spelled?_eq_some_iff.mp spelled with ⟨-, form, reads⟩
  rcases cases_of_reads proper complete (shorter.trans inLine) reads with
    ⟨digits, ending, isPart, ended, bare, rfl⟩ | ⟨-, -, known⟩
  · refine ⟨.inl rfl, ?_⟩
    rintro ⟨more, contains⟩
    rw [← contains, undecorated_of_solid opens starts (endsSolid_text proper)] at bare
    rw [shortened_of_whole proper isPart ended bare]
  · exact ⟨.inr known, fun _ => known⟩

/-- A front that spells anything spells what is captured. -/
theorem spelled?_text_cases {rest : List Char} (proper : capture.Proper)
    (complete : capture.Complete rest) :
    spelled? capture.text = none ∨ spelled? capture.text = some capture.fields := by
  cases spelled : spelled? capture.text with
  | none => exact .inl rfl
  | some fields =>
    have contained : capture.text <+: [] ++ (capture.text ++ rest) := List.prefix_append _ _
    have same := (fields_of_spelled proper complete (List.forall_mem_nil _) contained spelled).2
    rw [same List.prefix_rfl]
    exact .inr rfl

/-- Brackets in front of a captured text change nothing. -/
theorem spelled?_opening {opening : List Char} (proper : capture.Proper)
    (opens : ∀ char ∈ opening, isBracket char = true) :
    spelled? (opening ++ capture.text) = spelled? capture.text := by
  have starts : StartsSolid capture.text := (startsSolid_localText proper).append _
  rw [spelled?, spelled?, undecorated_opening opens starts (endsSolid_text proper),
    undecorated_eq_self starts (endsSolid_text proper)]

/-- The search finds the moment of a front that is a timestamp, where it comes to its end. -/
theorem exists_longestPrefix_of_front {line opening rest : List Char} {instant : Instant}
    (proper : capture.Proper) (complete : capture.Complete rest)
    (opens : ∀ char ∈ opening, isBracket char = true)
    (shape : line = opening ++ capture.text ++ rest)
    (reached : (opening ++ capture.text).length ≤ searchLength)
    (denoted : ofCandidate capture.text = .ok (some instant)) :
    ∃ message, longestPrefix line = .ok (some (instant, message)) := by
  have front : spelled? capture.text = some capture.fields := by
    rcases spelled?_text_cases proper complete with unspelled | front
    · rw [ofCandidate_of_unspelled unspelled] at denoted
      cases denoted
    · exact front
  have moment : capture.fields.instant = .ok (some instant) :=
    (ofCandidate_of_spelled front).symm.trans denoted
  obtain ⟨first, counted⟩ : ∃ first, (opening ++ capture.text).length = first + 1 := by
    rcases startsSolid_localText proper with ⟨_, _, text, -⟩
    rw [Capture.text, text, List.length_append]
    exact ⟨_, rfl⟩
  have cut : line.take (first + 1) = opening ++ capture.text := by
    rw [shape, ← counted, List.take_left]
  have below : first < min line.length searchLength := by
    rw [shape, List.length_append]
    omega
  have spelled : spelled? (line.take (first + 1)) = some capture.fields := by
    rw [cut, spelled?_opening proper opens, front]
  have beginning (index : Nat) : line.take (index + 1) <+: opening ++ (capture.text ++ rest) := by
    rw [← List.append_assoc, ← shape]
    exact List.take_prefix _ _
  have inside : ∀ index < min line.length searchLength, ¬ Overshoots (line.take (index + 1)) := by
    rintro index - ⟨fields, spelled, overshoots⟩
    rcases (fields_of_spelled proper complete opens (beginning index) spelled).1 with
      universal | rfl
    · exact Fields.not_overshoots_of_universal (exist_of_spelled? spelled) universal overshoots
    · exact not_overshoots_of_denoted denoted ⟨_, front, overshoots⟩
  have agree : ∀ index, first ≤ index → index < min line.length searchLength → ∀ fields,
      spelled? (line.take (index + 1)) = some fields → fields.instant = .ok (some instant) := by
    intro index longer _ fields spelled
    have contains : opening ++ capture.text <+: line.take (index + 1) := by
      rw [← cut]
      exact List.take_prefix_take_left (Nat.succ_le_succ longer)
    rw [(fields_of_spelled proper complete opens (beginning index) spelled).2 contains]
    exact moment
  rcases exists_longestPrefix_from below (Option.isSome_iff_exists.mpr ⟨_, spelled⟩) inside
    agree with ⟨_, -, -, -, longest⟩
  exact ⟨_, longest⟩

end Capture

/-- Where the front of a line is a timestamp and ends among the characters that are searched,
its moment is extracted, and the search does not fail and finds the same moment. -/
theorem front_agrees_with_search {line front rest : List Char} {instant : Instant}
    (found : isoFront? (Text.trim line) = some (front, rest))
    (denoted : ofCandidate front = .ok (some instant))
    (within : (Text.trim line).length ≤ rest.length + searchLength) :
    extract line = .ok (some instant, remainder rest) ∧
      ∃ message, longestPrefix (Text.trim line) = .ok (some (instant, message)) := by
  rcases isoFront?_eq_some_iff.mp found with ⟨capture, after, proper, complete, inner, rfl, rfl⟩
  rcases dropOne_split openBrackets.contains (Text.trim line) with ⟨opening, shape, -, isOpen⟩
  rcases dropOne_split closeBrackets.contains after with ⟨closing, behind, -, -⟩
  rw [inner] at shape
  refine ⟨?_, ?_⟩
  · rw [extract_of_trimmed (Capture.trim_ne_nil proper shape), found]
    dsimp only
    rw [denoted]
  · rw [← List.append_assoc] at shape
    have opens : ∀ char ∈ opening, isBracket char = true := fun char member => by
      rw [isBracket, isOpen char member]
      rfl
    have reached : (opening ++ capture.text).length ≤ searchLength := by
      have lengths := congrArg List.length behind
      rw [List.length_append] at lengths
      rw [shape, List.length_append] at within
      omega
    exact Capture.exists_longestPrefix_of_front proper complete opens shape reached denoted

/-- A line in which a line feed and a bracket follow the zone. -/
def feedEntry : List Char := "[2024-01-15T10:30:00.25+0200\n]> ready".toList

/-- The search goes on to the bracket, where only a line feed is left behind the zone. -/
theorem search_feedEntry :
    ∃ instant : Instant, extract feedEntry = .ok (some instant, "ready".toList) ∧
      ∃ message, longestPrefix (Text.trim feedEntry) = .ok (some (instant, message)) := by
  have found : isoFront? (Text.trim feedEntry) =
      some ("2024-01-15T10:30:00.25+0200".toList, "\n]> ready".toList) := by
    decide +kernel
  have denoted : ofCandidate "2024-01-15T10:30:00.25+0200".toList =
      .ok (some ⟨738899 * dayMicros + 30600250000, by decide⟩) := by
    decide +kernel
  exact ⟨_, front_agrees_with_search found denoted (by decide)⟩

end Timestamp
end ContainerFleet
