import ContainerFleet.Proofs.Text.Padding
import ContainerFleet.Proofs.Timestamp.Heeded

/-!
# What is taken out of a line

A line from which a moment is extracted consists of a timestamp, of decoration around it
and of the message behind.  The timestamp neither begins nor ends with decoration, so that
blanks and brackets are all that is lost with it.  A line without a timestamp is the
message as a whole.
-/

namespace ContainerFleet
namespace Timestamp

open Digits

/-- There is nothing in the text but blanks and brackets. -/
def Decorative (chars : List Char) : Prop :=
  ∀ char ∈ chars, Text.isBlank char = true ∨ isBracket char = true

theorem Decorative.append {chars more : List Char} (first : Decorative chars)
    (second : Decorative more) : Decorative (chars ++ more) := fun char member =>
  (List.mem_append.mp member).elim (first char) (second char)

theorem decorative_nil : Decorative [] := fun _ wrong => nomatch wrong

/-! ## The bare timestamp of a candidate -/

/-- A candidate is its bare text with decoration around it. -/
theorem exists_undecorated (candidate : List Char) :
    ∃ before behind, candidate = before ++ undecorated candidate ++ behind ∧
      Decorative before ∧ Decorative behind := by
  rcases Text.padded_trim candidate with ⟨front, back, blankFront, blankBack, shape⟩
  have outer : Text.trim candidate = (Text.trim candidate).takeWhile isBracket ++
      undecorated candidate ++ ((Text.trim candidate).dropWhile isBracket).rtakeWhile isBracket := by
    rw [undecorated, Text.stripBoth_eq, List.append_assoc, List.rdropWhile_append_rtakeWhile,
      List.takeWhile_append_dropWhile]
  refine ⟨front ++ (Text.trim candidate).takeWhile isBracket,
    ((Text.trim candidate).dropWhile isBracket).rtakeWhile isBracket ++ back, ?_, ?_, ?_⟩
  · conv_lhs => rw [shape, outer]
    simp only [List.append_assoc]
  · exact Decorative.append (fun char member => .inl (blankFront char member))
      fun char member => .inr (List.mem_takeWhile_imp member)
  · exact Decorative.append (fun char member => .inr (List.mem_rtakeWhile_imp member))
      fun char member => .inl (blankBack char member)

/-- A text with a comma that is read as a timestamp has no decoration at its ends. -/
theorem solid_of_comma {form : Form} {fields : Fields} {bare : List Char} (comma : ',' ∈ bare)
    (reads : form.Reads fields (pointFraction bare)) : StartsSolid bare ∧ EndsSolid bare := by
  rcases reads with ⟨written, rest, spells, ended, pointed⟩
  rcases List.eq_append_cons_of_mem comma with ⟨front, tail, rfl, before⟩
  rw [pointFraction_append before, pointFraction_comma] at pointed
  have noComma : ',' ∉ written ++ rest := by
    have noneBehind : ',' ∉ rest := (Capture.noMark_of_zone .absent ended).2
    rw [List.mem_append, not_or]
    exact ⟨Form.noComma_of_spells spells, noneBehind⟩
  have digits : tail ≠ [] ∧ AllDigits tail := by
    by_contra other
    rw [← pointed, if_neg other] at noComma
    exact noComma (by simp)
  constructor
  · rcases Form.startsSolid_of_spells spells with ⟨first, more, rfl, solid⟩
    cases front with
    | nil => exact ⟨',', tail, rfl, by decide⟩
    | cons char front =>
      obtain rfl : char = first := (List.cons.inj pointed).1
      exact ⟨char, _, rfl, solid⟩
  · exact ((endsSolid_of_allDigits digits.1 digits.2).append [',']).append front

/-- What spells fields is a timestamp without decoration at its ends, with decoration
around it. -/
theorem exists_stamp_of_spelled {candidate : List Char} {fields : Fields}
    (spelled : spelled? candidate = some fields) :
    ∃ before stamp behind, candidate = before ++ stamp ++ behind ∧ Decorative before ∧
      Decorative behind ∧ StartsSolid stamp ∧ EndsSolid stamp ∧ spelled? stamp = some fields := by
  rcases spelled?_eq_some_iff.mp spelled with ⟨exist, form, reads⟩
  rcases exists_undecorated candidate with ⟨before, behind, shape, decorated, decoratedBehind⟩
  generalize undecorated candidate = bare at reads shape
  by_cases comma : ',' ∈ bare
  · rcases solid_of_comma comma reads with ⟨starts, ends⟩
    refine ⟨before, bare, behind, shape, decorated, decoratedBehind, starts, ends, ?_⟩
    rw [spelled?_eq_some_iff, undecorated_eq_self starts ends]
    exact ⟨exist, form, reads⟩
  · rw [pointFraction_of_noComma comma] at reads
    rcases reads with ⟨written, rest, spells, ended, rfl⟩
    have starts := Form.startsSolid_of_spells spells
    have ends := Form.endsSolid_of_spells spells
    have noComma := Form.noComma_of_spells spells
    -- Between the timestamp and the brackets behind it a line feed may stand.
    have blankRest : Decorative rest := by
      rcases Layout.atEnd_iff.mp ended with rfl | rfl
      · exact decorative_nil
      · intro char member
        rw [List.mem_singleton.mp member]
        exact .inl (by decide)
    refine ⟨before, written, rest ++ behind, ?_, decorated, blankRest.append decoratedBehind,
      starts, ends, ?_⟩
    · rw [shape]
      simp only [List.append_assoc]
    · rw [spelled?_eq_some_iff, undecorated_eq_self starts ends, pointFraction_of_noComma noComma]
      exact ⟨exist, form, written, [], spells, rfl, (List.append_nil written).symm⟩

/-! ## What stands behind a timestamp -/

/-- At the end of a text without blanks there nothing is trimmed. -/
theorem trim_of_suffix {line rest : List Char} (suffix : rest <:+ Text.trim line) :
    Text.trim rest = rest.dropWhile Text.isBlank := by
  rw [Text.trim_eq, List.rdropWhile_eq_self_iff]
  intro present
  have within := (List.dropWhile_suffix Text.isBlank).trans suffix
  rw [within.getLast present]
  exact List.rdropWhile_last_not Text.isBlank _ _

/-- From what stands behind a timestamp only decoration is taken. -/
theorem exists_dropped {line rest : List Char} (suffix : rest <:+ Text.trim line) :
    ∃ dropped, rest = dropped ++ remainder rest ∧ Decorative dropped := by
  have trimmed := trim_of_suffix suffix
  refine ⟨rest.takeWhile Text.isBlank ++ (rest.dropWhile Text.isBlank).takeWhile
    (closeBrackets ++ [' ', '\t']).contains, ?_, ?_⟩
  · rw [remainder, trimmed, List.append_assoc, List.takeWhile_append_dropWhile,
      List.takeWhile_append_dropWhile]
  · refine Decorative.append (fun char member => .inl (List.mem_takeWhile_imp member)) ?_
    intro char member
    have dropped := List.mem_takeWhile_imp member
    rw [List.contains_iff_mem, List.mem_append] at dropped
    rcases dropped with close | blank
    · refine .inr ?_
      rw [isBracket, List.contains_iff_mem.mpr close, Bool.or_true]
    · refine .inl ?_
      simp only [List.mem_cons, List.not_mem_nil, or_false] at blank
      rcases blank with rfl | rfl <;> decide

/-! ## The search -/

/-- What the search has found is the moment of a beginning, unless it was found before. -/
theorem cases_of_foldlM_prefixStep {line rest : List Char} {instant : Instant}
    {indices : List Nat} {before : Option (Instant × List Char)}
    (found : indices.foldlM (prefixStep line) before = .ok (some (instant, rest))) :
    before = some (instant, rest) ∨ ∃ count, ofCandidate (line.take count) = .ok (some instant) ∧
      rest = remainder (line.drop count) := by
  induction indices generalizing before with
  | nil =>
    cases found
    exact .inl rfl
  | cons index indices inductionHypothesis =>
    rw [List.foldlM_cons] at found
    rcases stepped : prefixStep line before index with _ | next
    · rw [stepped] at found
      cases found
    · rw [stepped] at found
      rcases inductionHypothesis found with rfl | later
      · rw [prefixStep] at stepped
        rcases moment : ofCandidate (line.take (index + 1)) with _ | _ | other
        · rw [moment] at stepped
          cases stepped
        · rw [moment] at stepped
          cases stepped
          exact .inl rfl
        · rw [moment] at stepped
          cases stepped
          exact .inr ⟨index + 1, moment, rfl⟩
      · exact .inr later

/-- A moment that the search finds is that of a beginning of the line. -/
theorem exists_beginning {line rest : List Char} {instant : Instant}
    (found : longestPrefix line = .ok (some (instant, rest))) :
    ∃ count, ofCandidate (line.take count) = .ok (some instant) ∧
      rest = remainder (line.drop count) := by
  rw [longestPrefix_eq] at found
  rcases cases_of_foldlM_prefixStep found with wrong | beginning
  · cases wrong
  · exact beginning

/-- The search among the beginnings gives the moment of one of them, or the line as it is. -/
theorem cases_of_extractPrefix {line message : List Char} {found : Option Instant}
    (extracted : extractPrefix line = .ok (found, message)) :
    (found = none ∧ message = line) ∨
      ∃ instant count, found = some instant ∧ ofCandidate (line.take count) = .ok (some instant) ∧
        message = remainder (line.drop count) := by
  rw [extractPrefix] at extracted
  rcases searched : longestPrefix line with _ | _ | ⟨instant, rest⟩
  all_goals
    rw [searched] at extracted
    cases extracted
  · exact .inl ⟨rfl, rfl⟩
  · rcases exists_beginning searched with ⟨count, denoted, known⟩
    exact .inr ⟨instant, count, rfl, denoted, known⟩

/-- What is extracted is the moment of a part of the line, of which nothing but decoration
is in front; or it is nothing, and the message is the whole line. -/
theorem cases_of_extract {line message : List Char} {found : Option Instant}
    (extracted : extract line = .ok (found, message)) :
    (found = none ∧ message = Text.trim line) ∨
      ∃ instant before candidate behind rest, found = some instant ∧
        Text.trim line = before ++ candidate ++ behind ++ rest ∧ Decorative before ∧
        Decorative behind ∧ ofCandidate candidate = .ok (some instant) ∧
        message = remainder rest := by
  have searched (extracted : extractPrefix (Text.trim line) = .ok (found, message)) :
      (found = none ∧ message = Text.trim line) ∨
        ∃ instant before candidate behind rest, found = some instant ∧
          Text.trim line = before ++ candidate ++ behind ++ rest ∧ Decorative before ∧
          Decorative behind ∧ ofCandidate candidate = .ok (some instant) ∧
          message = remainder rest := by
    rcases cases_of_extractPrefix extracted with nothing | ⟨instant, count, known, denoted, left⟩
    · exact .inl nothing
    · refine .inr ⟨instant, [], _, [], _, known, ?_, decorative_nil, decorative_nil, denoted, left⟩
      rw [List.nil_append, List.append_nil, List.take_append_drop]
  by_cases present : Text.trim line = []
  · rw [extract, present] at extracted
    cases extracted
    exact .inl ⟨rfl, present.symm⟩
  rw [extract_of_trimmed present] at extracted
  rcases front : isoFront? (Text.trim line) with _ | ⟨candidate, rest⟩
  · rw [front] at extracted
    exact searched extracted
  rw [front] at extracted
  dsimp only at extracted
  rcases denoted : ofCandidate candidate with _ | _ | instant
  all_goals rw [denoted] at extracted
  · cases extracted
  · exact searched extracted
  · cases extracted
    rcases isoFront?_eq_some_iff.mp front with ⟨capture, after, -, -, inner, rfl, rfl⟩
    rcases dropOne_split openBrackets.contains (Text.trim line) with ⟨opening, shape, -, opens⟩
    rcases dropOne_split closeBrackets.contains after with ⟨closing, ending, -, closes⟩
    refine .inr ⟨instant, opening, _, closing, _, rfl, ?_, ?_, ?_, denoted, rfl⟩
    · rw [inner, ending] at shape
      rw [shape]
      simp only [List.append_assoc]
    · intro char member
      rw [isBracket, opens char member]
      exact .inr rfl
    · intro char member
      rw [isBracket, closes char member, Bool.or_true]
      exact .inr rfl

/-- A line from which a moment is extracted is a timestamp of that moment, with blanks and
brackets around it, and the message.  Any other line is the message. -/
theorem extract_keeps {line message : List Char} {found : Option Instant}
    (extracted : extract line = .ok (found, message)) :
    (∀ instant, found = some instant → ∃ before stamp behind,
      Text.trim line = before ++ stamp ++ behind ++ message ∧
        ofCandidate stamp = .ok (some instant) ∧ Decorative before ∧ Decorative behind ∧
        StartsSolid stamp ∧ EndsSolid stamp) ∧
    (found = none → message = Text.trim line) := by
  rcases cases_of_extract extracted with ⟨rfl, whole⟩ |
    ⟨instant, before, candidate, behind, rest, rfl, shape, front, back, denoted, rfl⟩
  · exact ⟨(fun _ wrong => nomatch wrong), fun _ => whole⟩
  refine ⟨?_, fun wrong => nomatch wrong⟩
  rintro _ ⟨⟩
  rcases spelled : spelled? candidate with _ | fields
  · rw [ofCandidate_of_unspelled spelled] at denoted
    cases denoted
  rcases exists_stamp_of_spelled spelled with
    ⟨outside, stamp, behindStamp, rfl, decorated, decoratedBehind, starts, ends, bare⟩
  have suffix : rest <:+ Text.trim line := ⟨_, shape.symm⟩
  rcases exists_dropped suffix with ⟨dropped, left, decoratedRest⟩
  refine ⟨before ++ outside, stamp, behindStamp ++ behind ++ dropped, ?_, ?_,
    front.append decorated, (decoratedBehind.append back).append decoratedRest, starts, ends⟩
  · conv_lhs => rw [shape, left]
    simp only [List.append_assoc]
  · rw [ofCandidate_of_spelled bare, ← ofCandidate_of_spelled spelled, denoted]

/-- An access log line with more brackets than one around its timestamp. -/
def bracketedEntry : List Char := " [(15/Jan/2024:10:30:00 +0100)]> (ready) ".toList

/-- The bracket that opens the message is kept. -/
theorem extract_bracketedEntry :
    ∃ instant : Instant, extract bracketedEntry = .ok (some instant, "(ready)".toList) ∧
      ∃ before stamp behind,
        Text.trim bracketedEntry = before ++ stamp ++ behind ++ "(ready)".toList ∧
          ofCandidate stamp = .ok (some instant) ∧ Decorative before ∧ Decorative behind ∧
          StartsSolid stamp ∧ EndsSolid stamp := by
  have extracted : extract bracketedEntry =
      .ok (some ⟨738899 * dayMicros + 34200000000, by decide⟩, "(ready)".toList) := by
    decide +kernel
  exact ⟨_, extracted, (extract_keeps extracted).1 _ rfl⟩

end Timestamp
end ContainerFleet
