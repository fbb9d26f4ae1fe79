import ContainerFleet.Proofs.Text.Trim

/-!
# Blanks around a text

Trimming takes away the blanks on both sides and nothing else: a text is what trimming
leaves of it, with blanks around.  Blanks that are added around a text without blanks at
its ends are taken away again, also where the text is empty.
-/

namespace ContainerFleet
namespace Text

/-- There is nothing in the text but blanks. -/
def AllBlank (chars : List Char) : Prop :=
  ∀ char ∈ chars, isBlank char = true

instance (chars : List Char) : Decidable (AllBlank chars) :=
  List.decidableBAll (fun char => isBlank char = true) chars

/-- The text is a core with blanks around it. -/
def Padded (core text : List Char) : Prop :=
  ∃ front back, AllBlank front ∧ AllBlank back ∧ text = front ++ core ++ back

theorem trim_eq (chars : List Char) :
    trim chars = (chars.dropWhile isBlank).rdropWhile isBlank := rfl

theorem trim_dropWhile (chars : List Char) : trim (chars.dropWhile isBlank) = trim chars := by
  rw [trim_eq, trim_eq, List.dropWhile_idempotent]

theorem trim_rdropWhile (chars : List Char) : trim (chars.rdropWhile isBlank) = trim chars :=
  stripBoth_rdropWhile chars

theorem trim_trim (chars : List Char) : trim (trim chars) = trim chars := by
  rw [trim_eq chars, trim_rdropWhile, trim_dropWhile, trim_eq]

/-- What trimming leaves stands between the blanks that it takes away. -/
theorem padded_trim (chars : List Char) : Padded (trim chars) chars := by
  refine ⟨chars.takeWhile isBlank, (chars.dropWhile isBlank).rtakeWhile isBlank, ?_, ?_, ?_⟩
  · intro char member
    exact List.mem_takeWhile_imp member
  · intro char member
    exact List.mem_rtakeWhile_imp member
  · rw [trim_eq, List.append_assoc, List.rdropWhile_append_rtakeWhile,
      List.takeWhile_append_dropWhile]

theorem Padded.trim_eq {core text : List Char} (padded : Padded core text) :
    trim text = trim core := by
  rcases padded with ⟨front, back, blankFront, blankBack, rfl⟩
  have dropped : (core ++ back).rdropWhile isBlank = core.rdropWhile isBlank := by
    rw [List.rdropWhile, List.reverse_append,
      List.dropWhile_append_of_pos fun char member =>
        blankBack char (List.mem_reverse.mp member)]
    rfl
  rw [List.append_assoc, trim, stripBoth_append_left blankFront]
  change trim (core ++ back) = trim core
  rw [← trim_rdropWhile, dropped, trim_rdropWhile]

theorem Padded.mem {core text : List Char} (padded : Padded core text) {char : Char}
    (member : char ∈ core) : char ∈ text := by
  rcases padded with ⟨front, back, -, -, rfl⟩
  simp [member]

/-- A character of a padded text that is not blank belongs to the core. -/
theorem Padded.mem_core {core text : List Char} (padded : Padded core text) {char : Char}
    (member : char ∈ text) (visible : isBlank char = false) : char ∈ core := by
  rcases padded with ⟨front, back, blankFront, blankBack, rfl⟩
  rcases List.mem_append.mp member with inFirst | inBack
  · rcases List.mem_append.mp inFirst with inFront | inCore
    · exact absurd (blankFront char inFront) (Bool.eq_false_iff.mp visible)
    · exact inCore
  · exact absurd (blankBack char inBack) (Bool.eq_false_iff.mp visible)

theorem trim_eq_nil_iff {chars : List Char} : trim chars = [] ↔ AllBlank chars := by
  constructor
  · intro nothing char member
    cases visible : isBlank char with
    | true => rfl
    | false =>
      have kept := (padded_trim chars).mem_core member visible
      rw [nothing] at kept
      cases kept
  · intro blank
    have padded : Padded [] chars := ⟨chars, [], blank, List.forall_mem_nil _, by simp⟩
    rw [padded.trim_eq]
    rfl

/-- Trimming around a character that stays is trimming before it and behind it. -/
theorem trim_split (before : List Char) {middle : Char} (visible : isBlank middle = false)
    (after : List Char) : trim (before ++ middle :: after) =
      before.dropWhile isBlank ++ middle :: after.rdropWhile isBlank := by
  rw [trim_eq, dropWhile_append before visible, rdropWhile_append _ visible]

end Text
end ContainerFleet
