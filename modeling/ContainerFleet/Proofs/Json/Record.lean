import ContainerFleet.Json.Build
import ContainerFleet.Json.Writer
import ContainerFleet.Proofs.Json.Reading
import ContainerFleet.Proofs.Table

/-!
# Reading written records

A record is read back as the object of its members, since it spells that object.  A
character is escaped in one of three ways, each of which is a way of writing it in a
string.  No way leaves a line feed in the text.
-/

namespace ContainerFleet
namespace Json

/-! ## Escapes -/

theorem hexValue?_hexDigit : ∀ number < 16, Reader.hexValue? (hexDigit number) = some number := by
  decide

/-- A character is written by a letter behind a backslash, by its number, or as itself. -/
theorem escapeChar_cases (char : Char) :
    (∃ letter, escapeChar char = ['\\', letter] ∧ Reader.escaped? letter = some char) ∨
    (∃ number < 32, Char.ofNat number = char ∧
      escapeChar char = ['\\', 'u', '0', '0', hexDigit (number / 16), hexDigit (number % 16)]) ∨
    (escapeChar char = [char] ∧ char ≠ '"' ∧ char ≠ '\\' ∧ 32 ≤ char.toNat) := by
  by_cases short : char ∈ ['"', '\\', '\n', '\r', '\t', '\x08', '\x0c']
  · left
    simp only [List.mem_cons, List.not_mem_nil, or_false] at short
    rcases short with rfl | rfl | rfl | rfl | rfl | rfl | rfl
    all_goals exact ⟨_, rfl, rfl⟩
  · right
    simp only [List.mem_cons, List.not_mem_nil, or_false, not_or] at short
    rcases short with ⟨quote, backslash, feed, return_, tab, back, form⟩
    rw [escapeChar, if_neg quote, if_neg backslash, if_neg feed, if_neg return_, if_neg tab,
      if_neg back, if_neg form]
    by_cases control : char.toNat < 0x20
    · rw [if_pos control]
      exact .inl ⟨char.toNat, control, Char.ofNat_toNat char, rfl⟩
    · rw [if_neg control]
      exact .inr ⟨rfl, quote, backslash, Nat.le_of_not_lt control⟩

theorem noFeed_escapeChar (char : Char) : '\n' ∉ escapeChar char := by
  have hexDigits : ∀ number < 16, '\n' ≠ hexDigit number := by decide
  rcases escapeChar_cases char with
    ⟨letter, escaped, meaning⟩ | ⟨number, small, rfl, escaped⟩ | ⟨escaped, -, -, large⟩
  · rw [escaped]
    rintro (_ | ⟨_, _ | ⟨_, wrong⟩⟩)
    · cases meaning
    · cases wrong
  · rw [escaped]
    simp [hexDigits (number / 16) (by omega), hexDigits (number % 16) (by omega)]
  · rw [escaped, List.mem_singleton]
    rintro rfl
    exact absurd large (by decide)

theorem spellsUnit_control {number : Nat} (small : number < 32) :
    SpellsUnit ['0', '0', hexDigit (number / 16), hexDigit (number % 16)] number := by
  refine ⟨[0, 0, number / 16, number % 16], rfl, ?_, ?_⟩
  · have zero : Reader.hexValue? '0' = some 0 := rfl
    have high := hexValue?_hexDigit (number / 16) (by omega)
    have low := hexValue?_hexDigit (number % 16) (by omega)
    simp only [List.map_cons, List.map_nil, zero, high, low]
  · simp only [List.foldl_cons, List.foldl_nil]
    omega

theorem spellsChar_escapeChar (char : Char) (behind : List Char) :
    SpellsChar (escapeChar char) char behind := by
  rcases escapeChar_cases char with
    ⟨letter, escaped, meaning⟩ | ⟨number, small, rfl, escaped⟩ |
      ⟨escaped, quote, backslash, large⟩
  · rw [escaped]
    exact .letter meaning
  · have below : ¬ IsHigh number ∧ ¬ IsLow number := by
      rw [IsHigh, IsLow]
      omega
    rw [escaped]
    exact .escape (.unit (spellsUnit_control small) below.1 below.2)
  · rw [escaped]
    exact .plain quote backslash large

theorem spellsChars_escaped (chars : List Char) :
    SpellsChars (chars.flatMap escapeChar) chars := by
  induction chars with
  | nil => exact .nil
  | cons char chars inductionHypothesis =>
    rw [List.flatMap_cons]
    exact .cons (spellsChar_escapeChar char _) inductionHypothesis

theorem spellsString_quoted (text : String) : SpellsString (quoted text) text :=
  ⟨_, spellsChars_escaped text.toList, rfl⟩

/-! ## Members -/

/-- A key and what stands under it. -/
def memberText (member : String × Option String) : List Char :=
  quoted member.1 ++ ':' :: ' ' :: quotedOrNull member.2

/-- What a written member stands for. -/
def memberOf (member : String × Option String) : String × Json :=
  (member.1, ofOption .text member.2)

theorem allGap_blank : AllGap [' '] :=
  Reader.skipGap_eq_nil_iff.mp rfl

theorem record_eq (members : List (String × Option String)) :
    record members = '\x7b' :: (joinMembers (members.map memberText) ++ ['\x7d']) := rfl

theorem spellsScalar_quotedOrNull (content : Option String) :
    SpellsScalar (quotedOrNull content) (ofOption .text content) := by
  cases content with
  | none => exact .word List.mem_cons_self
  | some text => exact .text (spellsString_quoted text)

theorem spellsMember_memberText (depth : Nat) (member : String × Option String) :
    SpellsMember (Spells depth) (memberText member) (memberOf member) := by
  have isValue := Reader.spells_of_scalar depth (spellsScalar_quotedOrNull member.2)
  refine ⟨quoted member.1 ++ [] ++ ':' :: [' '], quotedOrNull member.2, ?_, isValue, ?_⟩
  · exact ⟨_, [], _, spellsString_quoted member.1, List.forall_mem_nil _, allGap_blank, rfl⟩
  · rw [memberText, List.append_nil, List.append_assoc]
    rfl

/-- Members with commas between them are items. -/
theorem spellsItems_joinMembers (depth : Nat) (member : String × Option String)
    (members : List (String × Option String)) :
    SpellsItems (SpellsMember (Spells depth)) (joinMembers ((member :: members).map memberText))
      ((member :: members).map memberOf) := by
  have first := spellsMember_memberText depth member
  induction members generalizing member with
  | nil =>
    have last := SpellsItems.last first (List.forall_mem_nil _)
    rw [List.append_nil] at last
    exact last
  | cons next members inductionHypothesis =>
    have later := inductionHypothesis next (spellsMember_memberText depth next)
    have joined := SpellsItems.next first (List.forall_mem_nil _) allGap_blank later
    rw [List.append_nil] at joined
    exact joined

/-- A record spells the object of its members. -/
theorem spells_record (depth : Nat) (member : String × Option String)
    (members : List (String × Option String)) :
    Spells (depth + 1) (record (member :: members))
      (.object (Table.ofEntries ((member :: members).map memberOf))) := by
  have inside := SpellsInside.items (List.forall_mem_nil _)
    (spellsItems_joinMembers depth member members)
  exact .inr (.inr ⟨_, _, inside, record_eq _, rfl⟩)

/-- A record under keys that are all different is read as its members in their order,
also with a gap behind it.  It is one level deep. -/
theorem read_record (levels : Nat) {member : String × Option String}
    {members : List (String × Option String)}
    (distinct : ((member :: members).map Prod.fst).Nodup) {gap : List Char}
    (blank : Reader.skipGap gap = []) :
    read (String.ofList (record (member :: members) ++ gap)) (levels + 1) =
      .ok (.object ((member :: members).map fun member => (member.1, ofOption .text member.2))) := by
  have keys : Table.keys ((member :: members).map memberOf) = (member :: members).map Prod.fst := by
    rw [Table.keys, List.map_map]
    rfl
  have spelled := spells_record levels member members
  rw [Table.ofEntries_of_nodup (keys ▸ distinct)] at spelled
  exact read_eq_ok_iff.mpr ⟨[], _, gap, List.forall_mem_nil _, spelled,
    Reader.skipGap_eq_nil_iff.mp blank, String.toList_ofList⟩

/-! ## Line feeds -/

theorem noFeed_quoted (text : String) : '\n' ∉ quoted text := by
  have inside : '\n' ∉ text.toList.flatMap escapeChar := by
    rw [List.mem_flatMap]
    rintro ⟨char, -, member⟩
    exact noFeed_escapeChar char member
  rw [quoted, List.mem_append, List.mem_cons, not_or, not_or]
  exact ⟨⟨by decide, inside⟩, by decide⟩

theorem noFeed_memberText (member : String × Option String) : '\n' ∉ memberText member := by
  have value : '\n' ∉ quotedOrNull member.2 := by
    cases member.2 with
    | none => decide
    | some text => exact noFeed_quoted text
  rw [memberText, List.mem_append, List.mem_cons, List.mem_cons, not_or, not_or, not_or]
  exact ⟨noFeed_quoted member.1, by decide, by decide, value⟩

theorem noFeed_joinMembers {texts : List (List Char)} (noFeed : ∀ text ∈ texts, '\n' ∉ text) :
    '\n' ∉ joinMembers texts := by
  induction texts with
  | nil => exact List.not_mem_nil
  | cons first later inductionHypothesis =>
    rcases List.forall_mem_cons.mp noFeed with ⟨none_first, none_later⟩
    cases later with
    | nil => exact none_first
    | cons next later =>
      rw [joinMembers, List.mem_append, List.mem_cons, List.mem_cons, not_or, not_or, not_or]
      · exact ⟨none_first, by decide, by decide, inductionHypothesis none_later⟩
      · rintro ⟨⟩

/-- A record has no line feed. -/
theorem noFeed_record (members : List (String × Option String)) : '\n' ∉ record members := by
  have inside : '\n' ∉ joinMembers (members.map memberText) := by
    refine noFeed_joinMembers fun text member => ?_
    rcases List.mem_map.mp member with ⟨written, -, rfl⟩
    exact noFeed_memberText written
  rw [record_eq, List.mem_cons, List.mem_append, not_or, not_or]
  exact ⟨by decide, inside, by decide⟩

end Json
end ContainerFleet
