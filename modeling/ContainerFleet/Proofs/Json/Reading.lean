import ContainerFleet.Proofs.Json.Items

/-!
# Reading and the grammar

A text is read as a document just if it spells that document, and found to be nested too
deeply just if it opens so.  Scalars are read without regard to the depth, arrays and
objects are lists of items that are one level deeper, and so the induction is on the
levels of nesting alone.
-/

namespace ContainerFleet
namespace Json
namespace Reader

open Digits

/-! ## Scalars -/

theorem word?_eq_some_iff {chars rest : List Char} {document : Json} :
    word? chars = some (document, rest) ↔
      ∃ written, (written, document) ∈ words ∧ chars = written ++ rest := by
  constructor
  · intro found
    rcases List.exists_of_findSome?_eq_some found with ⟨⟨word, value⟩, member, taken⟩
    dsimp only at taken
    split at taken
    · rename_i front
      rcases List.isPrefixOf_iff_prefix.mp front with ⟨behind, rfl⟩
      rw [List.drop_left] at taken
      rcases Prod.mk.inj (Option.some.inj taken) with ⟨rfl, rfl⟩
      exact ⟨word, member, rfl⟩
    · cases taken
  · rintro ⟨written, member, rfl⟩
    simp only [words, List.mem_cons, List.not_mem_nil, or_false, Prod.mk.injEq] at member
    rcases member with ⟨rfl, rfl⟩ | ⟨rfl, rfl⟩ | ⟨rfl, rfl⟩ | ⟨rfl, rfl⟩ | ⟨rfl, rfl⟩ | ⟨rfl, rfl⟩
    all_goals rfl

/-- No word begins with a digit or has one behind a minus. -/
theorem word?_of_digit {digit : Char} (isDigit : digit.isDigit = true) {chars rest : List Char}
    (shape : chars = digit :: rest ∨ chars = '-' :: digit :: rest) : word? chars = none := by
  cases found : word? chars with
  | none => rfl
  | some taken =>
    rcases word?_eq_some_iff.mp found with ⟨written, member, begins⟩
    rw [begins] at shape
    simp only [words, List.mem_cons, List.not_mem_nil, or_false, Prod.mk.injEq] at member
    rcases member with ⟨rfl, -⟩ | ⟨rfl, -⟩ | ⟨rfl, -⟩ | ⟨rfl, -⟩ | ⟨rfl, -⟩ | ⟨rfl, -⟩
    all_goals
      rcases shape with shape | shape
      · rw [← (List.cons.inj shape).1] at isDigit
        cases isDigit
      · have second := List.cons.inj (List.cons.inj shape).2
        rw [← second.1] at isDigit
        cases isDigit

theorem exists_digit_of_spellsNumber {negative : Bool} {written : List Char} {document : Json}
    (spelled : SpellsNumber negative written document) :
    ∃ first more, written = first :: more ∧ first.isDigit = true := by
  have starts {digits : List Char} (whole : IsWholePart digits) (behind : List Char) :
      ∃ first more, digits ++ behind = first :: more ∧ first.isDigit = true := by
    rcases whole with ⟨filled, all, -⟩
    rcases List.exists_cons_of_ne_nil filled with ⟨first, more, rfl⟩
    exact ⟨first, more ++ behind, rfl, all first List.mem_cons_self⟩
  cases spelled with
  | whole isWhole =>
    rw [← List.append_nil written]
    exact starts isWhole []
  | fraction isWhole =>
    rw [List.append_assoc]
    exact starts isWhole _

theorem scalar_of_number {negative : Bool} {written : List Char} {document : Json}
    (spelled : SpellsNumber negative written document) (rest : List Char) :
    scalar (if negative then '-' :: (written ++ rest) else written ++ rest) =
      number negative (written ++ rest) := by
  rcases exists_digit_of_spellsNumber spelled with ⟨digit, more, rfl, isDigit⟩
  cases negative with
  | true =>
    have noWord : word? ('-' :: digit :: (more ++ rest)) = none :=
      word?_of_digit isDigit (.inr rfl)
    rw [if_pos rfl, List.cons_append, scalar, noWord]
  | false =>
    have noWord : word? (digit :: (more ++ rest)) = none := word?_of_digit isDigit (.inl rfl)
    rw [if_neg Bool.false_ne_true, List.cons_append, scalar.eq_def, noWord]
    dsimp only
    split
    · rename_i same
      cases same
      cases isDigit
    · rename_i same
      cases same
      cases isDigit
    · rfl

theorem scalar_quote (chars : List Char) :
    scalar ('"' :: chars) = (string chars).map fun found => (.text found.1, found.2) := by
  have noWord : word? ('"' :: chars) = none := rfl
  rw [scalar, noWord]

/-- Scalars begin with none of the brackets. -/
theorem starts_of_spellsScalar {written : List Char} {document : Json}
    (spelled : SpellsScalar written document) :
    ∃ char more, written = char :: more ∧ isGap char = false ∧
      char ∉ ['[', ']', '\x7b', '\x7d'] := by
  cases spelled with
  | word member =>
    simp only [words, List.mem_cons, List.not_mem_nil, or_false, Prod.mk.injEq] at member
    rcases member with ⟨rfl, -⟩ | ⟨rfl, -⟩ | ⟨rfl, -⟩ | ⟨rfl, -⟩ | ⟨rfl, -⟩ | ⟨rfl, -⟩
    all_goals exact ⟨_, _, rfl, rfl, by decide⟩
  | text isString =>
    rcases isString with ⟨inside, -, rfl⟩
    exact ⟨_, _, rfl, rfl, by decide⟩
  | number isNumber =>
    rcases exists_digit_of_spellsNumber isNumber with ⟨digit, more, rfl, isDigit⟩
    refine ⟨digit, more, rfl, ?_, ?_⟩
    · rw [Bool.eq_false_iff, isGap]
      intro isBlank
      simp only [Bool.or_eq_true, decide_eq_true_eq] at isBlank
      rcases isBlank with ((rfl | rfl) | rfl) | rfl
      all_goals cases isDigit
    · simp only [List.mem_cons, List.not_mem_nil, or_false]
      rintro (rfl | rfl | rfl | rfl)
      all_goals cases isDigit
  | negative => exact ⟨_, _, rfl, rfl, by decide⟩

/-- A text begins with a word, a quote or a minus, or is read as a number. -/
theorem scalar_cases (chars : List Char) :
    (∃ document rest, word? chars = some (document, rest) ∧ scalar chars = .ok (document, rest)) ∨
    (∃ rest, chars = '"' :: rest) ∨
    (∃ rest, chars = '-' :: rest ∧ scalar chars = number true rest) ∨
    scalar chars = number false chars := by
  rw [scalar.eq_def]
  split
  · rename_i taken isWord
    exact .inl ⟨taken.1, taken.2, isWord, rfl⟩
  · split
    · exact .inr (.inl ⟨_, rfl⟩)
    · exact .inr (.inr (.inl ⟨_, rfl, rfl⟩))
    · exact .inr (.inr (.inr rfl))

theorem spellsScalar_of_scalar {chars rest : List Char} {document : Json}
    (found : scalar chars = .ok (document, rest)) :
    ∃ written, SpellsScalar written document ∧ chars = written ++ rest := by
  rcases scalar_cases chars with ⟨word, behind, isWord, wordRead⟩ | ⟨behind, rfl⟩ |
    ⟨behind, rfl, numberRead⟩ | numberRead
  · rw [wordRead] at found
    cases found
    rcases word?_eq_some_iff.mp isWord with ⟨written, member, shape⟩
    exact ⟨written, .word member, shape⟩
  · rw [scalar_quote, map_eq_ok_iff Json.text] at found
    rcases found with ⟨text, stringRead, rfl⟩
    rcases string_eq_ok_iff.mp stringRead with ⟨inside, spelled, rfl⟩
    exact ⟨_, .text ⟨inside, spelled, rfl⟩, by simp⟩
  · rw [numberRead] at found
    rcases spellsNumber_of_number found with ⟨written, spelled, rfl⟩
    exact ⟨_, .negative spelled, rfl⟩
  · rw [numberRead] at found
    rcases spellsNumber_of_number found with ⟨written, spelled, shape⟩
    exact ⟨written, .number spelled, shape⟩

theorem scalar_of_spellsScalar {written rest : List Char} {document : Json}
    (spelled : SpellsScalar written document) (ends : Ends prolongs rest) :
    scalar (written ++ rest) = .ok (document, rest) := by
  cases spelled with
  | word member =>
    rw [scalar.eq_def, word?_eq_some_iff.mpr ⟨written, member, rfl⟩]
  | @text _ text isString =>
    rcases isString with ⟨inside, isText, rfl⟩
    have textRead : string (inside ++ '"' :: rest) = .ok (text, rest) :=
      string_eq_ok_iff.mpr ⟨inside, isText, rfl⟩
    rw [List.cons_append, List.append_assoc, List.singleton_append, scalar_quote, textRead]
    rfl
  | number isNumber =>
    exact (scalar_of_number isNumber rest).trans (number_of_spellsNumber isNumber ends)
  | negative isNumber =>
    exact (scalar_of_number isNumber rest).trans (number_of_spellsNumber isNumber ends)

theorem scalar_ne_tooDeep (chars : List Char) : scalar chars ≠ .error .tooDeep := by
  rcases scalar_cases chars with ⟨word, behind, -, wordRead⟩ | ⟨behind, rfl⟩ |
    ⟨behind, rfl, numberRead⟩ | numberRead
  · rw [wordRead]
    rintro ⟨⟩
  · rw [scalar_quote, Ne, map_eq_error_iff]
    exact string_ne_tooDeep behind
  · rw [numberRead]
    exact number_ne_tooDeep true behind
  · rw [numberRead]
    exact number_ne_tooDeep false chars

/-! ## Documents -/

theorem value_of_scalar (depth : Nat) {char : Char} (noArray : char ≠ '[')
    (noObject : char ≠ '\x7b') (rest : List Char) :
    value depth (char :: rest) = scalar (char :: rest) := by
  rw [value]
  · rintro more ⟨⟩
    exact noArray rfl
  · rintro more ⟨⟩
    exact noObject rfl

/-- A text begins with an array or an object, or is read as a scalar. -/
theorem value_cases (chars : List Char) :
    (∃ rest, chars = '[' :: rest) ∨ (∃ rest, chars = '\x7b' :: rest) ∨
      ∀ depth, value depth chars = scalar chars := by
  cases chars with
  | nil =>
    refine .inr (.inr fun depth => ?_)
    rw [value]
    · rintro more ⟨⟩
    · rintro more ⟨⟩
  | cons char rest =>
    by_cases array : char = '['
    · exact .inl ⟨rest, by rw [array]⟩
    · by_cases object : char = '\x7b'
      · exact .inr (.inl ⟨rest, by rw [object]⟩)
      · exact .inr (.inr fun depth => value_of_scalar depth array object rest)

theorem value_of_spellsScalar (depth : Nat) {written rest : List Char} {document : Json}
    (spelled : SpellsScalar written document) (ends : Ends prolongs rest) :
    value depth (written ++ rest) = .ok (document, rest) := by
  rcases starts_of_spellsScalar spelled with ⟨char, more, shape, -, noBracket⟩
  have scalarRead := scalar_of_spellsScalar spelled ends
  rw [List.mem_cons, List.mem_cons, List.mem_cons, not_or, not_or, not_or] at noBracket
  rw [shape, List.cons_append] at scalarRead ⊢
  rw [value_of_scalar depth noBracket.1 noBracket.2.2.1, scalarRead]

theorem opens_of_spellsScalar {written : List Char} {document : Json}
    (spelled : SpellsScalar written document) : Opens written := by
  rcases starts_of_spellsScalar spelled with ⟨char, more, shape, visible, noBracket⟩
  simp only [List.mem_cons, List.not_mem_nil, or_false, not_or] at noBracket
  exact ⟨char, more, shape, visible, noBracket.2.1, noBracket.2.2.2⟩

theorem spells_of_scalar (depth : Nat) {written : List Char} {document : Json}
    (spelled : SpellsScalar written document) : Spells depth written document := by
  cases depth with
  | zero => exact spelled
  | succ depth => exact .inl spelled

theorem value_array (depth : Nat) (rest : List Char) :
    value (depth + 1) ('[' :: rest) =
      (items (value depth) ']' rest).map fun taken => (.array taken.1, taken.2) := by
  rw [value]

theorem value_object (depth : Nat) (rest : List Char) :
    value (depth + 1) ('\x7b' :: rest) =
      (items (entry (value depth)) '\x7d' rest).map fun taken =>
        (.object (Table.ofEntries taken.1), taken.2) := by
  rw [value]

theorem opens_of_spells {depth : Nat} {written : List Char} {document : Json}
    (spelled : Spells depth written document) : Opens written := by
  cases depth with
  | zero => exact opens_of_spellsScalar spelled
  | succ depth =>
    rcases spelled with isScalar | ⟨inside, items, -, rfl, -⟩ | ⟨inside, members, -, rfl, -⟩
    · exact opens_of_spellsScalar isScalar
    · exact ⟨_, _, rfl, rfl, by decide, by decide⟩
    · exact ⟨_, _, rfl, rfl, by decide, by decide⟩

theorem opens_of_value_tooDeep {depth : Nat} {chars : List Char}
    (failed : value depth chars = .error .tooDeep) : Opens chars := by
  rcases value_cases chars with ⟨rest, rfl⟩ | ⟨rest, rfl⟩ | isScalar
  · exact ⟨_, _, rfl, rfl, by decide, by decide⟩
  · exact ⟨_, _, rfl, rfl, by decide, by decide⟩
  · rw [isScalar] at failed
    exact absurd failed (scalar_ne_tooDeep chars)

/-- What is read with another level of nesting, if the levels inside are read as they
should. -/
theorem spells_of_value_succ {depth : Nat} (reads : Reads (value depth) (Spells depth))
    {chars rest : List Char} {document : Json}
    (found : value (depth + 1) chars = .ok (document, rest)) :
    ∃ written, Spells (depth + 1) written document ∧ chars = written ++ rest := by
  rcases value_cases chars with ⟨behind, rfl⟩ | ⟨behind, rfl⟩ | isScalar
  · rw [value_array, map_eq_ok_iff Json.array] at found
    rcases found with ⟨items, itemsRead, rfl⟩
    rcases (items_eq_ok_iff reads (.inl rfl)).mp itemsRead with ⟨inside, spelled, rfl⟩
    exact ⟨_, .inr (.inl ⟨inside, items, spelled, rfl, rfl⟩), by simp⟩
  · rw [value_object, map_eq_ok_iff fun members => Json.object (Table.ofEntries members)]
      at found
    rcases found with ⟨members, membersRead, rfl⟩
    rcases (items_eq_ok_iff (reads_entry reads) (.inr rfl)).mp membersRead with
      ⟨inside, spelled, rfl⟩
    exact ⟨_, .inr (.inr ⟨inside, members, spelled, rfl, rfl⟩), by simp⟩
  · rw [isScalar] at found
    rcases spellsScalar_of_scalar found with ⟨written, spelled, shape⟩
    exact ⟨written, .inl spelled, shape⟩

theorem value_of_spells_succ {depth : Nat} (reads : Reads (value depth) (Spells depth))
    {written rest : List Char} {document : Json} (spelled : Spells (depth + 1) written document)
    (ends : Ends prolongs rest) : value (depth + 1) (written ++ rest) = .ok (document, rest) := by
  rcases spelled with isScalar | ⟨inside, items, spelled, rfl, rfl⟩ |
    ⟨inside, members, spelled, rfl, rfl⟩
  · exact value_of_spellsScalar (depth + 1) isScalar ends
  · rw [List.cons_append, List.append_assoc, value_array, map_eq_ok_iff Json.array]
    exact ⟨items, (items_eq_ok_iff reads (.inl rfl)).mpr ⟨inside, spelled, rfl⟩, rfl⟩
  · rw [List.cons_append, List.append_assoc, value_object,
      map_eq_ok_iff fun members => Json.object (Table.ofEntries members)]
    refine ⟨members, ?_, rfl⟩
    exact (items_eq_ok_iff (reads_entry reads) (.inr rfl)).mpr ⟨inside, spelled, rfl⟩

/-- By induction on the levels of nesting, documents are read as the grammar says. -/
theorem reads_value (depth : Nat) : Reads (value depth) (Spells depth) := by
  induction depth with
  | zero =>
    refine ⟨?_, value_of_spellsScalar 0, opens_of_spellsScalar, opens_of_value_tooDeep⟩
    intro chars rest document found
    rcases value_cases chars with ⟨behind, rfl⟩ | ⟨behind, rfl⟩ | isScalar
    · cases found
    · cases found
    · rw [isScalar] at found
      exact spellsScalar_of_scalar found
  | succ depth inductionHypothesis =>
    exact ⟨spells_of_value_succ inductionHypothesis, value_of_spells_succ inductionHypothesis,
      opens_of_spells, opens_of_value_tooDeep⟩

/-- Reading stops for the depth just where more than `depth` levels are open. -/
theorem value_eq_tooDeep_iff {depth : Nat} {chars : List Char} :
    value depth chars = .error .tooDeep ↔ OpensTooDeep depth chars := by
  induction depth generalizing chars with
  | zero =>
    constructor
    · intro failed
      rcases value_cases chars with ⟨rest, rfl⟩ | ⟨rest, rfl⟩ | isScalar
      · exact ⟨rest, .inl rfl⟩
      · exact ⟨rest, .inr rfl⟩
      · rw [isScalar] at failed
        exact absurd failed (scalar_ne_tooDeep chars)
    · rintro ⟨rest, rfl | rfl⟩
      · rfl
      · rfl
  | succ depth inductionHypothesis =>
    have reads := reads_value depth
    constructor
    · intro failed
      rcases value_cases chars with ⟨behind, rfl⟩ | ⟨behind, rfl⟩ | isScalar
      · rw [value_array, map_eq_error_iff, items_eq_tooDeep_iff reads (.inl rfl)] at failed
        rcases failed with ⟨gap, begun, rest, blank, begins, deep, rfl⟩
        exact .inl ⟨gap, begun, rest, blank, begins, inductionHypothesis.mp deep, rfl⟩
      · rw [value_object, map_eq_error_iff, items_eq_tooDeep_iff (reads_entry reads) (.inr rfl)]
          at failed
        rcases failed with ⟨gap, begun, member, blank, begins, memberDeep, rfl⟩
        rcases (entry_eq_tooDeep_iff reads).mp memberDeep with ⟨front, key, rest, isKey, deep, rfl⟩
        exact .inr ⟨gap, begun, front, key, rest, blank, begins, isKey,
          inductionHypothesis.mp deep, rfl⟩
      · rw [isScalar] at failed
        exact absurd failed (scalar_ne_tooDeep chars)
    · rintro (⟨gap, begun, rest, blank, begins, deep, rfl⟩ |
        ⟨gap, begun, front, key, rest, blank, begins, isKey, deep, rfl⟩)
      · rw [value_array, map_eq_error_iff, items_eq_tooDeep_iff reads (.inl rfl)]
        exact ⟨gap, begun, rest, blank, begins, inductionHypothesis.mpr deep, rfl⟩
      · have memberDeep := (entry_eq_tooDeep_iff reads).mpr
          ⟨front, key, rest, isKey, inductionHypothesis.mpr deep, rfl⟩
        rw [value_object, map_eq_error_iff, items_eq_tooDeep_iff (reads_entry reads) (.inr rfl)]
        exact ⟨gap, begun, front ++ rest, blank, begins, memberDeep, rfl⟩

/-! ## More levels -/

/-- One reader answers as another does wherever that does not stop for the depth. -/
def Extends {α : Type} (more read : List Char → Front α) : Prop :=
  ∀ chars, read chars ≠ .error .tooDeep → more chars = read chars

theorem Extends.map {α β : Type} {more read : List Char → Front α} (wider : Extends more read)
    (into : α × List Char → β) {chars : List Char}
    (shallow : (read chars).map into ≠ .error .tooDeep) :
    (more chars).map into = (read chars).map into := by
  rw [wider chars fun failed => shallow (map_eq_error_iff.mpr failed)]

theorem Extends.itemsFrom {α : Type} {more read : List Char → Front α} (wider : Extends more read)
    (close : Char) (fuel : Nat) (taken : List α) :
    Extends (itemsFrom more close fuel taken) (itemsFrom read close fuel taken) := by
  induction fuel generalizing taken with
  | zero => exact fun chars _ => rfl
  | succ fuel inductionHypothesis =>
    intro chars shallow
    have item : more chars = read chars :=
      wider chars fun failed => shallow (itemsFrom_of_error failed)
    rcases itemRead : read chars with error | ⟨value, rest⟩
    · rw [itemsFrom_of_error (item.trans itemRead), itemsFrom_of_error itemRead]
    · rw [Reader.itemsFrom, Reader.itemsFrom, item, itemRead]
      dsimp only [bind, Except.bind]
      split
      · rename_i behind comma
        rw [itemsFrom_of_comma itemRead comma] at shallow
        exact inductionHypothesis (value :: taken) _ shallow
      · rfl
      · rfl

theorem Extends.items {α : Type} {more read : List Char → Front α} (wider : Extends more read)
    (close : Char) : Extends (items more close) (items read close) := by
  intro chars shallow
  rw [Reader.items] at shallow ⊢
  rw [Reader.items]
  split
  · rfl
  · rename_i char rest next
    rw [next] at shallow
    dsimp only at shallow
    split
    · rfl
    · rename_i other
      rw [if_neg other] at shallow
      exact wider.itemsFrom close _ _ _ shallow

theorem Extends.entry {more read : List Char → Front Json} (wider : Extends more read) :
    Extends (entry more) (entry read) := by
  intro chars shallow
  rcases entry_cases chars with ⟨front, key, rest, -, -, entryRead⟩ | other
  · rw [entryRead] at shallow ⊢
    rw [entryRead]
    exact wider.map _ shallow
  · rw [other, other]

theorem extends_value_succ (depth : Nat) : Extends (value (depth + 1)) (value depth) := by
  induction depth with
  | zero =>
    intro chars shallow
    rcases value_cases chars with ⟨rest, rfl⟩ | ⟨rest, rfl⟩ | isScalar
    · exact absurd rfl shallow
    · exact absurd rfl shallow
    · rw [isScalar, isScalar]
  | succ depth inductionHypothesis =>
    intro chars shallow
    rcases value_cases chars with ⟨rest, rfl⟩ | ⟨rest, rfl⟩ | isScalar
    · rw [value_array] at shallow ⊢
      rw [value_array]
      exact (inductionHypothesis.items ']').map _ shallow
    · rw [value_object] at shallow ⊢
      rw [value_object]
      exact (inductionHypothesis.entry.items '\x7d').map _ shallow
    · rw [isScalar, isScalar]

theorem extends_value {depth levels : Nat} (within : depth ≤ levels) :
    Extends (value levels) (value depth) := by
  induction within with
  | refl => exact fun chars _ => rfl
  | step _ inductionHypothesis =>
    intro chars shallow
    have same := inductionHypothesis chars shallow
    rw [extends_value_succ _ chars (same ▸ shallow), same]

end Reader

/-- A text is read as the document that it spells, and as no other. -/
theorem read_eq_ok_iff {levels : Nat} {text : String} {document : Json} :
    read text levels = .ok document ↔ IsDocument levels text document := by
  rcases Reader.exists_gap text.toList with ⟨gap, blank, shape⟩
  have reads := Reader.reads_value levels
  constructor
  · intro found
    rw [read] at found
    rcases valueRead : Reader.value levels (Reader.skipGap text.toList) with
      error | ⟨value, rest⟩
    · rw [valueRead] at found
      cases found
    · rw [valueRead] at found
      dsimp only [bind, Except.bind] at found
      split at found
      · rename_i nothing
        cases found
        rw [List.isEmpty_iff, Reader.skipGap_eq_nil_iff] at nothing
        rcases reads.sound valueRead with ⟨written, spelled, valueShape⟩
        exact ⟨gap, written, rest, blank, spelled, nothing, valueShape ▸ shape⟩
      · cases found
  · rintro ⟨front, written, wide, blankFront, spelled, blankBack, whole⟩
    -- Behind the document stands a gap or nothing, with which no number goes on.
    have ends : Digits.Ends Reader.prolongs wide := by
      rw [← List.append_nil wide]
      exact Reader.ends_gap_append blankBack (Digits.ends_nil _)
    have nothing : (Reader.skipGap wide).isEmpty = true :=
      List.isEmpty_iff.mpr (Reader.skipGap_eq_nil_iff.mpr blankBack)
    have opens := (reads.opens spelled).append wide
    rw [read, whole, Reader.skipGap_append blankFront, Reader.skipGap_of_opens opens,
      reads.complete spelled ends]
    exact if_pos nothing

/-- Reading stops for the depth just where the text opens too deeply. -/
theorem read_eq_tooDeep_iff {levels : Nat} {text : String} :
    read text levels = .error .tooDeep ↔ IsTooDeep levels text := by
  rcases Reader.exists_gap text.toList with ⟨gap, blank, shape⟩
  constructor
  · intro failed
    rw [read] at failed
    rcases valueRead : Reader.value levels (Reader.skipGap text.toList) with
      error | ⟨value, rest⟩
    · rw [valueRead] at failed
      cases failed
      exact ⟨gap, _, blank, Reader.value_eq_tooDeep_iff.mp valueRead, shape⟩
    · rw [valueRead] at failed
      dsimp only [bind, Except.bind] at failed
      split at failed
      · cases failed
      · cases failed
  · rintro ⟨front, rest, blankFront, deep, whole⟩
    have failed := Reader.value_eq_tooDeep_iff.mpr deep
    rw [read, whole, Reader.skipGap_append blankFront,
      Reader.skipGap_of_opens (Reader.opens_of_value_tooDeep failed), failed]
    rfl

/-- A text that is not nested too deeply is read alike with any more levels. -/
theorem read_of_le {depth levels : Nat} (within : depth ≤ levels) {text : String}
    (shallow : ¬ IsTooDeep depth text) : read text levels = read text depth := by
  have front : Reader.value depth (Reader.skipGap text.toList) ≠ .error .tooDeep := by
    intro failed
    refine shallow (read_eq_tooDeep_iff.mp ?_)
    rw [read, failed]
    rfl
  rw [read, read, Reader.extends_value within _ front]

/-! ## Nesting -/

theorem opensTooDeep_brackets (depth : Nat) (rest : List Char) :
    OpensTooDeep depth (List.replicate (depth + 1) '[' ++ rest) := by
  induction depth with
  | zero => exact ⟨rest, .inl rfl⟩
  | succ depth inductionHypothesis =>
    exact .inl ⟨[], [], _, List.forall_mem_nil _, .none, inductionHypothesis, rfl⟩

/-- Each level takes a bracket of its own. -/
theorem OpensTooDeep.brackets {depth : Nat} {chars : List Char} (opens : OpensTooDeep depth chars) :
    depth < chars.count '[' + chars.count '\x7b' := by
  induction depth generalizing chars with
  | zero =>
    rcases opens with ⟨rest, rfl | rfl⟩
    · rw [List.count_cons_self]
      omega
    · rw [List.count_cons_self]
      omega
  | succ depth inductionHypothesis =>
    rcases opens with ⟨gap, begun, rest, -, -, deep, rfl⟩ |
      ⟨gap, begun, front, key, rest, -, -, -, deep, rfl⟩
    · have inside := inductionHypothesis deep
      simp only [List.count_cons, List.count_append, beq_self_eq_true, if_true]
      omega
    · have inside := inductionHypothesis deep
      simp only [List.count_cons, List.count_append, beq_self_eq_true, if_true]
      omega

/-- A text that is nested too deeply has more brackets than there may be levels. -/
theorem IsTooDeep.brackets {levels : Nat} {text : String} (deep : IsTooDeep levels text) :
    levels < text.toList.count '[' + text.toList.count '\x7b' := by
  rcases deep with ⟨gap, rest, -, opens, shape⟩
  have inside := opens.brackets
  rw [shape, List.count_append, List.count_append]
  omega

end Json
end ContainerFleet
