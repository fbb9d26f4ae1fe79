import ContainerFleet.Proofs.Json.Grammar

/-!
# Reading strings

The reader of strings takes just what the grammar calls a string.  One step of it reads
one character, and which character that is depends on what follows only for the first
half of a pair; the closing quote is never part of an escape, so what stands behind the
string does not matter.
-/

namespace ContainerFleet
namespace Json
namespace Reader

/-! ## Escaped units -/

theorem hexUnit?_eq_some_iff {chars rest : List Char} {unit : Nat} :
    hexUnit? chars = some (unit, rest) ↔
      ∃ written, SpellsUnit written unit ∧ chars = written ++ rest := by
  constructor
  · intro found
    rcases chars with _ | ⟨a, _ | ⟨b, _ | ⟨c, _ | ⟨d, more⟩⟩⟩⟩
    iterate 4 cases found
    simp only [hexUnit?, Option.bind_eq_bind, Option.bind_eq_some_iff, Option.pure_def,
      Option.some.injEq, Prod.mk.injEq] at found
    rcases found with
      ⟨first, isFirst, second, isSecond, third, isThird, fourth, isFourth, number, rfl⟩
    refine ⟨[a, b, c, d], ⟨[first, second, third, fourth], rfl, ?_, ?_⟩, rfl⟩
    · simp [isFirst, isSecond, isThird, isFourth]
    · simpa using number
  · rintro ⟨written, ⟨values, four, digits, rfl⟩, rfl⟩
    rcases values with _ | ⟨first, _ | ⟨second, _ | ⟨third, _ | ⟨fourth, _ | ⟨fifth, more⟩⟩⟩⟩⟩ <;>
      simp at four
    simp only [List.map_cons, List.map_nil, List.map_eq_cons_iff, List.map_eq_nil_iff] at digits
    rcases digits with ⟨a, _, rfl, isFirst, b, _, rfl, isSecond, c, _, rfl, isThird, d, _, rfl,
      isFourth, rfl⟩
    simp [hexUnit?, isFirst, isSecond, isThird, isFourth]

theorem quote_not_mem_of_spellsUnit {written : List Char} {unit : Nat}
    (spelled : SpellsUnit written unit) : '"' ∉ written := by
  rcases spelled with ⟨values, -, digits, -⟩
  intro member
  have image : Reader.hexValue? '"' ∈ values.map some := digits ▸ List.mem_map_of_mem member
  rcases List.mem_map.mp image with ⟨value, -, wrong⟩
  cases wrong

section Unit

variable {chars rest : List Char} {unit : Nat} (read : hexUnit? chars = some (unit, rest))

include read

theorem escapedUnit?_of_single (notHigh : ¬ IsHigh unit) (notLow : ¬ IsLow unit) :
    escapedUnit? chars = some (Char.ofNat unit, rest) := by
  rw [IsHigh] at notHigh
  rw [IsLow] at notLow
  rw [escapedUnit?, read]
  dsimp only [bind, Option.bind]
  rw [if_neg notHigh, if_neg notLow]
  rfl

theorem escapedUnit?_of_low (low : IsLow unit) : escapedUnit? chars = some ('\uFFFD', rest) := by
  have notHigh : ¬ IsHigh unit := fun high => absurd low.1 (Nat.not_le_of_lt high.2)
  rw [IsHigh] at notHigh
  rw [IsLow] at low
  rw [escapedUnit?, read]
  dsimp only [bind, Option.bind]
  rw [if_neg notHigh, if_pos low]
  rfl

theorem escapedUnit?_of_high (high : IsHigh unit) (alone : ¬ LowAhead rest) :
    escapedUnit? chars = some ('\uFFFD', rest) := by
  rw [IsHigh] at high
  rw [escapedUnit?, read]
  dsimp only [bind, Option.bind]
  rw [if_pos high]
  split
  · rename_i more
    split
    · rename_i second after ahead
      rw [if_neg]
      · rfl
      · intro low
        rcases hexUnit?_eq_some_iff.mp ahead with ⟨written, spelled, rfl⟩
        exact alone ⟨written, second, after, spelled, low, rfl⟩
    · rfl
  · rfl

theorem escapedUnit?_of_pair {more after : List Char} {low : Nat} (high : IsHigh unit)
    (ahead : rest = '\\' :: 'u' :: more) (second : hexUnit? more = some (low, after))
    (isLow : IsLow low) :
    escapedUnit? chars =
      some (Char.ofNat (0x10000 + (unit - 0xD800) * 1024 + (low - 0xDC00)), after) := by
  rw [IsHigh] at high
  rw [IsLow] at isLow
  rw [escapedUnit?, read]
  dsimp only [bind, Option.bind]
  rw [if_pos high, ahead]
  simp only [second, if_pos isLow]
  rfl

end Unit

theorem escapedUnit?_eq_some_iff {chars rest : List Char} {char : Char} :
    escapedUnit? chars = some (char, rest) ↔
      ∃ written, SpellsEscape written char rest ∧ chars = written ++ rest := by
  constructor
  · intro found
    cases read : hexUnit? chars with
    | none =>
      rw [escapedUnit?, read] at found
      cases found
    | some taken =>
      rcases taken with ⟨unit, behind⟩
      rcases hexUnit?_eq_some_iff.mp read with ⟨written, spelled, shape⟩
      by_cases high : IsHigh unit
      · by_cases ahead : LowAhead behind
        · rcases ahead with ⟨second, low, after, spelledLow, isLow, behindShape⟩
          have readLow : hexUnit? (second ++ after) = some (low, after) :=
            hexUnit?_eq_some_iff.mpr ⟨second, spelledLow, rfl⟩
          rw [escapedUnit?_of_pair read high behindShape readLow isLow] at found
          rcases Prod.mk.inj (Option.some.inj found) with ⟨rfl, rfl⟩
          refine ⟨_, .pair spelled high spelledLow isLow, ?_⟩
          rw [shape, behindShape, List.append_assoc]
          rfl
        · rw [escapedUnit?_of_high read high ahead] at found
          cases found
          exact ⟨written, .loneHigh spelled high ahead, shape⟩
      · by_cases low : IsLow unit
        · rw [escapedUnit?_of_low read low] at found
          cases found
          exact ⟨written, .loneLow spelled low, shape⟩
        · rw [escapedUnit?_of_single read high low] at found
          cases found
          exact ⟨written, .unit spelled high low, shape⟩
  · rintro ⟨written, escape, rfl⟩
    cases escape with
    | unit spelled notHigh notLow =>
      exact escapedUnit?_of_single (hexUnit?_eq_some_iff.mpr ⟨_, spelled, rfl⟩) notHigh notLow
    | @pair first second _ _ _ spelled high spelledLow isLow =>
      refine escapedUnit?_of_pair (hexUnit?_eq_some_iff.mpr ⟨_, spelled, ?_⟩) high rfl
        (hexUnit?_eq_some_iff.mpr ⟨second, spelledLow, rfl⟩) isLow
      rw [List.append_assoc]
      rfl
    | loneHigh spelled high alone =>
      exact escapedUnit?_of_high (hexUnit?_eq_some_iff.mpr ⟨_, spelled, rfl⟩) high alone
    | loneLow spelled low =>
      exact escapedUnit?_of_low (hexUnit?_eq_some_iff.mpr ⟨_, spelled, rfl⟩) low

/-! ## Before the closing quote -/

theorem lowAhead_quote_iff {more rest : List Char} :
    LowAhead (more ++ '"' :: rest) ↔ LowAhead more := by
  constructor
  · rintro ⟨written, low, after, spelled, isLow, shape⟩
    have noQuote : '"' ∉ '\\' :: 'u' :: written := by
      rw [List.mem_cons, List.mem_cons, not_or, not_or]
      exact ⟨by decide, by decide, quote_not_mem_of_spellsUnit spelled⟩
    rw [← List.cons_append, ← List.cons_append, List.append_eq_append_iff] at shape
    rcases shape with ⟨inner, cut, quoted⟩ | ⟨inner, cut, -⟩
    -- The quote cannot stand among the characters of the escape.
    · cases inner with
      | nil =>
        rw [List.append_nil] at cut
        exact ⟨written, low, [], spelled, isLow, by rw [List.append_nil, cut]⟩
      | cons char inner =>
        cases quoted
        exact absurd (cut ▸ List.mem_append_right more List.mem_cons_self) noQuote
    · exact ⟨written, low, inner, spelled, isLow, cut⟩
  · rintro ⟨written, low, after, spelled, isLow, rfl⟩
    refine ⟨written, low, after ++ '"' :: rest, spelled, isLow, ?_⟩
    rw [← List.append_assoc]
    rfl

/-- What follows matters for the first half of a pair only. -/
theorem spellsEscape_before {written behind other : List Char} {char : Char}
    (escape : SpellsEscape written char behind) (ahead : LowAhead other → LowAhead behind) :
    SpellsEscape written char other := by
  cases escape with
  | unit spelled notHigh notLow => exact .unit spelled notHigh notLow
  | pair spelled high spelledLow isLow => exact .pair spelled high spelledLow isLow
  | loneHigh spelled high alone => exact .loneHigh spelled high fun isAhead => alone (ahead isAhead)
  | loneLow spelled low => exact .loneLow spelled low

theorem spellsChar_before {written behind other : List Char} {char : Char}
    (spelled : SpellsChar written char behind) (ahead : LowAhead other → LowAhead behind) :
    SpellsChar written char other := by
  cases spelled with
  | plain noQuote noBackslash visible => exact .plain noQuote noBackslash visible
  | letter meaning => exact .letter meaning
  | escape escape => exact .escape (spellsEscape_before escape ahead)

theorem spellsChar_quote_iff {written more rest : List Char} {char : Char} :
    SpellsChar written char (more ++ '"' :: rest) ↔ SpellsChar written char more :=
  ⟨fun spelled => spellsChar_before spelled lowAhead_quote_iff.mpr,
    fun spelled => spellsChar_before spelled lowAhead_quote_iff.mp⟩

/-! ## Characters -/

theorem length_of_spellsChar {written behind : List Char} {char : Char}
    (spelled : SpellsChar written char behind) : 1 ≤ written.length := by
  cases spelled with
  | plain | letter | escape => exact Nat.le_add_left 1 _

/-- One step reads one character. -/
theorem stringBody_of_spellsChar {written behind : List Char} {char : Char}
    (spelled : SpellsChar written char behind) (fuel : Nat) (read : List Char) :
    stringBody (fuel + 1) read (written ++ behind) = stringBody fuel (char :: read) behind := by
  cases spelled with
  | plain noQuote noBackslash visible =>
    rw [List.singleton_append, stringBody.eq_def]
    dsimp only
    rw [if_neg noQuote, if_neg noBackslash, if_neg (Nat.not_lt_of_le visible)]
  | @letter letter _ _ meaning =>
    rw [List.cons_append, List.singleton_append, stringBody.eq_def]
    dsimp only
    rw [if_neg (by decide), if_pos rfl]
    split
    · rename_i same
      cases same
      cases meaning
    · rename_i same
      cases same
      rw [meaning]
    · rename_i wrong
      cases wrong
  | @escape written _ _ escape =>
    have unit := escapedUnit?_eq_some_iff.mpr ⟨written, escape, rfl⟩
    rw [List.cons_append, List.cons_append, stringBody.eq_def]
    dsimp only
    rw [if_neg (by decide), if_pos rfl]
    simp only [unit]

/-- A step closes the string, reads a character, or finds neither. -/
theorem stringBody_cases (fuel : Nat) (read chars : List Char) :
    (∃ rest, chars = '"' :: rest) ∨
    (∃ written char behind, SpellsChar written char behind ∧ chars = written ++ behind) ∨
    stringBody (fuel + 1) read chars = .error .malformed := by
  cases chars with
  | nil => exact .inr (.inr rfl)
  | cons char rest =>
    rw [stringBody.eq_def]
    dsimp only
    split
    · rename_i quote
      exact .inl ⟨rest, by rw [quote]⟩
    · rename_i noQuote
      right
      split
      · rename_i backslash
        subst backslash
        split
        · rename_i digits
          split
          · rename_i unit after found
            rcases escapedUnit?_eq_some_iff.mp found with ⟨written, escape, rfl⟩
            exact .inl ⟨_, unit, after, .escape escape, rfl⟩
          · exact .inr rfl
        · rename_i letter after _
          split
          · rename_i plain meaning
            exact .inl ⟨_, plain, after, .letter meaning, rfl⟩
          · exact .inr rfl
        · exact .inr rfl
      · rename_i noBackslash
        split
        · exact .inr rfl
        · rename_i visible
          have large := Nat.le_of_not_lt visible
          exact .inl ⟨[char], char, rest, .plain noQuote noBackslash large, rfl⟩

/-! ## Strings -/

theorem stringBody_of_spellsChars {inside chars : List Char} (spelled : SpellsChars inside chars)
    {fuel : Nat} (enough : inside.length < fuel) (read rest : List Char) :
    stringBody fuel read (inside ++ '"' :: rest) =
      .ok (String.ofList (read.reverse ++ chars), rest) := by
  induction spelled generalizing fuel read with
  | nil =>
    rcases Nat.exists_eq_succ_of_ne_zero (Nat.ne_of_gt enough) with ⟨left, rfl⟩
    rw [List.append_nil]
    rfl
  | cons first later inductionHypothesis =>
    rcases Nat.exists_eq_succ_of_ne_zero (Nat.ne_zero_of_lt enough) with ⟨left, rfl⟩
    have long := length_of_spellsChar first
    rw [List.length_append] at enough
    rw [List.append_assoc, stringBody_of_spellsChar (spellsChar_quote_iff.mpr first),
      inductionHypothesis (by omega), List.reverse_cons, List.append_assoc, List.singleton_append]

theorem spellsChars_of_stringBody {fuel : Nat} {read chars rest : List Char} {text : String}
    (found : stringBody fuel read chars = .ok (text, rest)) :
    ∃ inside taken, SpellsChars inside taken ∧ chars = inside ++ '"' :: rest ∧
      text = String.ofList (read.reverse ++ taken) := by
  induction fuel generalizing read chars with
  | zero => cases found
  | succ fuel inductionHypothesis =>
    rcases stringBody_cases fuel read chars with
      ⟨behind, rfl⟩ | ⟨written, char, behind, spelled, rfl⟩ | failed
    · cases found
      exact ⟨[], [], .nil, rfl, by rw [List.append_nil]⟩
    · rw [stringBody_of_spellsChar spelled] at found
      rcases inductionHypothesis found with ⟨inside, taken, later, rfl, rfl⟩
      have first := spellsChar_quote_iff.mp spelled
      refine ⟨written ++ inside, char :: taken, .cons first later, ?_, ?_⟩
      · rw [List.append_assoc]
      · rw [List.reverse_cons, List.append_assoc, List.singleton_append]
    · rw [failed] at found
      cases found

theorem stringBody_ne_tooDeep (fuel : Nat) (read chars : List Char) :
    stringBody fuel read chars ≠ .error .tooDeep := by
  induction fuel generalizing read chars with
  | zero => rintro ⟨⟩
  | succ fuel inductionHypothesis =>
    rcases stringBody_cases fuel read chars with
      ⟨behind, rfl⟩ | ⟨written, char, behind, spelled, rfl⟩ | failed
    · rintro ⟨⟩
    · rw [stringBody_of_spellsChar spelled]
      exact inductionHypothesis _ _
    · rw [failed]
      rintro ⟨⟩

/-- The reader takes a string up to its closing quote, whatever follows. -/
theorem string_eq_ok_iff {chars rest : List Char} {text : String} :
    string chars = .ok (text, rest) ↔
      ∃ inside, SpellsChars inside text.toList ∧ chars = inside ++ '"' :: rest := by
  constructor
  · intro found
    rcases spellsChars_of_stringBody found with ⟨inside, taken, spelled, shape, rfl⟩
    refine ⟨inside, ?_, shape⟩
    rw [String.toList_ofList]
    exact spelled
  · rintro ⟨inside, spelled, rfl⟩
    have enough : inside.length < (inside ++ '"' :: rest).length + 1 := by
      rw [List.length_append]
      omega
    rw [string, stringBody_of_spellsChars spelled enough, List.reverse_nil, List.nil_append,
      String.ofList_toList]

theorem string_ne_tooDeep (chars : List Char) : string chars ≠ .error .tooDeep :=
  stringBody_ne_tooDeep _ _ _

end Reader
end Json
end ContainerFleet
