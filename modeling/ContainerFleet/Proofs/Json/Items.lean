import ContainerFleet.Proofs.Json.Numbers
import ContainerFleet.Proofs.Json.Strings

/-!
# Reading lists of items

Between an opening and a closing character stand items with commas and gaps between them.
`Reads` says what one reader owes to its phrase of the grammar; readers of items and of
members owe it if the readers inside them do.  What is read as a number must not go on
behind it, and gaps, commas and closing characters all see to that.
-/

namespace ContainerFleet
namespace Json
namespace Reader

open Digits

/-! ## Gaps -/

/-- The text begins with what is neither a gap nor the end of an array or object. -/
def Opens (chars : List Char) : Prop :=
  ∃ char more, chars = char :: more ∧ isGap char = false ∧ char ≠ ']' ∧ char ≠ '\x7d'

theorem Opens.append {chars : List Char} (opens : Opens chars) (rest : List Char) :
    Opens (chars ++ rest) := by
  rcases opens with ⟨char, more, rfl, first⟩
  exact ⟨char, more ++ rest, rfl, first⟩

theorem Opens.length_pos {chars : List Char} (opens : Opens chars) : 0 < chars.length := by
  rcases opens with ⟨char, more, rfl, -⟩
  exact Nat.succ_pos _

theorem skipGap_cons {char : Char} (visible : isGap char = false) (rest : List Char) :
    skipGap (char :: rest) = char :: rest := by
  rw [skipGap, List.dropWhile_cons_of_neg]
  rw [visible]
  exact Bool.false_ne_true

theorem skipGap_of_opens {chars : List Char} (opens : Opens chars) : skipGap chars = chars := by
  rcases opens with ⟨char, more, rfl, visible, -⟩
  exact skipGap_cons visible more

theorem skipGap_append {gap : List Char} (blank : AllGap gap) (rest : List Char) :
    skipGap (gap ++ rest) = skipGap rest :=
  List.dropWhile_append_of_pos blank

theorem exists_gap (chars : List Char) : ∃ gap, AllGap gap ∧ chars = gap ++ skipGap chars :=
  ⟨chars.takeWhile isGap, fun _ member => List.mem_takeWhile_imp member,
    List.takeWhile_append_dropWhile.symm⟩

theorem skipGap_eq_nil_iff {chars : List Char} : skipGap chars = [] ↔ AllGap chars := by
  rw [skipGap, List.dropWhile_eq_nil_iff]
  rfl

/-- A gap, and behind it nothing or a character that ends every number. -/
theorem ends_gap_append {gap rest : List Char} (blank : AllGap gap) (ends : Ends prolongs rest) :
    Ends prolongs (gap ++ rest) := by
  cases gap with
  | nil => exact ends
  | cons char gap =>
    have isBlank := blank char List.mem_cons_self
    rw [isGap, Bool.or_eq_true, Bool.or_eq_true, Bool.or_eq_true, decide_eq_true_eq,
      decide_eq_true_eq, decide_eq_true_eq, decide_eq_true_eq] at isBlank
    rw [List.cons_append, ends_cons]
    rcases isBlank with ((rfl | rfl) | rfl) | rfl
    all_goals rfl

/-- The characters that end arrays and objects. -/
def Closes (char : Char) : Prop :=
  char = ']' ∨ char = '\x7d'

theorem Closes.visible {char : Char} (closes : Closes char) : isGap char = false := by
  rcases closes with rfl | rfl <;> rfl

theorem Closes.ne_comma {char : Char} (closes : Closes char) : char ≠ ',' := by
  rcases closes with rfl | rfl <;> decide

theorem Closes.ends {char : Char} (closes : Closes char) (rest : List Char) :
    Ends prolongs (char :: rest) := by
  rw [ends_cons]
  rcases closes with rfl | rfl <;> rfl

/-! ## What a reader owes -/

variable {α : Type}

/-- A reader takes a phrase from the front of a text: only what the phrase spells, and all
of it where the text behind does not go on with a number.  A phrase, and a text that
nests too deeply, begins with a token. -/
structure Reads (read : List Char → Front α) (spells : List Char → α → Prop) : Prop where
  sound {chars rest : List Char} {found : α} :
    read chars = .ok (found, rest) → ∃ written, spells written found ∧ chars = written ++ rest
  complete {written rest : List Char} {found : α} :
    spells written found → Ends prolongs rest → read (written ++ rest) = .ok (found, rest)
  opens {written : List Char} {found : α} : spells written found → Opens written
  opens_tooDeep {chars : List Char} : read chars = .error .tooDeep → Opens chars

/-- What a reader takes, made into something else. -/
theorem map_eq_ok_iff {β : Type} {front : Front α} (into : α → β) {found : β} {rest : List Char} :
    (front.map fun taken => (into taken.1, taken.2)) = .ok (found, rest) ↔
      ∃ value, front = .ok (value, rest) ∧ into value = found := by
  rcases front with error | ⟨value, behind⟩
  · simp [Except.map]
  · simp only [Except.map, Except.ok.injEq, Prod.mk.injEq]
    constructor
    · rintro ⟨same, rfl⟩
      exact ⟨value, ⟨rfl, rfl⟩, same⟩
    · rintro ⟨other, ⟨rfl, rfl⟩, same⟩
      exact ⟨same, rfl⟩

theorem map_eq_error_iff {β : Type} {front : Front α} {into : α × List Char → β}
    {error : ReadError} : front.map into = .error error ↔ front = .error error := by
  cases front with
  | error other => simp [Except.map]
  | ok taken => simp [Except.map]

/-! ## Items -/

section Items

variable {item : List Char → Front α} {close : Char} {fuel : Nat} {read : List α}

/-- An item and the closing character end the items. -/
theorem itemsFrom_of_close {chars behind rest : List Char} {found : α}
    (itemRead : item chars = .ok (found, behind)) (closes : Closes close)
    (closed : skipGap behind = close :: rest) :
    itemsFrom item close (fuel + 1) read chars = .ok ((found :: read).reverse, rest) := by
  rw [itemsFrom, itemRead]
  dsimp only [bind, Except.bind]
  rw [closed]
  split
  · rename_i same
    exact absurd (List.cons.inj same).1 closes.ne_comma
  · rename_i same
    cases same
    rw [if_pos rfl]
    rfl
  · rename_i wrong
    cases wrong

/-- Behind an item and a comma more items follow. -/
theorem itemsFrom_of_comma {chars behind rest : List Char} {found : α}
    (itemRead : item chars = .ok (found, behind)) (comma : skipGap behind = ',' :: rest) :
    itemsFrom item close (fuel + 1) read chars =
      itemsFrom item close fuel (found :: read) (skipGap rest) := by
  rw [itemsFrom, itemRead]
  simp [bind, Except.bind, comma]

theorem itemsFrom_of_error {chars : List Char} {error : ReadError}
    (failed : item chars = .error error) :
    itemsFrom item close (fuel + 1) read chars = .error error := by
  rw [itemsFrom, failed]
  rfl

/-- An item fails, or it is the last one, or a comma follows, or neither. -/
theorem itemsFrom_cases (item : List Char → Front α) (close : Char) (fuel : Nat) (read : List α)
    (chars : List Char) :
    (∃ error, item chars = .error error) ∨
    (∃ found behind rest, item chars = .ok (found, behind) ∧ skipGap behind = ',' :: rest) ∨
    (∃ found behind rest, item chars = .ok (found, behind) ∧ skipGap behind = close :: rest) ∨
    itemsFrom item close (fuel + 1) read chars = .error .malformed := by
  rcases itemRead : item chars with error | ⟨found, behind⟩
  · exact .inl ⟨error, rfl⟩
  · right
    rw [itemsFrom, itemRead]
    dsimp only [bind, Except.bind]
    split
    · rename_i rest comma
      exact .inl ⟨found, behind, rest, rfl, comma⟩
    · rename_i char rest _ shape
      split
      · rename_i same
        subst same
        exact .inr (.inl ⟨found, behind, rest, rfl, shape⟩)
      · exact .inr (.inr rfl)
    · exact .inr (.inr rfl)

variable {spells : List Char → α → Prop} (reads : Reads item spells)

include reads

theorem opens_of_spellsItems {written : List Char} {items : List α}
    (spelled : SpellsItems spells written items) : Opens written := by
  cases spelled with
  | last first => exact (reads.opens first).append _
  | next first =>
    rw [List.append_assoc]
    exact (reads.opens first).append _

/-- An item was read up to a comma. -/
theorem exists_next_of_read {chars behind rest : List Char} {value : α}
    (itemRead : item chars = .ok (value, behind)) (comma : skipGap behind = ',' :: rest) :
    ∃ written gap wide, spells written value ∧ AllGap gap ∧ AllGap wide ∧
      chars = written ++ gap ++ ',' :: (wide ++ skipGap rest) := by
  rcases reads.sound itemRead with ⟨written, spelled, rfl⟩
  rcases exists_gap behind with ⟨gap, blank, behindShape⟩
  rcases exists_gap rest with ⟨wide, blankMore, restShape⟩
  refine ⟨written, gap, wide, spelled, blank, blankMore, ?_⟩
  rw [← restShape, List.append_assoc, ← comma, ← behindShape]

/-- An item, a comma and the gaps around it are read, and then the next item. -/
theorem itemsFrom_of_next {written gap wide rest : List Char} {value : α}
    (spelled : spells written value) (blank : AllGap gap) (blankMore : AllGap wide)
    (opens : Opens rest) :
    itemsFrom item close (fuel + 1) read (written ++ (gap ++ ',' :: (wide ++ rest))) =
      itemsFrom item close fuel (value :: read) rest := by
  have commaEnds : Ends prolongs (',' :: (wide ++ rest)) := ends_cons.mpr rfl
  have itemRead := reads.complete spelled (ends_gap_append blank commaEnds)
  have comma : skipGap (gap ++ ',' :: (wide ++ rest)) = ',' :: (wide ++ rest) := by
    rw [skipGap_append blank, skipGap_cons rfl]
  rw [itemsFrom_of_comma itemRead comma, skipGap_append blankMore, skipGap_of_opens opens]

theorem spellsItems_of_itemsFrom (closes : Closes close) {chars rest : List Char} {items : List α}
    (found : itemsFrom item close fuel read chars = .ok (items, rest)) :
    ∃ written later, SpellsItems spells written later ∧ chars = written ++ close :: rest ∧
      items = read.reverse ++ later := by
  induction fuel generalizing read chars with
  | zero => cases found
  | succ fuel inductionHypothesis =>
    rcases itemsFrom_cases item close fuel read chars with
      ⟨error, failed⟩ | ⟨value, behind, more, itemRead, comma⟩ |
        ⟨value, behind, more, itemRead, closed⟩ | failed
    · rw [itemsFrom_of_error failed] at found
      cases found
    · rw [itemsFrom_of_comma itemRead comma] at found
      rcases exists_next_of_read reads itemRead comma with
        ⟨written, gap, wide, spelled, blank, blankMore, rfl⟩
      rcases inductionHypothesis found with ⟨later, items, spelledLater, laterShape, rfl⟩
      refine ⟨_, value :: items, .next spelled blank blankMore spelledLater, ?_, ?_⟩
      · rw [laterShape]
        simp
      · rw [List.reverse_cons, List.append_assoc, List.singleton_append]
    · rw [itemsFrom_of_close itemRead closes closed] at found
      cases found
      rcases reads.sound itemRead with ⟨written, spelled, rfl⟩
      rcases exists_gap behind with ⟨gap, blank, behindShape⟩
      refine ⟨_, [value], .last spelled blank, ?_, List.reverse_cons⟩
      rw [List.append_assoc, ← closed, ← behindShape]
    · rw [failed] at found
      cases found

theorem itemsFrom_of_spellsItems (closes : Closes close) {written : List Char} {items : List α}
    (spelled : SpellsItems spells written items) (enough : written.length ≤ fuel)
    (rest : List Char) :
    itemsFrom item close fuel read (written ++ close :: rest) =
      .ok (read.reverse ++ items, rest) := by
  induction spelled generalizing fuel read with
  | @last written gap value first blank =>
    have long := (reads.opens first).length_pos
    rw [List.length_append] at enough
    rcases Nat.exists_eq_succ_of_ne_zero (show fuel ≠ 0 by omega) with ⟨left, rfl⟩
    have itemRead := reads.complete first (ends_gap_append blank (closes.ends rest))
    have closed : skipGap (gap ++ close :: rest) = close :: rest := by
      rw [skipGap_append blank, skipGap_cons closes.visible]
    rw [List.append_assoc, itemsFrom_of_close itemRead closes closed, List.reverse_cons]
  | @next written gap wide more value items first blank blankMore later inductionHypothesis =>
    rw [List.length_append, List.length_append, List.length_cons, List.length_append] at enough
    rcases Nat.exists_eq_succ_of_ne_zero (show fuel ≠ 0 by omega) with ⟨left, rfl⟩
    have nextOpens := (opens_of_spellsItems reads later).append (close :: rest)
    rw [List.append_assoc, List.append_assoc, List.cons_append, List.append_assoc,
      itemsFrom_of_next reads first blank blankMore nextOpens, inductionHypothesis (by omega),
      List.reverse_cons, List.append_assoc, List.singleton_append]

theorem beginsItems_of_itemsFrom (closes : Closes close) {chars : List Char}
    (failed : itemsFrom item close fuel read chars = .error .tooDeep) :
    ∃ begun rest, BeginsItems spells begun ∧ item rest = .error .tooDeep ∧
      chars = begun ++ rest := by
  induction fuel generalizing read chars with
  | zero => cases failed
  | succ fuel inductionHypothesis =>
    rcases itemsFrom_cases item close fuel read chars with
      ⟨error, itemFailed⟩ | ⟨value, behind, more, itemRead, comma⟩ |
        ⟨value, behind, more, itemRead, closed⟩ | other
    · rw [itemsFrom_of_error itemFailed] at failed
      exact ⟨[], chars, .none, itemFailed.trans (congrArg _ (Except.error.inj failed)), rfl⟩
    · rw [itemsFrom_of_comma itemRead comma] at failed
      rcases exists_next_of_read reads itemRead comma with
        ⟨written, gap, wide, spelled, blank, blankMore, rfl⟩
      rcases inductionHypothesis failed with ⟨begun, rest, begins, deep, shape⟩
      refine ⟨_, rest, .next spelled blank blankMore begins, deep, ?_⟩
      rw [shape]
      simp
    · rw [itemsFrom_of_close itemRead closes closed] at failed
      cases failed
    · rw [other] at failed
      cases failed

theorem opens_of_beginsItems {begun rest : List Char} (begins : BeginsItems spells begun)
    (opens : Opens rest) : Opens (begun ++ rest) := by
  cases begins with
  | none => exact opens
  | next first =>
    rw [List.append_assoc, List.append_assoc]
    exact (reads.opens first).append _

theorem itemsFrom_of_beginsItems {begun rest : List Char} (begins : BeginsItems spells begun)
    (deep : item rest = .error .tooDeep) (enough : begun.length < fuel) :
    itemsFrom item close fuel read (begun ++ rest) = .error .tooDeep := by
  induction begins generalizing fuel read with
  | none =>
    rcases Nat.exists_eq_succ_of_ne_zero (Nat.ne_of_gt enough) with ⟨left, rfl⟩
    exact itemsFrom_of_error deep
  | @next written gap wide more value first blank blankMore later inductionHypothesis =>
    rw [List.length_append, List.length_append, List.length_cons, List.length_append] at enough
    rcases Nat.exists_eq_succ_of_ne_zero (Nat.ne_zero_of_lt enough) with ⟨left, rfl⟩
    have nextOpens := opens_of_beginsItems reads later (reads.opens_tooDeep deep)
    rw [List.append_assoc, List.append_assoc, List.cons_append, List.append_assoc,
      itemsFrom_of_next reads first blank blankMore nextOpens, inductionHypothesis (by omega)]

omit reads in
/-- Where a token stands behind the gap, items are read from it. -/
theorem items_of_opens (closes : Closes close) {gap chars : List Char} (blank : AllGap gap)
    (opens : Opens chars) :
    items item close (gap ++ chars) = itemsFrom item close chars.length [] chars := by
  rw [items, skipGap_append blank, skipGap_of_opens opens]
  rcases opens with ⟨char, more, rfl, -, noBracket, noBrace⟩
  have other : char ≠ close := by
    rcases closes with rfl | rfl
    · exact noBracket
    · exact noBrace
  dsimp only
  rw [if_neg other, List.length_cons]

theorem items_eq_ok_iff (closes : Closes close) {chars rest : List Char} {found : List α} :
    items item close chars = .ok (found, rest) ↔
      ∃ inside, SpellsInside spells inside found ∧ chars = inside ++ close :: rest := by
  constructor
  · intro itemsRead
    rcases exists_gap chars with ⟨gap, blank, shape⟩
    rw [items] at itemsRead
    split at itemsRead
    · cases itemsRead
    · rename_i char more behind
      rw [behind] at shape
      split at itemsRead
      · rename_i same
        cases itemsRead
        exact ⟨gap, .empty blank, same ▸ shape⟩
      · rcases spellsItems_of_itemsFrom reads closes itemsRead with
          ⟨written, later, spelled, itemsShape, rfl⟩
        refine ⟨gap ++ written, .items blank spelled, ?_⟩
        rw [shape, itemsShape, List.append_assoc]
  · rintro ⟨inside, spelled, rfl⟩
    cases spelled with
    | empty blank =>
      rw [items, skipGap_append blank, skipGap_cons closes.visible]
      exact if_pos rfl
    | items blank spelled =>
      have opens := (opens_of_spellsItems reads spelled).append (close :: rest)
      rw [List.append_assoc, items_of_opens closes blank opens,
        itemsFrom_of_spellsItems reads closes spelled]
      · rfl
      · rw [List.length_append]
        exact Nat.le_add_right _ _

theorem items_eq_tooDeep_iff (closes : Closes close) {chars : List Char} :
    items item close chars = .error .tooDeep ↔
      ∃ gap begun rest, AllGap gap ∧ BeginsItems spells begun ∧ item rest = .error .tooDeep ∧
        chars = gap ++ (begun ++ rest) := by
  constructor
  · intro failed
    rcases exists_gap chars with ⟨gap, blank, shape⟩
    rw [items] at failed
    split at failed
    · cases failed
    · rename_i char more behind
      rw [behind] at shape
      split at failed
      · cases failed
      · rcases beginsItems_of_itemsFrom reads closes failed with
          ⟨begun, rest, begins, deep, itemsShape⟩
        exact ⟨gap, begun, rest, blank, begins, deep, itemsShape ▸ shape⟩
  · rintro ⟨gap, begun, rest, blank, begins, deep, rfl⟩
    -- A bracket is left over, so the fuel outlasts the items before it.
    have restOpens := reads.opens_tooDeep deep
    have filled := restOpens.length_pos
    rw [items_of_opens closes blank (opens_of_beginsItems reads begins restOpens)]
    refine itemsFrom_of_beginsItems reads begins deep ?_
    rw [List.length_append]
    omega

end Items

/-! ## Members -/

/-- Behind a key and a colon stands the value of a member. -/
theorem entry_of_spellsKey {read : List Char → Front Json} {front rest : List Char} {key : String}
    (spelled : SpellsKey front key) (opens : Opens rest) :
    entry read (front ++ rest) = (read rest).map fun found => ((key, found.1), found.2) := by
  rcases spelled with ⟨name, gap, wide, ⟨inside, isKey, rfl⟩, blank, blankMore, rfl⟩
  have keyRead : string (inside ++ '"' :: (gap ++ ':' :: (wide ++ rest))) =
      .ok (key, gap ++ ':' :: (wide ++ rest)) := string_eq_ok_iff.mpr ⟨inside, isKey, rfl⟩
  have shape : '"' :: (inside ++ ['"']) ++ gap ++ ':' :: wide ++ rest =
      '"' :: (inside ++ '"' :: (gap ++ ':' :: (wide ++ rest))) := by
    simp
  rw [shape, entry, keyRead]
  dsimp only [bind, Except.bind]
  rw [skipGap_append blank, skipGap_cons rfl]
  simp only [skipGap_append blankMore, skipGap_of_opens opens]
  rcases read rest with _ | _ <;> rfl

/-- Without a key at the front there is no member, however values are read. -/
theorem entry_cases (chars : List Char) :
    (∃ front key rest, SpellsKey front key ∧ chars = front ++ rest ∧
      ∀ read, entry read chars = (read rest).map fun found => ((key, found.1), found.2)) ∨
    ∀ read, entry read chars = .error .malformed := by
  unfold entry
  split
  · rename_i behind
    rcases keyRead : string behind with error | ⟨key, rest⟩
    · cases error with
      | malformed => exact .inr fun _ => rfl
      | tooDeep => exact absurd keyRead (string_ne_tooDeep behind)
    · dsimp only [bind, Except.bind]
      split
      · rename_i more colon
        rcases string_eq_ok_iff.mp keyRead with ⟨inside, isKey, rfl⟩
        rcases exists_gap rest with ⟨gap, blank, restShape⟩
        rcases exists_gap more with ⟨wide, blankMore, moreShape⟩
        refine .inl ⟨_, key, skipGap more,
          ⟨_, gap, wide, ⟨inside, isKey, rfl⟩, blank, blankMore, rfl⟩, ?_, fun read => ?_⟩
        · rw [restShape, colon]
          nth_rewrite 1 [moreShape]
          simp
        · rcases read (skipGap more) with _ | _ <;> rfl
      · exact .inr fun _ => rfl
  · exact .inr fun _ => rfl

theorem opens_of_spellsString {written : List Char} {text : String}
    (spelled : SpellsString written text) : Opens written := by
  rcases spelled with ⟨inside, -, rfl⟩
  exact ⟨'"', _, rfl, rfl, by decide, by decide⟩

theorem opens_of_spellsKey {front : List Char} {key : String} (spelled : SpellsKey front key)
    (rest : List Char) : Opens (front ++ rest) := by
  rcases spelled with ⟨name, gap, wide, isName, -, -, rfl⟩
  rw [List.append_assoc, List.append_assoc]
  exact (opens_of_spellsString isName).append _

section Members

variable {read : List Char → Front Json} {spells : List Char → Json → Prop}
  (reads : Reads read spells)

include reads

theorem entry_eq_tooDeep_iff {chars : List Char} :
    entry read chars = .error .tooDeep ↔
      ∃ front key rest, SpellsKey front key ∧ read rest = .error .tooDeep ∧
        chars = front ++ rest := by
  constructor
  · intro failed
    rcases entry_cases chars with ⟨front, key, rest, isKey, shape, entryRead⟩ | other
    · rw [entryRead read, map_eq_error_iff] at failed
      exact ⟨front, key, rest, isKey, failed, shape⟩
    · rw [other read] at failed
      cases failed
  · rintro ⟨front, key, rest, isKey, deep, rfl⟩
    rw [entry_of_spellsKey isKey (reads.opens_tooDeep deep), map_eq_error_iff]
    exact deep

theorem reads_entry : Reads (entry read) (SpellsMember spells) where
  sound {chars rest found} entryFound := by
    rcases entry_cases chars with ⟨front, key, behind, isKey, shape, entryRead⟩ | other
    · rw [entryRead read, map_eq_ok_iff fun value => (key, value)] at entryFound
      rcases entryFound with ⟨value, valueRead, rfl⟩
      rcases reads.sound valueRead with ⟨back, isValue, rfl⟩
      exact ⟨_, ⟨front, back, isKey, isValue, rfl⟩, by rw [shape, List.append_assoc]⟩
    · rw [other read] at entryFound
      cases entryFound
  complete {written rest found} spelled ends := by
    rcases spelled with ⟨front, back, isKey, isValue, rfl⟩
    have opens := (reads.opens isValue).append rest
    rw [List.append_assoc, entry_of_spellsKey isKey opens, reads.complete isValue ends]
    rfl
  opens {written found} spelled := by
    rcases spelled with ⟨front, back, isKey, -, rfl⟩
    exact opens_of_spellsKey isKey back
  opens_tooDeep {chars} failed := by
    rcases (entry_eq_tooDeep_iff reads).mp failed with ⟨front, key, rest, isKey, -, rfl⟩
    exact opens_of_spellsKey isKey rest

end Members

end Reader
end Json
end ContainerFleet
