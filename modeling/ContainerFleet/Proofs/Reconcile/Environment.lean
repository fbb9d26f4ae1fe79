import ContainerFleet.Proofs.Table
import ContainerFleet.Proofs.Text.Pieces
import ContainerFleet.Reconcile.Env
import Mathlib.Data.List.Basic

/-!
# The desired environment

The environment of a new container is merged from the current and the desired one and then
written out.  The merged table finds the same values as the desired one, so the two have
the same entries, and in the order of their keys these are the same list: what is written
does not depend on the current environment.  Reading it back gives the desired environment
just if an equals sign stands in none of its keys, since the first one ends the key.
-/

namespace ContainerFleet
namespace Reconcile
namespace Env

/-! ## Merging -/

theorem get?_merge {α : Type} (current : Table String α) {desired : Table String α}
    (distinct : desired.keys.Nodup) (key : String) :
    (merge current desired).get? key = desired.get? key := by
  rw [merge, Table.get?_foldl_set distinct]
  cases found : desired.get? key with
  | some value => rfl
  | none =>
    -- What is not desired was taken out before.
    apply Table.get?_of_not_mem_keys
    change key ∉ (Table.within current desired.contains).keys
    rw [Table.keys_within, List.mem_filter, Table.contains, found]
    exact fun kept => Bool.false_ne_true kept.2

theorem merge_perm {α : Type} {current desired : Table String α} (distinctCurrent : current.keys.Nodup)
    (distinct : desired.keys.Nodup) : (merge current desired).Perm desired := by
  have distinctKept : (Table.within current desired.contains).keys.Nodup := by
    rw [Table.keys_within]
    exact distinctCurrent.filter _
  exact Table.perm_of_get? (Table.nodup_foldl_set distinctKept desired) distinct
    (get?_merge current distinct)

/-! ## Writing -/

/-- The entries in the order of their keys. -/
def ordered (env : Env) : Env :=
  env.mergeSort fun first second => !decide (second.1 < first.1)

theorem ordered_perm (env : Env) : (ordered env).Perm env :=
  List.mergeSort_perm env _

/-- Keys that all differ stand in strictly increasing order. -/
theorem ordered_pairwise {env : Env} (distinct : env.keys.Nodup) :
    (ordered env).Pairwise fun first second => first.1 < second.1 := by
  have sorted : (ordered env).Pairwise fun first second => (!decide (second.1 < first.1)) = true := by
    apply List.pairwise_mergeSort
    · intro one two three
      simp only [Bool.not_eq_true', decide_eq_false_iff_not, String.not_lt]
      exact String.le_trans
    · intro one two
      simp only [Bool.or_eq_true, Bool.not_eq_true', decide_eq_false_iff_not, String.not_lt]
      exact String.le_total one.1 two.1
  have different : (ordered env).Pairwise fun first second => first.1 ≠ second.1 :=
    List.pairwise_map.mp (((ordered_perm env).map Prod.fst).nodup_iff.mpr distinct)
  refine (sorted.and different).imp fun {first second} both => ?_
  have notGreater : ¬ second.1 < first.1 := by
    rw [← decide_eq_false_iff_not, ← Bool.not_eq_true']
    exact both.1
  exact Decidable.byContradiction fun notLess =>
    both.2 (String.le_antisymm (String.not_lt.mp notGreater) (String.not_lt.mp notLess))

/-- Only one order of the entries has increasing keys. -/
theorem ordered_of_perm {first second : Env} (distinct : second.keys.Nodup)
    (perm : first.Perm second) : ordered first = ordered second := by
  have distinctFirst : first.keys.Nodup := (perm.map Prod.fst).nodup_iff.mpr distinct
  refine List.Perm.eq_of_pairwise ?_ (ordered_pairwise distinctFirst) (ordered_pairwise distinct)
    ((ordered_perm first).trans (perm.trans (ordered_perm second).symm))
  intro one two _ _ less greater
  exact absurd greater (String.lt_asymm less)

/-- What is written depends on the desired environment only. -/
theorem toEntries_merge {current desired : Env} (distinctCurrent : current.keys.Nodup)
    (distinct : desired.keys.Nodup) : toEntries (merge current desired) = toEntries desired :=
  congrArg (List.map entryText) (ordered_of_perm distinct (merge_perm distinctCurrent distinct))

/-! ## Reading back -/

theorem toList_entryText (entry : String × String) :
    (entryText entry).toList = entry.1.toList ++ '=' :: entry.2.toList := by
  simp [entryText]

theorem parseEntry?_entryText {entry : String × String} (plain : '=' ∉ entry.1.toList) :
    parseEntry? (entryText entry) = some entry := by
  unfold parseEntry?
  rw [toList_entryText, Text.cutAt?_of_split plain]
  simp

/-- A key that was read has no equals sign. -/
theorem plain_of_parsed {text : String} {entry : String × String}
    (parsed : parseEntry? text = some entry) : '=' ∉ entry.1.toList := by
  unfold parseEntry? at parsed
  rw [Option.map_eq_some_iff] at parsed
  rcases parsed with ⟨⟨key, value⟩, cut, rfl⟩
  rw [String.toList_ofList]
  exact (Text.split_of_cutAt? cut).2

theorem plain_of_mem_keys {entries : List String} {key : String}
    (member : key ∈ (ofEntries entries).keys) : '=' ∉ key.toList := by
  rcases List.mem_map.mp (Table.mem_keys_ofEntries member) with ⟨entry, parsed, rfl⟩
  rcases List.mem_filterMap.mp parsed with ⟨text, -, read⟩
  exact plain_of_parsed read

theorem ofEntries_map_entryText {entries : Env} (distinct : entries.keys.Nodup)
    (plain : ∀ key ∈ entries.keys, '=' ∉ key.toList) :
    ofEntries (entries.map entryText) = entries := by
  have parsed : ∀ entry ∈ entries, parseEntry? (entryText entry) = some entry :=
    fun entry member => parseEntry?_entryText (plain entry.1 (List.mem_map_of_mem member))
  rw [ofEntries, List.filterMap_map]
  change Table.ofEntries (entries.filterMap fun entry => parseEntry? (entryText entry)) = entries
  rw [List.filterMap_congr parsed, List.filterMap_some, Table.ofEntries_of_nodup distinct]

/-- How the entries of a list spell an environment: one for each key, in the order of the
keys, and what is read from them is the environment where no key has an equals sign. -/
structure Spells (entries : List String) (env : Env) : Prop where
  ordered : ∃ ordered : Env, entries = ordered.map entryText ∧ ordered.Perm env ∧
    ordered.Pairwise fun first second => first.1 < second.1
  readBack : (∀ key, (ofEntries entries).get? key = env.get? key) ↔
    ∀ key ∈ env.keys, '=' ∉ key.toList

theorem spells_toEntries {env : Env} (distinct : env.keys.Nodup) : Spells (toEntries env) env where
  ordered := ⟨ordered env, rfl, ordered_perm env, ordered_pairwise distinct⟩
  readBack := by
    constructor
    · intro same key member
      rw [Table.mem_keys, ← same, ← Table.mem_keys] at member
      exact plain_of_mem_keys member
    · intro plain
      have perm := ordered_perm env
      have distinctOrdered : (ordered env).keys.Nodup := (perm.map Prod.fst).nodup_iff.mpr distinct
      have plainOrdered : ∀ key ∈ (ordered env).keys, '=' ∉ key.toList :=
        fun key member => plain key ((perm.map Prod.fst).mem_iff.mp member)
      change ∀ key, (ofEntries ((ordered env).map entryText)).get? key = _
      rw [ofEntries_map_entryText distinctOrdered plainOrdered]
      exact Table.get?_of_perm distinctOrdered perm

end Env
end Reconcile
end ContainerFleet
