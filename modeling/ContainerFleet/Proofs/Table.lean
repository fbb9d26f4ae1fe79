import ContainerFleet.Table

/-!
# Keys of tables

A key is among the keys of a table just if the table has a value for it.  A test
on keys cuts out the part of a table whose keys pass it: look-ups of such keys and
changes under them stay within the part, and no other change touches it.  Tables whose
keys come once each have the same entries just if the same values are found in them.
-/

namespace ContainerFleet
namespace Table

variable {κ α : Type} [DecidableEq κ]

theorem mem_keys (table : Table κ α) (key : κ) :
    key ∈ table.keys ↔ (table.get? key).isSome = true := by
  induction table with
  | nil => simp [keys]
  | cons entry later inductionHypothesis =>
    rcases entry with ⟨present, value⟩
    rw [keys, List.map_cons, ← keys, List.mem_cons, get?]
    by_cases same : present = key
    · simp [same]
    · rw [if_neg same, inductionHypothesis]
      exact or_iff_right (Ne.symm same)

theorem get?_of_not_mem_keys {table : Table κ α} {key : κ} (absent : key ∉ table.keys) :
    table.get? key = none := by
  rw [mem_keys, Bool.not_eq_true, Option.isSome_eq_false_iff, Option.isNone_iff_eq_none] at absent
  exact absent

/-- Where no key comes twice, the values found are those of the entries. -/
theorem get?_eq_some_iff {table : Table κ α} (distinct : table.keys.Nodup) {key : κ} {value : α} :
    table.get? key = some value ↔ (key, value) ∈ table := by
  induction table with
  | nil => simp
  | cons entry later inductionHypothesis =>
    rcases entry with ⟨present, first⟩
    rcases List.nodup_cons.mp distinct with ⟨absent, laterDistinct⟩
    rw [get?, List.mem_cons, Prod.mk.injEq]
    by_cases same : present = key
    · subst same
      have notLater : (present, value) ∉ later := fun member =>
        absent (List.mem_map.mpr ⟨_, member, rfl⟩)
      simp [notLater, eq_comm]
    · simp [same, Ne.symm same, inductionHypothesis laterDistinct]

/-- A key that is not in the table comes behind all others. -/
theorem set_of_not_mem {table : Table κ α} {key : κ} (value : α) (absent : key ∉ table.keys) :
    table.set key value = table ++ [(key, value)] := by
  induction table with
  | nil => rfl
  | cons entry later inductionHypothesis =>
    rcases entry with ⟨present, first⟩
    rw [keys, List.map_cons, List.mem_cons, not_or] at absent
    rw [set, if_neg (Ne.symm absent.1), inductionHypothesis absent.2, List.cons_append]

theorem foldl_set_of_nodup {table entries : Table κ α} (distinct : (keys (table ++ entries)).Nodup) :
    entries.foldl (fun table entry => table.set entry.1 entry.2) table = table ++ entries := by
  induction entries generalizing table with
  | nil => exact (List.append_nil table).symm
  | cons entry entries inductionHypothesis =>
    have joined : table ++ [entry] ++ entries = table ++ entry :: entries :=
      List.append_assoc table [entry] entries
    have absent : entry.1 ∉ table.keys := by
      rw [keys, List.map_append, List.nodup_append] at distinct
      exact fun member => distinct.2.2 _ member _ List.mem_cons_self rfl
    rw [List.foldl_cons, set_of_not_mem entry.2 absent, inductionHypothesis (joined ▸ distinct),
      joined]

/-- Entries under keys that are all different make up the table as they stand. -/
theorem ofEntries_of_nodup {entries : Table κ α} (distinct : entries.keys.Nodup) :
    ofEntries entries = entries :=
  foldl_set_of_nodup distinct

theorem nodup_set {table : Table κ α} (distinct : table.keys.Nodup) (key : κ) (value : α) :
    (table.set key value).keys.Nodup := by
  cases present : table.contains key with
  | true =>
    rw [keys_set_of_contains table key value present]
    exact distinct
  | false =>
    rw [keys_set_of_not_contains table key value present]
    have absent : key ∉ table.keys := by
      rw [mem_keys, ← contains, present]
      exact Bool.false_ne_true
    refine List.nodup_append.mpr ⟨distinct, List.pairwise_singleton _ _, ?_⟩
    rintro other member _ last rfl
    exact absent (List.mem_singleton.mp last ▸ member)

/-- Setting never makes a key come twice. -/
theorem nodup_foldl_set {table : Table κ α} (distinct : table.keys.Nodup)
    (entries : List (κ × α)) :
    (entries.foldl (fun table entry => table.set entry.1 entry.2) table).keys.Nodup := by
  induction entries generalizing table with
  | nil => exact distinct
  | cons entry later inductionHypothesis =>
    exact inductionHypothesis (nodup_set distinct entry.1 entry.2)

theorem mem_keys_set {table : Table κ α} {key other : κ} {value : α}
    (member : other ∈ (table.set key value).keys) : other = key ∨ other ∈ table.keys := by
  rw [mem_keys, get?_set] at member
  by_cases same : key = other
  · exact .inl same.symm
  · rw [if_neg same, ← mem_keys] at member
    exact .inr member

/-- Setting brings in no other keys than those set. -/
theorem mem_keys_foldl_set {table : Table κ α} {entries : List (κ × α)} {key : κ}
    (member : key ∈ (entries.foldl (fun table entry => table.set entry.1 entry.2) table).keys) :
    key ∈ table.keys ∨ key ∈ entries.map Prod.fst := by
  induction entries generalizing table with
  | nil => exact .inl member
  | cons entry later inductionHypothesis =>
    rcases inductionHypothesis member with before | inLater
    · rcases mem_keys_set before with rfl | old
      · exact .inr List.mem_cons_self
      · exact .inl old
    · exact .inr (List.mem_cons_of_mem _ inLater)

theorem mem_keys_ofEntries {entries : List (κ × α)} {key : κ}
    (member : key ∈ (ofEntries entries).keys) : key ∈ entries.map Prod.fst :=
  (mem_keys_foldl_set member).resolve_left List.not_mem_nil

theorem nodup_ofEntries (entries : List (κ × α)) : (ofEntries entries).keys.Nodup :=
  nodup_foldl_set (by exact List.nodup_nil) entries

/-- Entries under different keys come before what the table had under these keys. -/
theorem get?_foldl_set {entries : Table κ α} (distinct : entries.keys.Nodup) (table : Table κ α)
    (key : κ) :
    (entries.foldl (fun table entry => table.set entry.1 entry.2) table).get? key =
      (entries.get? key).or (table.get? key) := by
  induction entries generalizing table with
  | nil => rfl
  | cons entry later inductionHypothesis =>
    rcases entry with ⟨present, value⟩
    rcases List.nodup_cons.mp distinct with ⟨absent, laterDistinct⟩
    rw [List.foldl_cons, inductionHypothesis laterDistinct, get?_set, get?]
    by_cases same : present = key
    · subst same
      rw [get?_of_not_mem_keys absent, if_pos rfl, if_pos rfl]
      rfl
    · rw [if_neg same, if_neg same]

omit [DecidableEq κ] in
theorem nodup_of_keys {table : Table κ α} (distinct : table.keys.Nodup) : table.Nodup :=
  List.Pairwise.of_map Prod.fst (fun _ _ different same => different (congrArg Prod.fst same))
    distinct

/-- Tables in which the same values are found have the same entries. -/
theorem perm_of_get? {first second : Table κ α} (distinctFirst : first.keys.Nodup)
    (distinctSecond : second.keys.Nodup) (same : ∀ key, first.get? key = second.get? key) :
    first.Perm second := by
  rw [List.perm_ext_iff_of_nodup (nodup_of_keys distinctFirst) (nodup_of_keys distinctSecond)]
  rintro ⟨key, value⟩
  rw [← get?_eq_some_iff distinctFirst, ← get?_eq_some_iff distinctSecond, same]

theorem get?_of_perm {first second : Table κ α} (distinct : first.keys.Nodup)
    (perm : first.Perm second) (key : κ) : first.get? key = second.get? key := by
  have distinctSecond : second.keys.Nodup := (perm.map Prod.fst).nodup_iff.mp distinct
  apply Option.ext
  intro value
  rw [get?_eq_some_iff distinct, get?_eq_some_iff distinctSecond, perm.mem_iff]

/-- The entries whose keys pass a test. -/
def within (table : Table κ α) (test : κ → Bool) : Table κ α :=
  table.filter fun entry => test entry.1

omit [DecidableEq κ] in
theorem within_cons (entry : κ × α) (later : Table κ α) (test : κ → Bool) :
    within (entry :: later) test =
      if test entry.1 then entry :: later.within test else later.within test :=
  List.filter_cons

variable {test : κ → Bool} {key : κ}

theorem get?_within (table : Table κ α) (passes : test key = true) :
    (table.within test).get? key = table.get? key := by
  induction table with
  | nil => rfl
  | cons entry later inductionHypothesis =>
    rcases entry with ⟨present, value⟩
    rw [within_cons]
    by_cases same : present = key
    · subst same
      rw [if_pos passes, get?, get?, if_pos rfl, if_pos rfl]
    · have later_decides : ∀ rest : Table κ α,
          get? ((present, value) :: rest) key = rest.get? key :=
        fun _ => if_neg same
      rw [later_decides]
      split
      · rw [later_decides, inductionHypothesis]
      · exact inductionHypothesis

theorem set_within (table : Table κ α) (value : α) (passes : test key = true) :
    (table.set key value).within test = (table.within test).set key value := by
  induction table with
  | nil => exact List.filter_cons_of_pos passes
  | cons entry later inductionHypothesis =>
    rcases entry with ⟨present, old⟩
    rw [set, within_cons]
    by_cases same : present = key
    · subst same
      rw [if_pos rfl, within_cons, if_pos passes, if_pos passes, set, if_pos rfl]
    · rw [if_neg same, within_cons, inductionHypothesis]
      split
      · rw [set, if_neg same]
      · rfl

theorem set_within_of_fails (table : Table κ α) (value : α) (fails : test key = false) :
    (table.set key value).within test = table.within test := by
  have dropped : ¬ test key = true := Bool.eq_false_iff.mp fails
  induction table with
  | nil => exact List.filter_cons_of_neg dropped
  | cons entry later inductionHypothesis =>
    rcases entry with ⟨present, old⟩
    rw [set, within_cons]
    by_cases same : present = key
    · subst same
      rw [if_pos rfl, within_cons, if_neg dropped, if_neg dropped]
    · rw [if_neg same, within_cons, inductionHypothesis]

theorem erase_within (table : Table κ α) (key : κ) :
    (table.erase key).within test = (table.within test).erase key := by
  rw [erase, erase, within, within, List.filter_filter, List.filter_filter]
  exact List.filter_congr fun entry _ => Bool.and_comm _ _

theorem erase_within_of_fails (table : Table κ α) (fails : test key = false) :
    (table.erase key).within test = table.within test := by
  rw [erase, within, within, List.filter_filter]
  apply List.filter_congr
  intro entry _
  by_cases same : entry.1 = key
  · rw [same, fails, Bool.false_and]
  · rw [decide_eq_true same, Bool.and_true]

omit [DecidableEq κ] in
theorem keys_within (table : Table κ α) (test : κ → Bool) :
    (table.within test).keys = table.keys.filter test := by
  rw [within, keys, keys, List.filter_map]
  rfl

end Table
end ContainerFleet
