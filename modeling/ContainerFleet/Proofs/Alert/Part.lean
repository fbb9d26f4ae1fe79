import ContainerFleet.Alert.Memory
import ContainerFleet.Proofs.Table

/-!
# The part of the memory that belongs to a host

All hosts share one memory and one list of notices.  Still each step of the
memory works for one host: it looks at the part of that host and changes nothing
else, and all that it has to tell is about that host.  Steps one after another for
the same host do so as well.  Of the steps for all hosts, a host is therefore
reached only by those that are made for it.
-/

namespace ContainerFleet
namespace Alert
namespace Memory

/-- A container is one of the host. -/
def ofHost (host : String) (key : String × String) : Bool :=
  key.1 == host

theorem ofHost_self (host id : String) : ofHost host (host, id) = true :=
  beq_self_eq_true host

theorem ofHost_of_ne {host other : String} (different : other ≠ host) (id : String) :
    ofHost other (host, id) = false :=
  beq_false_of_ne (Ne.symm different)

/-- What is remembered of a host. -/
def part (memory : Memory) (host : String) : Memory where
  running := memory.running.within (ofHost host)
  above := memory.above.filter fun key => key.1 == host

/-- What a step leaves and tells of a host. -/
def share (host : String) (outcome : Memory × List Notice) : Memory × List Notice :=
  (outcome.1.part host, outcome.2.filter fun notice => notice.host == host)

theorem notices_of_own {notice : Notice} {host : String} (about : notice.host = host) :
    [notice].filter (fun notice => notice.host == host) = [notice] := by
  simp [about]

theorem notices_of_foreign {notice : Notice} {host other : String} (about : notice.host = host)
    (different : other ≠ host) : [notice].filter (fun notice => notice.host == other) = [] := by
  simp [about, Ne.symm different]

theorem share_append (host : String) (first second : Memory × List Notice) :
    share host (second.1, first.2 ++ second.2) =
      ((share host second).1, (share host first).2 ++ (share host second).2) := by
  rw [share, List.filter_append]
  rfl

/-- A step that works for one host. -/
structure Confined (host : String) (step : Memory → Memory × List Notice) : Prop where
  /-- For its host the step needs to know no more than the part of that host. -/
  own (memory : Memory) : share host (step memory) = step (memory.part host)
  /-- To other hosts it does nothing. -/
  foreign (memory : Memory) {other : String} (different : other ≠ host) :
    share other (step memory) = (memory.part other, [])

namespace Confined

variable {host other : String} {step : Memory → Memory × List Notice}

theorem nothing (host : String) : Confined host fun memory => (memory, []) :=
  ⟨fun _ => rfl, fun _ _ _ => rfl⟩

theorem part_own (confined : Confined host step) (memory : Memory) :
    (step memory).1.part host = (step (memory.part host)).1 :=
  congrArg Prod.fst (confined.own memory)

theorem part_foreign (confined : Confined host step) (memory : Memory) (different : other ≠ host) :
    (step memory).1.part other = memory.part other :=
  congrArg Prod.fst (confined.foreign memory different)

/-- Before anything else a step for a host brings in what it does to the part of the host. -/
theorem share_own (confined : Confined host step) (memory : Memory)
    (rest : Memory × List Notice) :
    share host (rest.1, (step memory).2 ++ rest.2) =
      ((share host rest).1, (step (memory.part host)).2 ++ (share host rest).2) := by
  rw [share_append, confined.own memory]

/-- Other hosts have a share only in what comes after the step. -/
theorem share_foreign (confined : Confined host step) (memory : Memory) (different : other ≠ host)
    (rest : Memory × List Notice) :
    share other (rest.1, (step memory).2 ++ rest.2) = share other rest := by
  rw [share_append, confined.foreign memory different, List.nil_append]

theorem andThen {first second : Memory → Memory × List Notice} (before : Confined host first)
    (after : Confined host second) :
    Confined host fun memory =>
      ((second (first memory).1).1, (first memory).2 ++ (second (first memory).1).2) := by
  constructor
  · intro memory
    rw [before.share_own, after.own, before.part_own]
  · intro memory other different
    rw [before.share_foreign memory different, after.foreign _ different,
      before.part_foreign memory different]

end Confined

/-! ## The parts of what the steps do -/

section Parts

variable {host other : String}

theorem part_filter (memory : Memory) (keep : String × String × Measure → Bool) :
    part { memory with above := memory.above.filter keep } host =
      { memory.part host with above := (memory.part host).above.filter keep } := by
  rw [part, part]
  dsimp only
  rw [List.filter_filter, List.filter_filter]
  congr 1
  exact List.filter_congr fun key _ => Bool.and_comm _ _

theorem part_filter_of_kept (memory : Memory) {keep : String × String × Measure → Bool}
    (kept : ∀ key, key.1 = other → keep key = true) :
    part { memory with above := memory.above.filter keep } other = memory.part other := by
  rw [part, part]
  dsimp only
  rw [List.filter_filter]
  congr 1
  apply List.filter_congr
  intro key _
  by_cases here : key.1 = other
  · rw [kept key here, Bool.and_true]
  · rw [beq_false_of_ne here, Bool.false_and]

theorem part_rearm (memory : Memory) (host id : String) :
    (memory.rearm host id).part host = (memory.part host).rearm host id :=
  part_filter memory _

theorem part_rearm_of_ne (memory : Memory) (id : String) (different : other ≠ host) :
    (memory.rearm host id).part other = memory.part other := by
  apply part_filter_of_kept
  rintro ⟨name, known, measure⟩ rfl
  dsimp only
  rw [decide_eq_false different, Bool.false_and, Bool.not_false]

theorem part_note (memory : Memory) (id : String) (runs : Bool) :
    part { memory with running := memory.running.set (host, id) runs } host =
      { memory.part host with running := (memory.part host).running.set (host, id) runs } := by
  rw [part, part, Table.set_within _ _ (ofHost_self host id)]

theorem part_note_of_ne (memory : Memory) (id : String) (runs : Bool) (different : other ≠ host) :
    part { memory with running := memory.running.set (host, id) runs } other =
      memory.part other := by
  rw [part, part, Table.set_within_of_fails _ _ (ofHost_of_ne different id)]

theorem part_forget (memory : Memory) (host id : String) :
    (forget host memory id).part host = forget host (memory.part host) id := by
  rw [forget, part_rearm, forget, part, Table.erase_within]
  rfl

theorem part_forget_of_ne (memory : Memory) (id : String) (different : other ≠ host) :
    (forget host memory id).part other = memory.part other := by
  rw [forget, part_rearm_of_ne _ _ different, part,
    Table.erase_within_of_fails _ (ofHost_of_ne different id)]
  rfl

theorem part_foldl_forget (memory : Memory) (host : String) (ids : List String) :
    (ids.foldl (forget host) memory).part host = ids.foldl (forget host) (memory.part host) := by
  induction ids generalizing memory with
  | nil => rfl
  | cons id ids inductionHypothesis =>
    rw [List.foldl_cons, List.foldl_cons, inductionHypothesis, part_forget]

theorem part_foldl_forget_of_ne (memory : Memory) (ids : List String) (different : other ≠ host) :
    (ids.foldl (forget host) memory).part other = memory.part other := by
  induction ids generalizing memory with
  | nil => rfl
  | cons id ids inductionHypothesis =>
    rw [List.foldl_cons, inductionHypothesis, part_forget_of_ne memory id different]

/-- Which containers of a host have vanished is seen in its part. -/
theorem vanished_part (memory : Memory) (host : String) (containers : List Container) :
    (memory.part host).vanished host containers = memory.vanished host containers := by
  rw [vanished, vanished, part, Table.keys_within, List.filter_filter]
  congr 1
  apply List.filter_congr
  intro key _
  by_cases here : key.1 = host <;> simp [here, ofHost]

theorem part_raise (memory : Memory) (id : String) (measure : Measure) :
    part { memory with above := memory.above ++ [(host, id, measure)] } host =
      { memory.part host with above := (memory.part host).above ++ [(host, id, measure)] } := by
  simp [part]

theorem part_raise_of_ne (memory : Memory) (id : String) (measure : Measure)
    (different : other ≠ host) :
    part { memory with above := memory.above ++ [(host, id, measure)] } other =
      memory.part other := by
  simp [part, Ne.symm different]

theorem part_lower_of_ne (memory : Memory) (id : String) (measure : Measure)
    (different : other ≠ host) :
    part { memory with above := memory.above.filter (· ≠ (host, id, measure)) } other =
      memory.part other := by
  apply part_filter_of_kept
  rintro key rfl
  apply decide_eq_true
  rintro rfl
  exact different rfl

end Parts

/-! ## Every step works for one host -/

theorem observe_confined (host : String) (container : Container) :
    Confined host fun memory => memory.observe host container := by
  constructor
  · intro memory
    have previous : (memory.part host).running.get? (host, container.id) =
        memory.running.get? (host, container.id) :=
      Table.get?_within _ (ofHost_self host container.id)
    rw [observe, observe, previous, share]
    dsimp only
    congr 1
    · split
      · exact part_note memory container.id container.running
      · rw [part_rearm, part_note]
    · split
      · exact notices_of_own rfl
      · rfl
  · intro memory other different
    rw [observe, share]
    dsimp only
    congr 1
    · split
      · exact part_note_of_ne memory container.id container.running different
      · rw [part_rearm_of_ne _ _ different, part_note_of_ne _ _ _ different]
    · split
      · exact notices_of_foreign rfl different
      · rfl

theorem observeAll_confined (host : String) (containers : List Container) :
    Confined host fun memory => observeAll host memory containers := by
  induction containers with
  | nil => exact .nothing host
  | cons container later inductionHypothesis =>
    exact (observe_confined host container).andThen inductionHypothesis

theorem takeListing_confined (host : String) (containers : List Container) :
    Confined host fun memory => memory.takeListing host containers := by
  have observed := observeAll_confined host containers
  constructor
  · intro memory
    have told : (observeAll host memory containers).2.filter (fun notice => notice.host == host) =
        (observeAll host (memory.part host) containers).2 := congrArg Prod.snd (observed.own memory)
    rw [takeListing, takeListing, share]
    dsimp only
    rw [part_foldl_forget, ← vanished_part, observed.part_own, told]
  · intro memory other different
    rw [takeListing, share]
    dsimp only
    rw [part_foldl_forget_of_ne _ _ different]
    exact observed.foreign memory different

theorem compare_confined (settings : AlertSettings) (host name : String) (usage : Stats.Usage)
    (measure : Measure) :
    Confined host fun memory => memory.compare settings host name usage measure := by
  constructor
  · intro memory
    have known : (memory.part host).above.contains (host, usage.containerId, measure) =
        memory.above.contains (host, usage.containerId, measure) := by
      rw [Bool.eq_iff_iff, List.contains_iff_mem, List.contains_iff_mem, part, List.mem_filter]
      exact and_iff_left (beq_self_eq_true host)
    rw [compare, compare, known, share]
    split
    · exact Prod.ext (part_filter memory _) rfl
    · split
      · rfl
      · exact Prod.ext (part_raise memory usage.containerId measure) (notices_of_own rfl)
  · intro memory other different
    rw [compare, share]
    split
    · exact Prod.ext (part_lower_of_ne memory usage.containerId measure different) rfl
    · split
      · rfl
      · exact Prod.ext (part_raise_of_ne memory usage.containerId measure different)
          (notices_of_foreign rfl different)

theorem takeUsage_confined (settings : AlertSettings) (host : String)
    (containers : List Container) (usage : Stats.Usage) :
    Confined host fun memory => memory.takeUsage settings host containers usage :=
  (compare_confined settings host _ usage .cpu).andThen
    (compare_confined settings host _ usage .memory)

theorem takeSweep_confined (settings : AlertSettings) (host : String)
    (containers : List Container) (usages : List Stats.Usage) :
    Confined host fun memory => takeSweep settings host containers memory usages := by
  induction usages with
  | nil => exact .nothing host
  | cons usage later inductionHypothesis =>
    exact (takeUsage_confined settings host containers usage).andThen inductionHypothesis

/-! ## The steps for all hosts -/

/-- Of the listings of all hosts a host is reached by its own. -/
theorem share_takeListings (host : String) (memory : Memory)
    {listings : Table String (List Container)} (distinct : listings.keys.Nodup) :
    share host (memory.takeListings listings) =
      match listings.get? host with
      | some containers => (memory.part host).takeListing host containers
      | none => (memory.part host, []) := by
  induction listings generalizing memory with
  | nil => rfl
  | cons entry later inductionHypothesis =>
    rcases entry with ⟨name, containers⟩
    rcases List.nodup_cons.mp distinct with ⟨absent, laterDistinct⟩
    have step := takeListing_confined name containers
    have rest := inductionHypothesis (memory.takeListing name containers).1 laterDistinct
    rw [takeListings, Table.get?]
    dsimp only
    by_cases here : name = host
    · subst here
      rw [step.share_own, rest, Table.get?_of_not_mem_keys absent, if_pos rfl, step.part_own]
      exact Prod.ext rfl (List.append_nil _)
    · rw [step.share_foreign memory (Ne.symm here), rest, step.part_foreign memory (Ne.symm here),
        if_neg here]

/-- Of the figures of all hosts a host is reached by its own, if they could be had. -/
theorem share_takeSweeps (settings : AlertSettings) (host : String) (memory : Memory)
    {sweeps : Table String (List Container × Except Fault (List Stats.Usage))}
    (distinct : sweeps.keys.Nodup) :
    share host (takeSweeps settings memory sweeps) =
      match sweeps.get? host with
      | some (containers, .ok usages) =>
        takeSweep settings host containers (memory.part host) usages
      | _ => (memory.part host, []) := by
  induction sweeps generalizing memory with
  | nil => rfl
  | cons entry later inductionHypothesis =>
    rcases entry with ⟨name, containers, outcome⟩
    rcases List.nodup_cons.mp distinct with ⟨absent, laterDistinct⟩
    rw [Table.get?]
    cases outcome with
    | error fault =>
      rw [takeSweeps, inductionHypothesis memory laterDistinct]
      by_cases here : name = host
      · subst here
        rw [if_pos rfl, Table.get?_of_not_mem_keys absent]
      · rw [if_neg here]
    | ok usages =>
      have step := takeSweep_confined settings name containers usages
      have rest := inductionHypothesis (takeSweep settings name containers memory usages).1
        laterDistinct
      rw [takeSweeps]
      dsimp only
      by_cases here : name = host
      · subst here
        rw [step.share_own, rest, Table.get?_of_not_mem_keys absent, if_pos rfl, step.part_own]
        exact Prod.ext rfl (List.append_nil _)
      · rw [step.share_foreign memory (Ne.symm here), rest,
          step.part_foreign memory (Ne.symm here), if_neg here]

end Memory
end Alert
end ContainerFleet
