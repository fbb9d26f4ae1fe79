import ContainerFleet.Alert.Memory
import ContainerFleet.Proofs.Table

/-!
# What a listing leaves in the memory

A listing of a host puts what it shows in the place of everything that was
remembered about the containers of that host, and re-arms the figures of those
that it shows stopped or no longer has.  Other hosts are left as they were.
-/

namespace ContainerFleet
namespace Alert

/-- Whether a listing shows a container running; of several entries under one id
the last counts. -/
def stateIn (containers : List Container) (id : String) : Option Bool :=
  (containers.reverse.find? fun container => container.id = id).map Container.running

/-- A listing shows the container stopped, or it does not have it although the
one before it had. -/
def resets (known : Bool) (containers : List Container) (id : String) : Bool :=
  (containers.any fun container => container.id = id && !container.running) ||
    (known && !(containers.any fun container => container.id = id))

theorem stateIn_cons (container : Container) (later : List Container) (id : String) :
    stateIn (container :: later) id =
      (stateIn later id).or (if container.id = id then some container.running else none) := by
  rw [stateIn, stateIn, List.reverse_cons, List.find?_append, Option.map_or]
  by_cases same : container.id = id <;> simp [same]

theorem isSome_stateIn (containers : List Container) (id : String) :
    (stateIn containers id).isSome = containers.any fun container => container.id = id := by
  induction containers with
  | nil => rfl
  | cons container later inductionHypothesis =>
    rw [stateIn_cons, Option.isSome_or, inductionHypothesis, List.any_cons, Bool.or_comm]
    by_cases same : container.id = id <;> simp [same]

namespace Memory

variable {host id other otherId : String} {measure : Measure}

theorem mem_rearm (memory : Memory) :
    (other, otherId, measure) ∈ (memory.rearm host id).above ↔
      (other, otherId, measure) ∈ memory.above ∧ ¬ (other = host ∧ otherId = id) := by
  rw [rearm, List.mem_filter]
  simp only [Bool.not_eq_true', Bool.and_eq_false_imp, decide_eq_true_eq, decide_eq_false_iff_not,
    not_and]

/-! ## One listed container -/

theorem observe_running (memory : Memory) (host : String) (container : Container) :
    (memory.observe host container).1.running.get? (other, otherId) =
      if host = other ∧ container.id = otherId then some container.running
      else memory.running.get? (other, otherId) := by
  have noted : (memory.observe host container).1.running =
      memory.running.set (host, container.id) container.running := by
    rw [observe]
    dsimp only
    split <;> rfl
  rw [noted, Table.get?_set]
  simp only [Prod.mk.injEq]

theorem observe_above (memory : Memory) (host : String) (container : Container) :
    (other, otherId, measure) ∈ (memory.observe host container).1.above ↔
      (other, otherId, measure) ∈ memory.above ∧
        ¬ (other = host ∧ otherId = container.id ∧ container.running = false) := by
  rw [observe]
  cases running : container.running with
  | true => simp
  | false =>
    simp only [Bool.false_eq_true, if_false, mem_rearm, and_true]

/-! ## A whole listing -/

theorem observeAll_running (memory : Memory) (host : String) (containers : List Container) :
    (observeAll host memory containers).1.running.get? (other, otherId) =
      if host = other then (stateIn containers otherId).or (memory.running.get? (other, otherId))
      else memory.running.get? (other, otherId) := by
  induction containers generalizing memory with
  | nil => simp [observeAll, stateIn]
  | cons container later inductionHypothesis =>
    rw [observeAll]
    dsimp only
    rw [inductionHypothesis, observe_running, stateIn_cons]
    by_cases here : host = other
    · by_cases same : container.id = otherId
      · simp [here, same]
      · simp [here, same]
    · simp [here]

theorem observeAll_above (memory : Memory) (host : String) (containers : List Container) :
    (other, otherId, measure) ∈ (observeAll host memory containers).1.above ↔
      (other, otherId, measure) ∈ memory.above ∧
        ¬ (other = host ∧ (containers.any fun container =>
          container.id = otherId && !container.running) = true) := by
  induction containers generalizing memory with
  | nil => simp [observeAll]
  | cons container later inductionHypothesis =>
    rw [observeAll]
    dsimp only
    rw [inductionHypothesis, observe_above, List.any_cons, and_assoc]
    apply and_congr_right
    intro _
    by_cases here : other = host
    · by_cases same : container.id = otherId
      · cases container.running <;> simp [here, same]
      · simp [here, same, Ne.symm same]
    · simp [here]

theorem mem_vanished (memory : Memory) (host : String) (containers : List Container) :
    id ∈ memory.vanished host containers ↔
      (memory.running.get? (host, id)).isSome = true ∧
        (containers.any fun container => container.id = id) = false := by
  rw [vanished, List.mem_map, ← Table.mem_keys]
  constructor
  · rintro ⟨⟨keyHost, keyId⟩, member, rfl⟩
    rcases List.mem_filter.mp member with ⟨kept, absent⟩
    rw [Bool.and_eq_true, beq_iff_eq, Bool.not_eq_true'] at absent
    rcases absent with ⟨rfl, absent⟩
    exact ⟨kept, absent⟩
  · rintro ⟨kept, absent⟩
    refine ⟨(host, id), List.mem_filter.mpr ⟨kept, ?_⟩, rfl⟩
    rw [Bool.and_eq_true, beq_iff_eq, Bool.not_eq_true']
    exact ⟨rfl, absent⟩

theorem forget_running (memory : Memory) (host id : String) :
    (forget host memory id).running.get? (other, otherId) =
      if host = other ∧ id = otherId then none else memory.running.get? (other, otherId) := by
  have erased : (forget host memory id).running = memory.running.erase (host, id) := rfl
  rw [erased, Table.get?_erase]
  simp only [Prod.mk.injEq]

theorem forget_above (memory : Memory) (host id : String) :
    (other, otherId, measure) ∈ (forget host memory id).above ↔
      (other, otherId, measure) ∈ memory.above ∧ ¬ (other = host ∧ otherId = id) :=
  mem_rearm { memory with running := memory.running.erase (host, id) }

theorem foldl_forget_running (memory : Memory) (host : String) (ids : List String) :
    (ids.foldl (forget host) memory).running.get? (other, otherId) =
      if host = other ∧ otherId ∈ ids then none else memory.running.get? (other, otherId) := by
  induction ids generalizing memory with
  | nil => simp
  | cons id ids inductionHypothesis =>
    rw [List.foldl_cons, inductionHypothesis, forget_running]
    by_cases here : host = other
    · by_cases same : id = otherId
      · simp [here, same]
      · simp [here, same, Ne.symm same]
    · simp [here]

theorem foldl_forget_above (memory : Memory) (host : String) (ids : List String) :
    (other, otherId, measure) ∈ (ids.foldl (forget host) memory).above ↔
      (other, otherId, measure) ∈ memory.above ∧ ¬ (other = host ∧ otherId ∈ ids) := by
  induction ids generalizing memory with
  | nil => simp
  | cons id ids inductionHypothesis =>
    rw [List.foldl_cons, inductionHypothesis, forget_above, List.mem_cons, and_assoc]
    apply and_congr_right
    intro _
    by_cases here : other = host <;> simp [here]

/-- After its listing a host is remembered as the listing shows it. -/
theorem takeListing_running (memory : Memory) (host : String) (containers : List Container) :
    (memory.takeListing host containers).1.running.get? (other, otherId) =
      if host = other then stateIn containers otherId
      else memory.running.get? (other, otherId) := by
  rw [takeListing]
  dsimp only
  rw [foldl_forget_running]
  simp only [mem_vanished, observeAll_running]
  by_cases here : host = other
  · subst here
    rw [← isSome_stateIn]
    cases stateIn containers otherId <;>
      cases memory.running.get? (host, otherId) <;> simp
  · simp [here]

/-- A listing re-arms the figures of the containers that it resets. -/
theorem takeListing_above (memory : Memory) (host : String) (containers : List Container) :
    (other, otherId, measure) ∈ (memory.takeListing host containers).1.above ↔
      (other, otherId, measure) ∈ memory.above ∧
        ¬ (other = host ∧
          resets (memory.running.get? (host, otherId)).isSome containers otherId = true) := by
  rw [takeListing]
  dsimp only
  rw [foldl_forget_above, mem_vanished, observeAll_above, observeAll_running, and_assoc]
  apply and_congr_right
  intro _
  by_cases here : other = host
  · subst here
    rw [← isSome_stateIn, resets, ← isSome_stateIn]
    cases stateIn containers otherId <;>
      cases memory.running.get? (other, otherId) <;> simp
  · simp [here]

/-! ## The listings of all hosts -/

theorem takeListings_running (memory : Memory) {listings : Table String (List Container)}
    (distinct : listings.keys.Nodup) :
    (takeListings memory listings).1.running.get? (other, otherId) =
      match listings.get? other with
      | some containers => stateIn containers otherId
      | none => memory.running.get? (other, otherId) := by
  induction listings generalizing memory with
  | nil => rfl
  | cons entry later inductionHypothesis =>
    rcases entry with ⟨host, containers⟩
    rcases List.nodup_cons.mp distinct with ⟨absent, laterDistinct⟩
    rw [takeListings]
    dsimp only
    rw [inductionHypothesis _ laterDistinct, takeListing_running, Table.get?]
    by_cases here : host = other
    · subst here
      rw [Table.get?_of_not_mem_keys absent, if_pos rfl, if_pos rfl]
    · rw [if_neg here, if_neg here]

theorem takeListings_above (memory : Memory) {listings : Table String (List Container)}
    (distinct : listings.keys.Nodup) :
    (other, otherId, measure) ∈ (takeListings memory listings).1.above ↔
      (other, otherId, measure) ∈ memory.above ∧
        ∀ containers, listings.get? other = some containers →
          resets (memory.running.get? (other, otherId)).isSome containers otherId = false := by
  induction listings generalizing memory with
  | nil => simp [takeListings]
  | cons entry later inductionHypothesis =>
    rcases entry with ⟨host, containers⟩
    rcases List.nodup_cons.mp distinct with ⟨absent, laterDistinct⟩
    rw [takeListings]
    dsimp only
    rw [inductionHypothesis _ laterDistinct, takeListing_above, takeListing_running, Table.get?]
    by_cases here : host = other
    · subst here
      rw [Table.get?_of_not_mem_keys absent, if_pos rfl]
      simp
    · simp [here, Ne.symm here]

/-- A listing gives notice of nothing but containers that started or stopped. -/
theorem kind_of_takeListings (memory : Memory) (listings : Table String (List Container)) :
    ∀ notice ∈ (takeListings memory listings).2, notice.kind ≠ measure.kind := by
  have observed : ∀ (memory : Memory) (host : String) (containers : List Container),
      ∀ notice ∈ (observeAll host memory containers).2, notice.kind ≠ measure.kind := by
    intro memory host containers
    induction containers generalizing memory with
    | nil => exact fun _ member => absurd member List.not_mem_nil
    | cons container later inductionHypothesis =>
      intro notice member
      rw [observeAll] at member
      rcases List.mem_append.mp member with changed | member
      · rw [observe] at changed
        dsimp only at changed
        split at changed
        · rw [List.mem_singleton] at changed
          subst changed
          rw [changeNotice]
          cases measure <;> dsimp only [Measure.kind] <;> split <;> decide
        · cases changed
      · exact inductionHypothesis _ notice member
  induction listings generalizing memory with
  | nil => exact fun _ member => absurd member List.not_mem_nil
  | cons entry later inductionHypothesis =>
    intro notice member
    rw [takeListings] at member
    rcases List.mem_append.mp member with member | member
    · exact observed memory entry.1 entry.2 notice member
    · exact inductionHypothesis _ notice member

end Memory
end Alert
end ContainerFleet
