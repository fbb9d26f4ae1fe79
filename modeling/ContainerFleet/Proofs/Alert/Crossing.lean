/-!
# Crossings of a threshold

The history of one figure is a sequence of readings and of resets, after which
the figure counts as new.  A reading above the threshold crosses it when no
earlier one above it still stands: between them lies a reset, or a reading that
is not above.
-/

namespace ContainerFleet
namespace Alert

/-- What can happen to a figure. -/
inductive Event where
  | reset
  | reading (value : Float)
  deriving DecidableEq, Repr

/-- The event does not end what an earlier reading above the threshold began. -/
def Event.Keeps (threshold : Float) : Event → Prop
  | .reset => False
  | .reading value => ¬ value ≤ threshold

/-- A reading above the threshold still stands at the end. -/
def Latched (threshold : Float) (events : List Event) : Prop :=
  ∃ front value later, events = front ++ .reading value :: later ∧ threshold < value ∧
    ∀ event ∈ later, event.Keeps threshold

/-- A cut of a list that has a last element: the cut is at that element, or the
last element stands behind it. -/
theorem snoc_cases {α : Type} {front earlier later : List α} {last middle : α}
    (same : front ++ [last] = earlier ++ middle :: later) :
    (later = [] ∧ front = earlier ∧ last = middle) ∨
      ∃ others, later = others ++ [last] ∧ front = earlier ++ middle :: others := by
  rcases List.eq_nil_or_concat later with rfl | ⟨others, final, rfl⟩
  · rcases List.append_inj' same rfl with ⟨sameFront, sameLast⟩
    cases sameLast
    exact .inl ⟨rfl, sameFront, rfl⟩
  · rw [List.concat_eq_append] at same
    have regrouped : front ++ [last] = (earlier ++ middle :: others) ++ [final] := by
      rw [same, List.append_assoc, List.cons_append]
    rcases List.append_inj' regrouped rfl with ⟨sameFront, sameLast⟩
    cases sameLast
    exact .inr ⟨others, List.concat_eq_append, sameFront⟩

theorem not_latched_nil (threshold : Float) : ¬ Latched threshold [] := by
  rintro ⟨front, value, later, same, -⟩
  exact absurd same.symm (List.append_ne_nil_of_right_ne_nil front (List.cons_ne_nil _ _))

/-- Only the last event and what stood before it decide what stands after it. -/
theorem latched_snoc (threshold : Float) (events : List Event) (event : Event) :
    Latched threshold (events ++ [event]) ↔
      (∃ value, event = .reading value ∧ threshold < value) ∨
        event.Keeps threshold ∧ Latched threshold events := by
  constructor
  · rintro ⟨front, value, later, same, above, kept⟩
    rcases snoc_cases same with ⟨-, -, rfl⟩ | ⟨others, rfl, rfl⟩
    · exact .inl ⟨value, rfl, above⟩
    · have keeps := kept event (List.mem_append_right _ (List.mem_singleton_self event))
      refine .inr ⟨keeps, front, value, others, rfl, above, ?_⟩
      intro other member
      exact kept other (List.mem_append_left _ member)
  · rintro (⟨value, rfl, above⟩ | ⟨keeps, front, value, later, rfl, above, kept⟩)
    · exact ⟨events, value, [], rfl, above, fun _ member => nomatch member⟩
    · refine ⟨front, value, later ++ [event], ?_, above, ?_⟩
      · rw [List.append_assoc, List.cons_append]
      · intro other member
        rcases List.mem_append.mp member with member | member
        · exact kept other member
        · rw [List.mem_singleton] at member
          exact member ▸ keeps

/-- The same told from the last event backwards. -/
def latchedBackwards (threshold : Float) : List Event → Bool
  | [] => false
  | .reset :: _ => false
  | .reading value :: earlier =>
    threshold < value || (!decide (value ≤ threshold) && latchedBackwards threshold earlier)

theorem latchedBackwards_iff (threshold : Float) (newest : List Event) :
    latchedBackwards threshold newest = true ↔ Latched threshold newest.reverse := by
  induction newest with
  | nil => exact iff_of_false Bool.false_ne_true (not_latched_nil threshold)
  | cons event earlier inductionHypothesis =>
    rw [List.reverse_cons, latched_snoc]
    cases event with
    | reset => simp [latchedBackwards, Event.Keeps]
    | reading value =>
      simp [latchedBackwards, Event.Keeps, inductionHypothesis]

instance (threshold : Float) (events : List Event) : Decidable (Latched threshold events) :=
  decidable_of_iff (latchedBackwards threshold events.reverse = true)
    (by rw [latchedBackwards_iff, List.reverse_reverse])

/-- The readings among some events that cross the threshold, after the events
of the past. -/
def crossings (threshold : Float) : (past : List Event) → List Event → List Float
  | _, [] => []
  | past, .reset :: later => crossings threshold (past ++ [.reset]) later
  | past, .reading value :: later =>
    if threshold < value ∧ ¬ Latched threshold past then
      value :: crossings threshold (past ++ [.reading value]) later
    else crossings threshold (past ++ [.reading value]) later

theorem crossings_append (threshold : Float) (past events more : List Event) :
    crossings threshold past (events ++ more) =
      crossings threshold past events ++ crossings threshold (past ++ events) more := by
  induction events generalizing past with
  | nil => simp [crossings]
  | cons event events inductionHypothesis =>
    have later := inductionHypothesis (past ++ [event])
    rw [List.append_assoc, List.singleton_append] at later
    rw [List.cons_append]
    cases event with
    | reset => rw [crossings, crossings, later]
    | reading value =>
      rw [crossings, crossings, later]
      split <;> rfl

example : crossings 80.0 [] [.reading 90.0, .reading 95.0, .reading 80.0, .reading 90.0, .reset,
    .reading 81.5] = [90.0, 90.0, 81.5] := by decide +kernel

end Alert
end ContainerFleet
