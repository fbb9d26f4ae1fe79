import ContainerFleet.Proofs.Timestamp.Candidate

/-!
# Layouts in any order

No text has two forms, so at most one layout reads a text and it is all the same where in
the list that layout stands: what a list of layouts makes of a text depends on which layouts
are in it and on nothing else.  A layout that reads a text settles what the text denotes.
Where the fields it reads do not exist, no layout behind it can find a moment after all.

Fields that exist may be carried out of the calendar by their zone.  This is an error and
not a refusal; it too is the same in every order.
-/

namespace ContainerFleet
namespace Timestamp
namespace Layout

variable {layouts others : List Layout} {layout : Layout} {text : List Char} {fields : Fields}

/-- Only the layouts that are tried count, and not their order or how often each is tried. -/
theorem existing?_of_same_members (same : ∀ layout, layout ∈ layouts ↔ layout ∈ others)
    (text : List Char) : existing? layouts text = existing? others text := by
  apply Option.ext
  intro fields
  rw [existing?_eq_some_iff, existing?_eq_some_iff]
  simp only [same]

theorem firstInstant_of_same_members (same : ∀ layout, layout ∈ layouts ↔ layout ∈ others)
    (text : List Char) : firstInstant layouts text = firstInstant others text := by
  rw [firstInstant_eq, firstInstant_eq, existing?_of_same_members same]

/-- Whatever else is tried, fields that do not exist are never made up for. -/
theorem existing?_of_not_exist (reads : (Form.listed layout).Reads fields text)
    (absent : ¬ fields.Exist) (layouts : List Layout) : existing? layouts text = none := by
  cases found : existing? layouts text with
  | none => rfl
  | some others =>
    rcases existing?_eq_some_iff.mp found with ⟨exist, other, -, readsOther⟩
    rw [← (Form.reads_unique reads readsOther).2] at exist
    exact absurd exist absent

/-- A layout that reads a text settles what it denotes, wherever the layout is tried. -/
theorem firstInstant_of_reads (reads : (Form.listed layout).Reads fields text)
    (member : layout ∈ layouts) : firstInstant layouts text = fields.instant := by
  rw [firstInstant_eq]
  by_cases exist : fields.Exist
  · rw [existing?_eq_some_iff.mpr ⟨exist, layout, member, reads⟩]
  · rw [existing?_of_not_exist reads exist layouts]
    exact (if_neg exist).symm

/-- The layouts are apart: a text is read by one of them at most, and in one way.  Trying
them in another order gives the same moment, the same refusal or the same error, and what
one of them reads without its existing is refused, whatever is tried besides. -/
theorem unambiguous (text : List Char) :
    (∀ (layout : Layout) (fields : Fields),
      layout.fields? text = some fields ↔ (Form.listed layout).Reads fields text) ∧
    (∀ (layout other : Layout) (fields fields' : Fields),
      layout.fields? text = some fields → other.fields? text = some fields' →
        layout = other ∧ fields = fields') ∧
    (∀ layouts : List Layout, layouts.Perm all →
      firstInstant layouts text = firstInstant all text) ∧
    ∀ (layout : Layout) (fields : Fields), layout.fields? text = some fields →
      (∀ layouts, layout ∈ layouts → firstInstant layouts text = fields.instant) ∧
        (¬ fields.Exist → ∀ layouts, firstInstant layouts text = .ok none) := by
  refine ⟨fun _ _ => Form.reads_listed_iff.symm, ?_, ?_, ?_⟩
  · intro layout other fields fields' read readOther
    rcases Form.reads_unique (Form.reads_listed_iff.mpr read) (Form.reads_listed_iff.mpr readOther)
      with ⟨sameForm, sameFields⟩
    exact ⟨Form.listed.inj sameForm, sameFields⟩
  · intro layouts order
    exact firstInstant_of_same_members (fun _ => order.mem_iff) text
  · intro layout fields read
    have reads := Form.reads_listed_iff.mpr read
    refine ⟨fun layouts member => firstInstant_of_reads reads member, fun absent layouts => ?_⟩
    rw [firstInstant_eq, existing?_of_not_exist reads absent]

/-- The thirtieth of February, and the first midnight of the calendar on a clock that is an
hour ahead: backwards through the layouts the one is refused and the other an error, as they
are forwards. -/
theorem backwards_through_layouts :
    let noDay := "Fri Feb 30 10:30:00 +0100 2024".toList
    let tooEarly := "01/Jan/0001:00:00:00 +0100".toList
    all.reverse.Perm all ∧
      zonedCtime.fields? noDay = some ⟨⟨2024, 2, 30⟩, 10, 30, 0, [], .shifted true 1 0⟩ ∧
      firstInstant all.reverse noDay = .ok none ∧
      firstInstant all.reverse tooEarly = firstInstant all tooEarly ∧
      firstInstant all tooEarly = .error .date := by
  intro noDay tooEarly
  have read : zonedCtime.fields? noDay =
      some ⟨⟨2024, 2, 30⟩, 10, 30, 0, [], .shifted true 1 0⟩ := by decide
  have readEarly : accessLog.fields? tooEarly =
      some ⟨⟨1, 1, 1⟩, 0, 0, 0, [], .shifted true 1 0⟩ := by decide
  refine ⟨List.reverse_perm all, read, ?_, ?_, ?_⟩
  · exact ((unambiguous noDay).2.2.2 _ _ read).2 (by decide) _
  · exact (unambiguous tooEarly).2.2.1 _ (List.reverse_perm all)
  · rw [((unambiguous tooEarly).2.2.2 _ _ readEarly).1 all (by decide)]
    decide

end Layout
end Timestamp
end ContainerFleet
