import ContainerFleet.Log.Source

/-!
# Reading from a source

A source hands over its octets in pieces of any size.  Asking again and again
for what is still missing nevertheless delivers what was asked for: a read that
is asked for more than nothing delivers at least one octet while there are any,
and what has been delivered is always a front of the octets.  Only a source
whose octets run out delivers less, or fails with its own error.
-/

namespace ContainerFleet
namespace Log

namespace ByteSource

/-- The source that is left when the first `count` octets were delivered.  How
many reads that took is left open. -/
structure Behind (source : ByteSource) (count : Nat) (rest : ByteSource) : Prop where
  octets : rest.octets = source.octets.drop count
  ending : rest.ending = source.ending

/-- Nothing has been delivered yet. -/
theorem Behind.start (source : ByteSource) : Behind source 0 source :=
  ⟨rfl, rfl⟩

theorem Behind.trans {first second third : ByteSource} {count more : Nat}
    (before : Behind first count second) (after : Behind second more third) :
    Behind first (count + more) third := by
  refine ⟨?_, after.ending.trans before.ending⟩
  rw [after.octets, before.octets, List.drop_drop]

/-- A read delivers a front of the octets that are left, and not an empty one,
whatever the source is willing to deliver. -/
theorem read_of_octets (source : ByteSource) {wanted : Nat} (asked : 0 < wanted)
    (more : source.octets ≠ []) :
    ∃ count rest, 0 < count ∧ count ≤ wanted ∧ count ≤ source.octets.length ∧
      source.read wanted = .ok (source.octets.take count, rest) ∧ Behind source count rest := by
  rcases source with ⟨octets, ending, grants, reads⟩
  cases octets with
  | nil => exact absurd rfl more
  | cons octet octets =>
    let granted := min wanted (grants reads + 1)
    let rest : ByteSource := ⟨(octet :: octets).drop granted, ending, grants, reads + 1⟩
    have present : 0 < (octet :: octets).length := Nat.succ_pos _
    refine ⟨min granted (octet :: octets).length, rest, by omega, by omega,
      Nat.min_le_right _ _, ?_, ?_, rfl⟩
    · rw [← List.take_eq_take_min]
      rfl
    · exact List.drop_eq_drop_min

/-- Behind its octets a source ends, cleanly or not. -/
theorem read_of_nil (source : ByteSource) (wanted : Nat) (done : source.octets = []) :
    source.read wanted =
      match source.ending with
      | some error => .error error
      | none => .ok ([], source) := by
  rcases source with ⟨octets, ending, grants, reads⟩
  cases done
  cases ending <;> rfl

/-- One step of `readFrom`: the piece that was read goes in front of those
before it. -/
theorem readFrom_succ (fuel : Nat) (got : List (List UInt8)) {wanted : Nat}
    (source : ByteSource) {piece : List UInt8} {rest : ByteSource} (asked : 0 < wanted)
    (read : source.read wanted = .ok (piece, rest)) (some_read : piece ≠ []) :
    readFrom (fuel + 1) got wanted source =
      readFrom fuel (piece :: got) (wanted - piece.length) rest := by
  rw [readFrom, if_neg (Nat.ne_of_gt asked), read]
  cases piece with
  | nil => exact absurd rfl some_read
  | cons octet piece => rfl

/-- Where enough octets are left, exactly those that were asked for are
delivered. -/
theorem readFrom_of_le (fuel : Nat) (got : List (List UInt8)) (wanted : Nat)
    (source : ByteSource) (fueled : wanted ≤ fuel) (enough : wanted ≤ source.octets.length) :
    ∃ rest, readFrom fuel got wanted source =
        .ok (got.reverse.flatten ++ source.octets.take wanted, rest) ∧
      Behind source wanted rest := by
  induction fuel generalizing got wanted source with
  | zero =>
    obtain rfl : wanted = 0 := Nat.le_zero.mp fueled
    exact ⟨source, by simp [readFrom], .start source⟩
  | succ fuel inductionHypothesis =>
    by_cases nothing : wanted = 0
    · subst nothing
      exact ⟨source, by simp [readFrom], .start source⟩
    · have asked : 0 < wanted := Nat.pos_of_ne_zero nothing
      have more : source.octets ≠ [] := List.ne_nil_of_length_pos (Nat.lt_of_lt_of_le asked enough)
      rcases read_of_octets source asked more with
        ⟨count, next, positive, most, there, read, behind⟩
      have length : (source.octets.take count).length = count := by
        rw [List.length_take, Nat.min_eq_left there]
      have left : next.octets.length = source.octets.length - count := by
        rw [behind.octets, List.length_drop]
      rcases inductionHypothesis (source.octets.take count :: got)
        (wanted - count) next (by omega) (by omega) with ⟨rest, all, after⟩
      refine ⟨rest, ?_, ?_⟩
      · rw [readFrom_succ fuel got source asked read (List.ne_nil_of_length_pos (by omega)), length,
          all, behind.octets]
        have together : count + (wanted - count) = wanted := by omega
        simp only [List.reverse_cons, List.flatten_append, List.flatten_singleton,
          List.append_assoc, ← List.take_add, together]
      · have together : count + (wanted - count) = wanted := by omega
        exact together ▸ behind.trans after

/-- Where too few octets are left, all of them are delivered, or the error of
the source takes their place. -/
theorem readFrom_of_lt (fuel : Nat) (got : List (List UInt8)) (wanted : Nat)
    (source : ByteSource) (fueled : source.octets.length < fuel)
    (short : source.octets.length < wanted) :
    (∀ error, source.ending = some error → readFrom fuel got wanted source = .error error) ∧
      (source.ending = none → ∃ rest, readFrom fuel got wanted source =
        .ok (got.reverse.flatten ++ source.octets, rest)) := by
  induction fuel generalizing got wanted source with
  | zero => exact absurd fueled (Nat.not_lt_zero _)
  | succ fuel inductionHypothesis =>
    have asked : 0 < wanted := Nat.zero_lt_of_lt short
    by_cases done : source.octets = []
    · have end_read := read_of_nil source wanted done
      constructor
      · intro error failing
        rw [readFrom, if_neg (Nat.ne_of_gt asked), end_read, failing]
      · intro clean
        refine ⟨source, ?_⟩
        rw [readFrom, if_neg (Nat.ne_of_gt asked), end_read, clean, done, List.append_nil]
    · rcases read_of_octets source asked done with
        ⟨count, next, positive, most, there, read, behind⟩
      have length : (source.octets.take count).length = count := by
        rw [List.length_take, Nat.min_eq_left there]
      have left : next.octets.length = source.octets.length - count := by
        rw [behind.octets, List.length_drop]
      have later := inductionHypothesis (source.octets.take count :: got) (wanted - count) next
        (by omega) (by omega)
      rw [readFrom_succ fuel got source asked read (List.ne_nil_of_length_pos (by omega)), length]
      rw [behind.ending, behind.octets] at later
      simpa only [List.reverse_cons, List.flatten_append, List.flatten_singleton,
        List.append_assoc, List.take_append_drop] using later

/-- Asking for octets that are there delivers them. -/
theorem readExact_of_le (source : ByteSource) {wanted : Nat}
    (enough : wanted ≤ source.octets.length) :
    ∃ rest, source.readExact wanted = .ok (source.octets.take wanted, rest) ∧
      Behind source wanted rest :=
  readFrom_of_le _ [] wanted source (Nat.le_succ_of_le enough) enough

/-- Asking for more than there is ends with the error of the source. -/
theorem readExact_of_failing (source : ByteSource) {wanted : Nat} {error : PeerError}
    (short : source.octets.length < wanted) (failing : source.ending = some error) :
    source.readExact wanted = .error error :=
  (readFrom_of_lt _ [] wanted source (Nat.lt_succ_self _) short).1 error failing

/-- Asking for more than there is delivers what there is where the source ends
cleanly. -/
theorem readExact_of_clean (source : ByteSource) {wanted : Nat}
    (short : source.octets.length < wanted) (clean : source.ending = none) :
    ∃ rest, source.readExact wanted = .ok (source.octets, rest) :=
  (readFrom_of_lt _ [] wanted source (Nat.lt_succ_self _) short).2 clean

end ByteSource
end Log
end ContainerFleet
