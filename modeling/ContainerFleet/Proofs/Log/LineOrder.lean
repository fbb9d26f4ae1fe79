import ContainerFleet.Log.Frame
import ContainerFleet.Proofs.Log.Lines

/-!
# The lines of two outputs on one wire

Frames cut the octets of the two outputs into pieces and mix them.  Each line
feed ends a line of its own output, whose beginning may lie many frames before
it.  Put in the order of the line feeds that end them, the lines of one output
are still those that its own octets make, whatever comes in between.
-/

namespace ContainerFleet
namespace Log
namespace Demux

open LineBuffer

/-- The octets of one output, put together from all its frames. -/
def octetsOf (frames : List Frame) (output : Output) : List UInt8 :=
  (frames.filter (·.output = output)).flatMap Frame.payload

/-- The octets of the frames as they follow one another, each with its output. -/
def tagged (frames : List Frame) : List (Output × UInt8) :=
  frames.flatMap fun frame => frame.payload.map (frame.output, ·)

/-- The octets of one output among those of both. -/
def carried (wire : List (Output × UInt8)) (output : Output) : List UInt8 :=
  (wire.filter (·.1 = output)).map Prod.snd

/-- The lines that line feeds end, in the order of those line feeds.  The first
octets are those that came before: they tell how the first lines begin. -/
def endedLines (before : List (Output × UInt8)) :
    List (Output × UInt8) → List (Output × List UInt8)
  | [] => []
  | (output, octet) :: later =>
    if octet = lineFeed then
      (output, waiting (carried before output)) :: endedLines (before ++ [(output, octet)]) later
    else endedLines (before ++ [(output, octet)]) later

/-- What no line feed has ended, the standard output first. -/
def unended (wire : List (Output × UInt8)) : List (Output × List UInt8) :=
  [(.stdout, waiting (carried wire .stdout)), (.stderr, waiting (carried wire .stderr))]

/-- All lines of the frames in the order in which their entries come. -/
def lines (frames : List Frame) : List (Output × List UInt8) :=
  endedLines [] (tagged frames) ++ unended (tagged frames)

theorem carried_append (wire more : List (Output × UInt8)) (output : Output) :
    carried (wire ++ more) output = carried wire output ++ carried more output := by
  rw [carried, carried, carried, List.filter_append, List.map_append]

theorem carried_of_one_output (output other : Output) (octets : List UInt8) :
    carried (octets.map (other, ·)) output = if other = output then octets else [] := by
  by_cases same : other = output <;> simp [carried, List.filter_map, Function.comp_def, same]

theorem carried_tagged (frames : List Frame) (output : Output) :
    carried (tagged frames) output = octetsOf frames output := by
  induction frames with
  | nil => rfl
  | cons frame frames inductionHypothesis =>
    rw [tagged, List.flatMap_cons, ← tagged, carried_append, inductionHypothesis,
      carried_of_one_output, octetsOf, octetsOf, List.filter_cons]
    by_cases same : frame.output = output <;> simp [same]

theorem endedLines_append (before wire more : List (Output × UInt8)) :
    endedLines before (wire ++ more) =
      endedLines before wire ++ endedLines (before ++ wire) more := by
  induction wire generalizing before with
  | nil => simp [endedLines]
  | cons first wire inductionHypothesis =>
    rcases first with ⟨output, octet⟩
    have later := inductionHypothesis (before ++ [(output, octet)])
    rw [List.append_assoc, List.singleton_append] at later
    rw [List.cons_append, endedLines, endedLines, later]
    split <;> rfl

/-- The octets of one output go on where they waited, whatever the other output
carries in between. -/
theorem waiting_carried_snoc (before : List (Output × UInt8)) (output other : Output)
    (octet : UInt8) :
    waiting (carried (before ++ [(output, octet)]) other) =
      if output = other then
        if octet = lineFeed then [] else waiting (carried before other) ++ [octet]
      else waiting (carried before other) := by
  have last := carried_of_one_output other output [octet]
  rw [List.map_singleton] at last
  rw [carried_append, last]
  split
  · rw [(append_lines _ _).2]
    have none_waits := lineFeed_not_mem_waiting (carried before other)
    split
    · rename_i feed
      rw [feed, waiting_cons none_waits]
      rfl
    · rename_i other_octet
      apply waiting_of_not_mem
      rw [List.mem_append, List.mem_singleton]
      rintro (member | same)
      · exact none_waits member
      · exact other_octet same.symm
  · rw [List.append_nil]

/-- Among the lines of both outputs those of one are the lines that its own
octets make. -/
theorem endedLines_filter (before wire : List (Output × UInt8)) (output : Output) :
    (endedLines before wire).filter (·.1 = output) =
      (ended (waiting (carried before output) ++ carried wire output)).map (output, ·) := by
  induction wire generalizing before with
  | nil =>
    have nothing : carried [] output = [] := rfl
    rw [nothing, List.append_nil, ended_of_not_mem (lineFeed_not_mem_waiting _)]
    rfl
  | cons first wire inductionHypothesis =>
    rcases first with ⟨other, octet⟩
    have later := inductionHypothesis (before ++ [(other, octet)])
    rw [waiting_carried_snoc] at later
    have none_waits := lineFeed_not_mem_waiting (carried before output)
    rw [endedLines]
    by_cases same : other = output
    · subst same
      have here : carried ((other, octet) :: wire) other = octet :: carried wire other := by
        simp [carried]
      by_cases feed : octet = lineFeed
      · subst feed
        rw [if_pos rfl, if_pos rfl, List.nil_append] at later
        rw [if_pos rfl, List.filter_cons_of_pos (by simp), later, here, ended_cons none_waits,
          List.map_cons]
      · rw [if_pos rfl, if_neg feed, List.append_assoc, List.singleton_append] at later
        rw [if_neg feed, later, here]
    · have here : carried ((other, octet) :: wire) output = carried wire output := by
        simp [carried, same]
      rw [if_neg same] at later
      rw [here, ← later]
      split
      · rw [List.filter_cons_of_neg (by simp [same])]
      · rfl

theorem endedLines_of_one_output (before : List (Output × UInt8)) (output : Output)
    (octets : List UInt8) :
    endedLines before (octets.map (output, ·)) =
      (ended (waiting (carried before output) ++ octets)).map (output, ·) := by
  have own : ∀ line ∈ endedLines before (octets.map (output, ·)), line.1 = output := by
    induction octets generalizing before with
    | nil => exact fun _ member => nomatch member
    | cons octet octets inductionHypothesis =>
      have later := inductionHypothesis (before ++ [(output, octet)])
      rw [List.map_cons, endedLines]
      split
      · exact List.forall_mem_cons.mpr ⟨rfl, later⟩
      · exact later
  have all := endedLines_filter before (octets.map (output, ·)) output
  rw [carried_of_one_output, if_pos rfl, List.filter_eq_self.mpr] at all
  · exact all
  · intro line member
    exact decide_eq_true (own line member)

/-- The lines of one output in the order of delivery. -/
theorem lines_filter (frames : List Frame) (output : Output) :
    (lines frames).filter (·.1 = output) =
      (ended (octetsOf frames output) ++ [waiting (octetsOf frames output)]).map (output, ·) := by
  have last : (unended (tagged frames)).filter (·.1 = output) =
      [(output, waiting (octetsOf frames output))] := by
    rw [← carried_tagged]
    cases output <;> rfl
  rw [lines, List.filter_append, endedLines_filter, last, carried_tagged, List.map_append]
  rfl

end Demux
end Log
end ContainerFleet
