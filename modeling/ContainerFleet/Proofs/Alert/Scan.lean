import ContainerFleet.Alert.Monitor
import ContainerFleet.Proofs.Daemon.Parallel

/-!
# What a scan depends on

A scan is made of requests that only read.  Two scans by one monitor are therefore alike
wherever such requests are answered alike, whatever else is different about the peers.
-/

namespace ContainerFleet

open Daemon

variable {σ τ : Type} {related : Exchange σ → Exchange τ → Prop} {one : Peers σ} {two : Peers τ}
  (reads : ReadsAlike related one two)

include reads

namespace Stats

theorem parallel_readOnce (host : Host) (id : String) :
    Parallel related (readOnce one host id) (readOnce two host id) :=
  (parallel_statsOnce reads host id).bind fun _ => parallel_ofExcept _ _

theorem parallel_sweepFrom (host : Host) (containers : List Container) :
    Parallel related (sweepFrom one host containers) (sweepFrom two host containers) := by
  induction containers with
  | nil => exact parallel_pure _
  | cons container later inductionHypothesis =>
    unfold sweepFrom
    split
    · exact (parallel_readOnce reads host container.id).attempt.bind fun outcome =>
        inductionHypothesis.bind fun rest => parallel_pure _
    · exact inductionHypothesis

theorem parallel_sweep (host : Host) : Parallel related (sweep one host) (sweep two host) :=
  (parallel_listContainers reads host true).bind (parallel_sweepFrom reads host)

end Stats

namespace Alert

theorem parallel_sweepAll (fleet : Fleet) (listed : Table String (List Container)) :
    Parallel related (sweepAll one fleet listed) (sweepAll two fleet listed) := by
  induction listed with
  | nil => exact parallel_pure _
  | cons entry later inductionHypothesis =>
    rcases entry with ⟨name, containers⟩
    unfold sweepAll
    split
    · exact (parallel_onHost (Stats.parallel_sweep reads)).attempt.bind fun outcome =>
        inductionHypothesis.bind fun rest => parallel_pure _
    · exact inductionHypothesis

theorem parallel_checkOnce (monitor : Monitor) (fleet : Fleet) (now : Int) :
    Parallel related (monitor.checkOnce one fleet now) (monitor.checkOnce two fleet now) :=
  ((parallel_gather fun host => parallel_listContainers reads host true).bind fun listing =>
    (parallel_sweepAll reads fleet listing.results).bind fun _ => parallel_pure _).bind
      fun _ => parallel_pure _

end Alert
end ContainerFleet
