import ContainerFleet.Decode.Record

/-!
# Raw statistics

The part of a runtime's statistics document that is used.  Every section and
every counter defaults to zero, so a partial document is still read.
-/

namespace ContainerFleet
namespace Stats

/-- Processor time used, in all and for each processor. -/
structure CpuUsage where
  total : Int
  perProcessor : Option (List Int)
  deriving DecidableEq, Repr

/-- The processor section of one sample. -/
structure CpuSample where
  usage : CpuUsage
  system : Int
  online : Int
  deriving DecidableEq, Repr

structure Memory where
  usage : Int
  limit : Int
  deriving DecidableEq, Repr

/-- Octets that went through one network interface. -/
structure Interface where
  received : Int
  sent : Int
  deriving DecidableEq, Repr

/-- Octets that one kind of block operation moved. -/
structure BlockCounter where
  operation : String
  octets : Int
  deriving DecidableEq, Repr

/-- A statistics document. -/
structure Snapshot where
  read : String
  previousRead : String
  cpu : CpuSample
  previousCpu : CpuSample
  memory : Memory
  networks : Option (Table String Interface)
  blocks : Option (List BlockCounter)
  processes : Int
  deriving DecidableEq, Repr

open Decode

def CpuUsage.zero : CpuUsage := ⟨0, none⟩

def CpuUsage.decode : Decoder CpuUsage := record fun members =>
  CpuUsage.mk <$> withDefault members "total_usage" whole 0
    <*> withDefault members "percpu_usage" (optional (list whole)) none

def CpuSample.zero : CpuSample := ⟨.zero, 0, 0⟩

def CpuSample.decode : Decoder CpuSample := record fun members =>
  CpuSample.mk <$> withDefault members "cpu_usage" CpuUsage.decode .zero
    <*> withDefault members "system_cpu_usage" whole 0
    <*> withDefault members "online_cpus" whole 0

def Memory.decode : Decoder Memory := record fun members =>
  Memory.mk <$> withDefault members "usage" whole 0 <*> withDefault members "limit" whole 0

def Interface.decode : Decoder Interface := record fun members =>
  Interface.mk <$> withDefault members "rx_bytes" whole 0
    <*> withDefault members "tx_bytes" whole 0

def BlockCounter.decode : Decoder BlockCounter := record fun members =>
  BlockCounter.mk <$> withDefault members "op" text "" <*> withDefault members "value" whole 0

/-- The block section, which holds one list. -/
def blockSection : Decoder (Option (List BlockCounter)) := record fun members =>
  withDefault members "io_service_bytes_recursive" (optional (list BlockCounter.decode)) none

/-- The process section, which holds one count. -/
def processSection : Decoder Int := record fun members => withDefault members "current" whole 0

def Snapshot.decode : Decoder Snapshot := record fun members =>
  Snapshot.mk <$> withDefault members "read" text ""
    <*> withDefault members "preread" text ""
    <*> withDefault members "cpu_stats" CpuSample.decode .zero
    <*> withDefault members "precpu_stats" CpuSample.decode .zero
    <*> withDefault members "memory_stats" Memory.decode ⟨0, 0⟩
    <*> withDefault members "networks" (optional (table Interface.decode)) none
    <*> withDefault members "blkio_stats" blockSection none
    <*> withDefault members "pids_stats" processSection 0

end Stats
end ContainerFleet
