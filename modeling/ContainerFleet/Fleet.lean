import ContainerFleet.Daemon.Endpoint

/-!
# Fleets

A fixed table of connected hosts with different names.  An operation can be
run on one host, found by its name, or on all: then each host answers or fails
for itself, and the failure of one is a value beside the answers of the
others.
-/

namespace ContainerFleet

open Daemon

/-- Connected hosts, in the order of configuration. -/
structure Fleet where
  hosts : List Host
  distinct : (hosts.map Host.name).Nodup

namespace Fleet

/-- A fleet without hosts. -/
def empty : Fleet := ⟨[], List.nodup_nil⟩

def names (fleet : Fleet) : List String :=
  fleet.hosts.map Host.name

/-- Add a host behind the others, unless its name is taken. -/
def add? (fleet : Fleet) (host : Host) : Option Fleet :=
  if taken : host.name ∈ fleet.names then none
  else some ⟨fleet.hosts ++ [host], by
    rw [List.map_append, List.map_singleton, List.nodup_append]
    refine ⟨fleet.distinct, by simp, ?_⟩
    intro name member other single same
    rw [List.mem_singleton] at single
    subst single same
    exact taken member⟩

/-- The host of a name. -/
def find? (fleet : Fleet) (name : String) : Option Host :=
  fleet.hosts.find? fun host => host.name == name

/-- A host is found by its name, which no other host has. -/
theorem find?_of_mem {fleet : Fleet} {host : Host} (member : host ∈ fleet.hosts) :
    fleet.find? host.name = some host := by
  have distinct := fleet.distinct
  rw [Fleet.find?]
  generalize fleet.hosts = hosts at member distinct
  induction hosts with
  | nil => cases member
  | cons first later inductive_step =>
    rcases List.nodup_cons.mp distinct with ⟨absent, laterDistinct⟩
    rcases List.mem_cons.mp member with rfl | inLater
    · simp
    · have different : first.name ≠ host.name :=
        fun same => absent (List.mem_map.mpr ⟨host, inLater, same.symm⟩)
      rw [List.find?_cons_of_neg (by simp [different])]
      exact inductive_step inLater laterDistinct

theorem mem_of_find? {fleet : Fleet} {host : Host} {name : String}
    (found : fleet.find? name = some host) :
    host ∈ fleet.hosts ∧ host.name = name :=
  ⟨List.mem_of_find?_eq_some found, by simpa using List.find?_some found⟩

/-- The host of a name, which has to be there. -/
def host (fleet : Fleet) (name : String) : Except Fault Host :=
  match fleet.find? name with
  | some host => .ok host
  | none => .error (.hostNotFound name)

variable {σ α : Type}

/-- Run an operation on the host of a name. -/
def onHost (fleet : Fleet) (name : String) (operation : Host → Action σ α) : Action σ α := do
  operation (← ofExcept id (fleet.host name))

theorem onHost_of_known {fleet : Fleet} {name : String} {host : Host}
    (known : fleet.host name = .ok host) (operation : Host → Action σ α) :
    fleet.onHost name operation = operation host := by
  have found : ofExcept id (fleet.host name) = (pure host : Action σ Host) := by
    rw [known]
    rfl
  exact congrArg (· >>= operation) found

/-- What came of asking every host: answers and faults, each with the name of
its host, both in the order of configuration. -/
structure Gathered (α : Type) where
  results : Table String α
  faults : List (String × Fault)

namespace Gathered

/-- How many hosts answered or failed. -/
def total (gathered : Gathered α) : Nat :=
  gathered.results.length + gathered.faults.length

/-- Put the outcome of one host in front of those of the hosts behind it. -/
def cons (name : String) (outcome : Except Fault α) (later : Gathered α) : Gathered α :=
  match outcome with
  | .ok value => { later with results := (name, value) :: later.results }
  | .error fault => { later with faults := (name, fault) :: later.faults }

end Gathered

/-- Run an operation on each of some hosts. -/
def gatherFrom (operation : Host → Action σ α) : List Host → Action σ (Gathered α)
  | [] => return ⟨[], []⟩
  | host :: later => do
    let outcome ← attempt (operation host)
    let rest ← gatherFrom operation later
    return rest.cons host.name outcome

/-- Run an operation on every host. -/
def gather (fleet : Fleet) (operation : Host → Action σ α) : Action σ (Gathered α) :=
  gatherFrom operation fleet.hosts

/-- Give up the connections to all hosts; one that cannot be closed does not
keep the others open. -/
def close (peers : Peers σ) (fleet : Fleet) : Action σ Unit :=
  fleet.hosts.forM fun host => ignoring (closeClient peers host)

end Fleet
end ContainerFleet
