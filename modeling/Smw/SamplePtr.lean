/-! A sample pointer: the address it owns, the deleter that travels with the address, and
the flag that tells a heap object from a chunk of shared memory. -/
namespace Smw

/-- Where an object lives: in a heap block, or in the payload of an iceoryx chunk. -/
inductive Address
  | heap (block : Nat)
  | chunk (index : Nat)
deriving DecidableEq,Repr

inductive Disposal
  | deleted (address : Address)
  | released (address : Address)
deriving DecidableEq,Repr

/-- The default deleter, and the two that a reader of iceoryx installs. -/
inductive Deleter
  | delete
  | release
  | releaseThenDelete (payload : Address)
deriving DecidableEq,Repr

def Deleter.run (deleter : Deleter) (address : Address) : List Disposal :=
  match deleter with
  | .delete => [.deleted address]
  | .release => [.released address]
  | .releaseThenDelete payload => [.released payload,.deleted address]

structure SamplePtr where
  dataPtr : Option Address := none
  deleter : Deleter := .delete
  isHeapAllocated : Bool := true
deriving DecidableEq,Repr

namespace SamplePtr

def ofPtr (address : Address) : SamplePtr := {dataPtr := some address}

def markAsNoHeapAllocated (sample : SamplePtr) : SamplePtr := {sample with isHeapAllocated := false}

def release (sample : SamplePtr) : SamplePtr := {sample with dataPtr := none}

/-- What reset and the assignment of nullptr leave, which destroy the object. -/
def reset (sample : SamplePtr) : SamplePtr := {sample with dataPtr := none}

/-- What is left of a pointer that another one was constructed or assigned from. -/
def moved (sample : SamplePtr) : SamplePtr := {sample with dataPtr := none}

def destroy (sample : SamplePtr) : List Disposal :=
  match sample.dataPtr with
  | some address => sample.deleter.run address
  | none => []

end SamplePtr
end Smw
