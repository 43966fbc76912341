import Kurrent.Nvo.Dhcpopts

namespace Kurrent
namespace Nvo

open Library

/-!
# Non-volatile stored options and the EFI variable behind them

A block of stored options is one checksum byte followed by an options block.
Every store edits the block in memory, and then writes all of it to one EFI
variable.  The variable is read when the firmware starts: its length is
probed, memory of that length is allocated, and the contents are read into
it and checked.

The variable services and the heap belong to the platform.  Each call of
theirs may fail, and the failures are inputs of the model.
-/

/-- The errors of the EFI variable services. -/
inductive EfiError
  | notFound
  | other (code : Nat)
  deriving DecidableEq

/-- The status codes of the EFI variable services. -/
inductive EfiStatus
  | success
  | bufferTooSmall
  | error (fault : EfiError)
  deriving DecidableEq

/-- The status codes that the modelled functions return. -/
inductive Failure
  | enomem
  | eio
  | enotty
  | enodev
  | eexist
  | einval
  /-- A status of an EFI service. -/
  | eefi (status : EfiStatus)
  /-- A status of a platform function, passed on and never inspected. -/
  | platform
  deriving DecidableEq

/-- `GetVariable()`, as called for a buffer of the given size: the status,
the size it reports and the data it delivers.  A fault is an error of the
service itself. -/
def getVariable (fault : Option EfiError) (stored : Option Bytes) (size : Nat) : EfiStatus × Nat × Bytes :=
  match fault, stored with
  | some error, _ => (.error error, size, [])
  | none, none => (.error .notFound, size, [])
  | none, some contents =>
      if size < contents.length then (.bufferTooSmall, contents.length, [])
      else (.success, contents.length, contents)

/-- `SetVariable()`: the status, and the variable afterwards.  A write of no
bytes deletes the variable. -/
def setVariable (fault : Option EfiError) (stored : Option Bytes) (data : Bytes) : EfiStatus × Option Bytes :=
  match fault, data, stored with
  | some error, _, _ => (.error error, stored)
  | none, [], none => (.error .notFound, none)
  | none, [], some _ => (.success, none)
  | none, first :: rest, _ => (.success, some (first :: rest))

/-- What the heap does during one call: whether it has room for a block of
some length, and what memory it has not cleared contains. -/
structure Heap where
  room : Nat -> Bool
  fresh : Nat -> UInt8

/-- `realloc()`: the bytes there were, up to the new length, and whatever
the heap holds after them. -/
def realloc (heap : Heap) (data : Bytes) (len : Nat) : Option Bytes :=
  if heap.room len then
    some ((List.range len).map fun position => data.getD position (heap.fresh position))
  else none

/-- `struct nvo_block`.  The length of the block is that of its data. -/
structure NvoBlock where
  data : Bytes
  /-- `dhcpopts.used_len` -/
  usedLen : Nat

namespace NvoBlock

/-- `dhcpopts.alloc_len` -/
def allocLen (nvo : NvoBlock) : Nat :=
  nvo.data.length - 1

/-- The used part of the options block, behind the checksum byte. -/
def options (nvo : NvoBlock) : Bytes :=
  (nvo.data.drop 1).take nvo.usedLen

end NvoBlock

/-- `struct setting`, as far as a settings block looks at it. -/
structure Setting where
  tag : Nat
  /-- Whether the setting has a scope of its own. -/
  hasScope : Bool
  deriving DecidableEq

/-- `DHCP_ENCAP_OPT ( DHCP_EB_ENCAP, option )` -/
def encapsulatedTag (option : Nat) : Nat :=
  175 * 256 + option

def deviceKeySetting : Setting where
  tag := encapsulatedTag 0x5e
  hasScope := false

def serverFingerprintSetting : Setting where
  tag := encapsulatedTag 0x5f
  hasScope := false

/-! ## Stored options -/

def nvoChecksum (data : Bytes) : UInt8 :=
  data.foldl (· + ·) 0

def nvoRealloc (heap : Heap) (nvo : NvoBlock) (len : Nat) : Outcome Failure NvoBlock :=
  match realloc heap nvo.data len with
  | none => .fail .enomem nvo
  | some data => .ok { data, usedLen := if len = 0 then 0 else nvo.usedLen }

/-- The reallocation that the options block asks for.  The block has a
`resize` method. -/
def nvoReallocDhcpopt (resize : Nat -> Option Failure) (heap : Heap) (nvo : NvoBlock) (len : Nat) :
    Outcome Failure NvoBlock :=
  let len := if len = 0 then 0 else len + 1
  match resize len with
  | some error => .fail error nvo
  | none => nvoRealloc heap nvo len

/-- The EFI variable is resized by writing it. -/
def efiNvsResize (_ : Nat) : Option Failure :=
  none

def efiNvsRead (fault : Option EfiError) (stored : Option Bytes) (len : Nat) : Except Failure Bytes :=
  if len = 0 then .ok []
  else
    match getVariable fault stored len with
    | (.success, size, data) => if size ≠ len then .error .eio else .ok data
    | (status, _, _) => .error (.eefi status)

def efiNvsWrite (fault : Option EfiError) (stored : Option Bytes) (data : Bytes) : Outcome Failure (Option Bytes) :=
  match setVariable fault stored data with
  | (.success, stored) => .ok stored
  | (status, stored) => .fail (.eefi status) stored

section Options

variable (dhcpopts : Dhcpopts)

/-- `dhcpopt_store()` on a block of stored options.  The block is reallocated
to the length that is used, and a store that fails changes nothing. -/
def dhcpoptStore (heap : Heap) (nvo : NvoBlock) (tag : Nat) (value : Bytes) : Outcome Failure NvoBlock :=
  match dhcpopts.store nvo.options tag value with
  | none => .fail .platform nvo
  | some used =>
      let sized := if used.length = nvo.allocLen then .ok nvo
        else nvoReallocDhcpopt efiNvsResize heap nvo used.length
      sized.andThen fun nvo => .ok { data := nvo.data.take 1 ++ used, usedLen := used.length }

/-- Read the block, which has been allocated.  The first byte of the options
is whatever follows the block when only the checksum fits in it. -/
def nvoLoad (heap : Heap) (fault : Option EfiError) (stored : Option Bytes) (nvo : NvoBlock) :
    Outcome Failure NvoBlock :=
  if nvo.data.length = 0 then .ok nvo
  else
    match efiNvsRead fault stored nvo.data.length with
    | .error error => .fail error nvo
    | .ok data =>
        let data := if nvoChecksum data ≠ 0 ∨ data.getD 1 (heap.fresh 1) = 0 then List.replicate data.length 0
          else data
        .ok { data, usedLen := dhcpopts.rescan (data.drop 1) }

/-- The block in memory, and the variable. -/
structure System where
  nvo : NvoBlock
  stored : Option Bytes

/-- Make the bytes of the block sum to zero. -/
def checksummed : Bytes -> Bytes
  | [] => []
  | checksum :: options => (checksum - nvoChecksum (checksum :: options)) :: options

/-- Write the block.  Both the write of a whole block and the erasure of the
variable, for a block of no bytes, end in the same call of the device. -/
def nvoSave (fault : Option EfiError) (system : System) : Outcome Failure System :=
  let nvo := { system.nvo with data := checksummed system.nvo.data }
  let written := efiNvsWrite fault system.stored nvo.data
  { state := { nvo, stored := written.state }, error := written.error }

/-- What the platform does during one store. -/
structure Call where
  heap : Heap
  /-- The error of the write, if it fails. -/
  fault : Option EfiError
  /-- The status of `apply_settings()`, which follows a store of a setting. -/
  applied : Option Failure

def nvoApplies (setting : Setting) : Bool :=
  !setting.hasScope && dhcpopts.applies setting.tag

/-- Store a value, or clear the setting when there are no bytes in it. -/
def nvoStore (call : Call) (system : System) (setting : Setting) (value : Bytes) : Outcome Failure System :=
  let edited := dhcpoptStore dhcpopts call.heap system.nvo setting.tag value
  match edited.error with
  | some error => .fail error { system with nvo := edited.state }
  | none => nvoSave call.fault { system with nvo := edited.state }

def nvoFetch (nvo : NvoBlock) (setting : Setting) : Option Bytes :=
  dhcpopts.fetch nvo.options setting.tag

/-! ## Start-up -/

/-- What the platform does while the firmware starts. -/
structure Boot where
  heap : Heap
  /-- The error of the probe of the variable, if it fails. -/
  probe : Option EfiError
  /-- The error of the read of the variable, if it fails. -/
  read : Option EfiError
  /-- The status of `register_settings()`. -/
  register : Option Failure

/-- The length of the variable, or zero when it cannot be had. -/
def efiNvsProbeLen (fault : Option EfiError) (stored : Option Bytes) : Nat :=
  match getVariable fault stored 0 with
  | (.error .notFound, _, _) => 0
  | (.bufferTooSmall, size, _) => size
  | _ => 0

/-- Allocate, load and register the options.  A block that could not be
loaded or registered is emptied again. -/
def registerNvo (boot : Boot) (stored : Option Bytes) (nvo : NvoBlock) (len : Nat) : Outcome Failure NvoBlock :=
  match nvoRealloc boot.heap nvo len with
  | ⟨nvo, some error⟩ => .fail error nvo
  | ⟨nvo, none⟩ =>
      match nvoLoad dhcpopts boot.heap boot.read stored nvo with
      | ⟨nvo, some error⟩ => .fail error (nvoRealloc boot.heap nvo 0).state
      | ⟨nvo, none⟩ =>
          match boot.register with
          | some error => .fail error (nvoRealloc boot.heap nvo 0).state
          | none => .ok nvo

/-- The block of options that is registered when the firmware starts, if any. -/
def efiNvsStartup (boot : Boot) (stored : Option Bytes) : Option NvoBlock :=
  match registerNvo dhcpopts boot stored { data := [], usedLen := 0 } (efiNvsProbeLen boot.probe stored) with
  | ⟨nvo, none⟩ => some nvo
  | ⟨_, some _⟩ => none

end Options

end Nvo
end Kurrent
