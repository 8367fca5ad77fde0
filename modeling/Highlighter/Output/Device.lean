import Highlighter.Output.Writing

/-!
# Devices and buffers

Output goes to a device, which may take only so many bytes, either directly or
through a buffer.
-/

set_option autoImplicit false

namespace Highlighter

structure Device where
  /-- The bytes taken so far. -/
  accepted : Array UInt8
  /-- How many bytes more the device takes, if there is a limit. -/
  room : Option Nat
  deriving DecidableEq, Repr

namespace Device

def empty (room : Option Nat) : Device := ⟨#[], room⟩

/-- Writes bytes.  A device without room for all of them takes what it has room for and fails. -/
def write (device : Device) (bytes : List UInt8) : Device × Option FileError :=
  match device.room with
  | none => ({ device with accepted := device.accepted.appendList bytes }, none)
  | some room =>
    if bytes.length ≤ room then
      (⟨device.accepted.appendList bytes, some (room - bytes.length)⟩, none)
    else (⟨device.accepted.appendList (bytes.take room), some 0⟩, some .storageFull)

/-- What is written to a device by itself has arrived when it is taken. -/
instance : Output Device where
  write := write
  flush device := (device, none)

end Device

/-- A device behind a buffer, which collects bytes until it is full. -/
structure Buffer where
  device : Device
  held : Array UInt8
  capacity : Nat

namespace Buffer

/-- The number of bytes that standard output collects. -/
def standardCapacity : Nat := 8192

def before (device : Device) : Buffer := ⟨device, #[], standardCapacity⟩

def flush (buffer : Buffer) : Buffer × Option FileError :=
  match buffer.device.write buffer.held.toList with
  | (device, failure) => ({ buffer with device, held := #[] }, failure)

/-- Writes bytes.  What does not fit beside the bytes held makes the buffer pass those on first,
and what would fill it by itself goes to the device at once. -/
def write (buffer : Buffer) (bytes : List UInt8) : Buffer × Option FileError :=
  let spare := buffer.capacity - buffer.held.size
  let (buffer, failure) := if bytes.length ≤ spare then (buffer, none) else buffer.flush
  match failure with
  | some cause => (buffer, some cause)
  | none =>
    if bytes.length < buffer.capacity then
      ({ buffer with held := buffer.held.appendList bytes }, none)
    else
      match buffer.device.write bytes with
      | (device, failure) => ({ buffer with device }, failure)

instance : Output Buffer where
  write := write
  flush := flush

/-- Gives the buffer up: it passes on what it holds, and nobody learns if that fails. -/
def close (buffer : Buffer) : Device := buffer.flush.1.device

end Buffer

end Highlighter
