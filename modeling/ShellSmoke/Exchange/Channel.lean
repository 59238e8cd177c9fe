/-
This file models a pipe: a bounded queue of bytes, with the number of descriptors that its two ends
have. Whoever reads sees the end of the pipe when it is empty and no descriptor for writing is left;
a pipe without a descriptor for reading refuses what is written to it.
-/

import ShellSmoke.Bytes

namespace ShellSmoke

/-! ### Buffers -/

/-- Bytes in a row whose number is known. -/
structure Buffer where
  bytes : Bytes
  size : Nat
  size_eq : size = bytes.length
deriving DecidableEq

namespace Buffer

/-- The buffer of a byte string. -/
def ofBytes (bytes : Bytes) : Buffer := ⟨bytes, bytes.length, rfl⟩

/-- The buffer without bytes. -/
def empty : Buffer := ofBytes []

instance : Inhabited Buffer := ⟨empty⟩

/-- The bytes of a buffer, and after them those of another. -/
def append (buffer other : Buffer) : Buffer :=
  ⟨buffer.bytes ++ other.bytes, buffer.size + other.size, by
    rw [List.length_append, buffer.size_eq, other.size_eq]⟩

/-- The first bytes of a buffer. -/
def take (buffer : Buffer) (count : Nat) : Buffer :=
  ⟨buffer.bytes.take count, min count buffer.size, by rw [List.length_take, buffer.size_eq]⟩

/-- What the first bytes of a buffer leave. -/
def drop (buffer : Buffer) (count : Nat) : Buffer :=
  ⟨buffer.bytes.drop count, buffer.size - count, by rw [List.length_drop, buffer.size_eq]⟩

/-- Whether a buffer has no bytes. -/
def isEmpty (buffer : Buffer) : Bool := buffer.size == 0

end Buffer

/-! ### Channels -/

/-- A pipe. -/
structure Channel where
  /-- How many bytes the pipe can hold. -/
  capacity : Nat
  /-- The bytes that were written and not yet read, in the order they were written. -/
  held : Buffer
  /-- The number of descriptors for reading. -/
  readers : Nat
  /-- The number of descriptors for writing. -/
  writers : Nat
deriving DecidableEq, Inhabited

namespace Channel

/-- The capacity that pipes have unless something else is asked for. -/
def usualCapacity : Nat := 65536

/-- A pipe with nothing in it. -/
def fresh (capacity readers writers : Nat) : Channel := ⟨capacity, .empty, readers, writers⟩

/-- How many more bytes a pipe can take. -/
def free (channel : Channel) : Nat := channel.capacity - channel.held.size

/-- Whether a reader sees the end. -/
def atEnd (channel : Channel) : Bool := channel.held.isEmpty && channel.writers == 0

/-- Whether a writer is refused. -/
def broken (channel : Channel) : Bool := channel.readers == 0

/-- Puts bytes in. -/
def push (channel : Channel) (bytes : Buffer) : Channel :=
  { channel with held := channel.held.append bytes }

/-- Takes the first bytes out. -/
def pull (channel : Channel) (count : Nat) : Channel :=
  { channel with held := channel.held.drop count }

/-- Adds a descriptor for reading. -/
def addReader (channel : Channel) : Channel := { channel with readers := channel.readers + 1 }

/-- Takes a descriptor for reading away. -/
def removeReader (channel : Channel) : Channel := { channel with readers := channel.readers - 1 }

/-- Adds a descriptor for writing. -/
def addWriter (channel : Channel) : Channel := { channel with writers := channel.writers + 1 }

/-- Takes descriptors for writing away. -/
def removeWriters (channel : Channel) (count : Nat) : Channel :=
  { channel with writers := channel.writers - count }

end Channel

end ShellSmoke
