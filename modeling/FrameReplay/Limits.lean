/-!
# Limits

The sizes that every part of the library agrees on: how many templates a table holds, how long
one template may be, and how much storage stands behind one packet buffer.
-/

namespace FrameReplay

/-- Slots of a template table when no capacity is asked for. -/
abbrev defaultSlots : Nat := 2048

/-- Bytes of payload that one template carries. -/
abbrev templateSize : Nat := 2048

/-- Ethernet, IPv4 and UDP header bytes in front of a UDP payload. -/
abbrev headerBytes : Nat := 14 + 20 + 8

/-- The longest UDP payload whose frame still fits one template. -/
abbrev maxPayload : Nat := templateSize - headerBytes

/-- Bytes of storage behind one packet buffer. -/
abbrev storageSize : Nat := 4096

/-- Bytes that a packet buffer keeps free in front of its frame unless told otherwise. -/
abbrev defaultHeadroom : Nat := 256

/-- The longest frame that a packet buffer with the default headroom can load. -/
abbrev seedRoom : Nat := storageSize - defaultHeadroom

/-- The largest number of slots that a 32-bit index can address. -/
abbrev maxSlots : Nat := 4294967295

end FrameReplay
