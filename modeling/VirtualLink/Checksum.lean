import VirtualLink.Bytes

namespace VirtualLink.Checksum

/-- What four bits contribute to a CRC-32 register. The entries carry the initial value and the final
complement, so a register starts at zero and is read as it is. -/
def nibbleTable : Vector UInt32 16 :=
  #v[0x4DBDF21C, 0x500AE278, 0x76D3D2D4, 0x6B64C2B0, 0x3B61B38C, 0x26D6A3E8, 0x000F9344, 0x1DB88320,
    0xA005713C, 0xBDB26158, 0x9B6B51F4, 0x86DC4190, 0xD6D930AC, 0xCB6E20C8, 0xEDB71064, 0xF0000000]

/-- Shifts four bits in; only the low four bits of `bits` count. -/
def shiftNibble (register : UInt32) (bits : UInt8) : UInt32 :=
  (register >>> 4) ^^^ nibbleTable.get ⟨(register.toUInt8 ^^^ bits).toNat % 16, Nat.mod_lt _ (by decide)⟩

def shiftByte (register : UInt32) (byte : UInt8) : UInt32 :=
  shiftNibble (shiftNibble register byte) (byte >>> 4)

/-- The CRC-32 of IEEE 802.3, four bits at a time, low half of each byte first. -/
def crc32 (bytes : Bytes) : UInt32 :=
  bytes.foldl shiftByte 0

/-- One bit of the reflected polynomial division. -/
def shiftBit (register : UInt32) : UInt32 :=
  if register &&& 1 = 0 then register >>> 1 else (register >>> 1) ^^^ 0xEDB88320

/-- The CRC-32 of IEEE 802.3 as the standard words it: the register starts with all ones, each byte enters
least significant bit first, and the result is complemented. -/
def crc32Bitwise (bytes : Bytes) : UInt32 :=
  ~~~(bytes.foldl (fun register byte => Nat.repeat shiftBit 8 (register ^^^ byte.toUInt32)) 0xFFFFFFFF)

end VirtualLink.Checksum
