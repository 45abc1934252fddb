import MeterGateway.Bytes

/-!
The two checksums of the wire: the sum of the bytes modulo 256, and CRC-16 with the reflected
polynomial `0xA001` started from all ones.  The CRC is given by its bit step, which is linear in
exclusive or.
-/

namespace MeterGateway.Checksum

def byteSum (bs : Bytes) : UInt8 := bs.foldl (· + ·) 0

def crcShift (crc : BitVec 16) : BitVec 16 :=
  if crc.getLsbD 0 then (crc >>> 1) ^^^ 0xA001#16 else crc >>> 1

def crcShifts (crc : BitVec 16) : BitVec 16 :=
  crcShift (crcShift (crcShift (crcShift (crcShift (crcShift (crcShift (crcShift crc)))))))

def crcStep (crc : BitVec 16) (b : UInt8) : BitVec 16 := crcShifts (crc ^^^ b.toBitVec.setWidth 16)

def crc16 (bs : Bytes) : Nat := (bs.foldl crcStep 0xFFFF#16).toNat

def crcTrailer (bs : Bytes) : Bytes := Bytes.ofNatLE 2 (crc16 bs)

theorem crc16_lt (bs : Bytes) : crc16 bs < 65536 := (bs.foldl crcStep 0xFFFF#16).isLt

@[simp] theorem length_crcTrailer (bs : Bytes) : (crcTrailer bs).length = 2 := by
  simp [crcTrailer]

end MeterGateway.Checksum
