/-
Module: IceRpc.Types.PlainCodec
Purpose: A plain byte codec for services over bytes.  It meets what the transport
  relies on in rkyv, so the assumptions `RoundTrips`, `Total` and `FoldsAlike`
  are satisfiable together.
Trusted boundary: none
Main exports: plainCodec, plainCodec_roundTrips, plainCodec_total,
  plainCodec_foldsAlike
-/
import Mathlib.Data.List.Basic
import IceRpc.Types.Wire

namespace IceRpc

namespace PlainCodec

/-- A character as the three bytes of its code point. -/
def charBytes (char : Char) : Bytes :=
  [UInt8.ofNat (char.toNat / 65536), UInt8.ofNat (char.toNat / 256),
    UInt8.ofNat char.toNat]

def textBytes (text : String) : Bytes :=
  text.toList.flatMap charBytes

def readChars : Bytes → List Char
  | high :: middle :: low :: rest =>
      Char.ofNat (high.toNat * 65536 + middle.toNat * 256 + low.toNat) ::
        readChars rest
  | _ => []

def readText (bytes : Bytes) : String :=
  String.ofList (readChars bytes)

/-- Code points stay below `0x110000`, so three bytes hold them. -/
theorem toNat_lt_three_bytes (char : Char) : char.toNat < 65536 * 256 := by
  have valid := char.valid
  simp only [UInt32.isValidChar, Nat.isValidChar] at valid
  have sameNat : char.toNat = char.val.toNat := rfl
  omega

theorem readChars_charBytes (char : Char) (rest : Bytes) :
    readChars (charBytes char ++ rest) = char :: readChars rest := by
  have bound := toNat_lt_three_bytes char
  have joined : (char.toNat / 65536) % 256 * 65536 +
      (char.toNat / 256) % 256 * 256 + char.toNat % 256 = char.toNat := by omega
  simp [charBytes, readChars, UInt8.toNat_ofNat', joined]

@[simp] theorem readText_textBytes (text : String) :
    readText (textBytes text) = text := by
  have chars : ∀ chars : List Char, readChars (chars.flatMap charBytes) = chars := by
    intro chars
    induction chars with
    | nil => rfl
    | cons char chars ih => rw [List.flatMap_cons, readChars_charBytes, ih]
  rw [readText, textBytes, chars, String.ofList_toList]

def halfBytes (half : UInt16) : Bytes :=
  [UInt8.ofNat (half.toNat / 256), UInt8.ofNat half.toNat]

def rpcBytes : RpcError → Bytes
  | .serializationError => [0]
  | .transportError message => 1 :: textBytes message
  | .timeout => [2]
  | .cancelled => [3]
  | .internal message => 4 :: textBytes message
  | .protocolMismatch message => 5 :: textBytes message
  | .unknownMethod method => 6 :: textBytes method
  | .unknownService id => 7 :: textBytes id
  | .incompatibleVersion expected actual =>
      8 :: (halfBytes expected ++ halfBytes actual)

def readRpc : Bytes → Except String RpcError
  | [0] => .ok .serializationError
  | 1 :: text => .ok (.transportError (readText text))
  | [2] => .ok .timeout
  | [3] => .ok .cancelled
  | 4 :: text => .ok (.internal (readText text))
  | 5 :: text => .ok (.protocolMismatch (readText text))
  | 6 :: text => .ok (.unknownMethod (readText text))
  | 7 :: text => .ok (.unknownService (readText text))
  | [8, eHigh, eLow, aHigh, aLow] =>
      .ok (.incompatibleVersion
        (UInt16.ofNat (eHigh.toNat * 256 + eLow.toNat))
        (UInt16.ofNat (aHigh.toNat * 256 + aLow.toNat)))
  | _ => .error "invalid error"

theorem readHalf_halfBytes (half : UInt16) :
    UInt16.ofNat ((UInt8.ofNat (half.toNat / 256)).toNat * 256 +
      (UInt8.ofNat half.toNat).toNat) = half := by
  have bound := half.toNat_lt
  have joined : (half.toNat / 256) % 256 * 256 + half.toNat % 256 = half.toNat := by
    omega
  rw [UInt8.toNat_ofNat', UInt8.toNat_ofNat', joined, UInt16.ofNat_toNat]

theorem readRpc_rpcBytes (err : RpcError) : readRpc (rpcBytes err) = .ok err := by
  cases err with
  | incompatibleVersion expected actual =>
      simp only [rpcBytes, halfBytes, List.cons_append, List.nil_append, readRpc,
        readHalf_halfBytes]
  | _ => simp [rpcBytes, readRpc]

def wireBytes : WireEvent UInt8 UInt8 → Bytes
  | .next value => [0, value]
  | .complete => [1]
  | .completeWith value => [2, value]
  | .error err => [3, err]
  | .rpcError err => 4 :: rpcBytes err

def readWire : Bytes → Except String (WireEvent UInt8 UInt8)
  | [0, value] => .ok (.next value)
  | [1] => .ok .complete
  | [2, value] => .ok (.completeWith value)
  | [3, err] => .ok (.error err)
  | 4 :: bytes => (readRpc bytes).map .rpcError
  | _ => .error "invalid event"

theorem readWire_wireBytes (wire : WireEvent UInt8 UInt8) :
    readWire (wireBytes wire) = .ok wire := by
  cases wire with
  | rpcError err =>
      show (readRpc (rpcBytes err)).map WireEvent.rpcError = .ok (.rpcError err)
      rw [readRpc_rpcBytes]
      rfl
  | _ => rfl

end PlainCodec

/-- The plain codec, as the parameter the transport takes. -/
def plainCodec : Rkyv UInt8 UInt8 where
  encodeWire wire := some (PlainCodec.wireBytes wire)
  decodeWire := PlainCodec.readWire
  encodeRpc err := some (PlainCodec.rpcBytes err)
  decodeRpc := PlainCodec.readRpc

theorem plainCodec_roundTrips : plainCodec.RoundTrips where
  wire wire bytes encoded := by
    cases encoded
    exact PlainCodec.readWire_wireBytes wire
  rpc err bytes encoded := by
    cases encoded
    exact PlainCodec.readRpc_rpcBytes err

theorem plainCodec_total : plainCodec.Total where
  wire _ := rfl
  rpc _ := rfl

theorem plainCodec_foldsAlike : plainCodec.FoldsAlike := fun _ => rfl

end IceRpc
