import SerialModem.Socket.Segmentation

/-!
# The end of a response

A response of HTTP/1.1 says where its body ends: after the bytes counted by
`Content-Length`, or after a chunk of no bytes.  The client finds that end if
the response is cut in the right places.
-/

namespace SerialModem.Socket

open Library Option
open AtHost

variable {cfg : Config} {env : Environment} {modem : Modem}

def hexDigitValue (byte : Byte) : Option Nat :=
  if isdigit byte then
    some (byte.toNat - 48)
  else if 97 ≤ byte && byte ≤ 102 then
    some (byte.toNat - 87)
  else if 65 ≤ byte && byte ≤ 70 then
    some (byte.toNat - 55)
  else
    none

def chunkSize (digits : List Byte) : Option Nat :=
  if digits = [] then
    none
  else
    digits.foldlM (fun value byte => (hexDigitValue byte).map (16 * value + ·)) 0

section

variable {fd : Int} {r : Slot} {world after final : World}

end

end SerialModem.Socket
