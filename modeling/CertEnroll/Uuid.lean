import CertEnroll.Text.Hex

namespace CertEnroll.Uuid

def marked (octets : List UInt8) : List UInt8 :=
  octets.mapIdx fun i b =>
    if i = 6 then b &&& 0x0f ||| 0x40 else if i = 8 then b &&& 0x3f ||| 0x80 else b

def text (octets : List UInt8) : String :=
  let digits := marked octets
  let group (start size : Nat) : String := Text.Hex.encode ((digits.drop start).take size)
  "-".intercalate [group 0 4, group 4 2, group 6 2, group 8 2, group 10 6]

end CertEnroll.Uuid
