import CertEnroll.Text.Hex
import CertEnroll.Text.Lowercase

namespace CertEnroll.Serial

def significant (octets : List UInt8) : List UInt8 :=
  match octets.dropWhile (· == 0) with
  | [] => octets.take 1
  | b :: bs => b :: bs

def joined : List UInt8 → List Char
  | [] => []
  | [b] => Text.Hex.upperOctet b
  | b :: bs => Text.Hex.upperOctet b ++ ':' :: joined bs

def format (octets : List UInt8) : String :=
  String.ofList (joined (significant octets))

def storageForm (serial : String) : String :=
  String.ofList ((Text.lowercaseFrom [] serial.toList).map fun c => if c = ':' then '-' else c)

end CertEnroll.Serial
