import IdmMw.Library.Url
import IdmMw.Model.TargetSystems

/-!
# Addresses

`security/ip-utils.ts`: lists of addresses that are allowed, and the addresses that are private.

* `normalizeIp`: an IPv4 address that is written as an IPv6 address is taken as such;
* `ipv4MatchesCidr`: whether an address is in a network, with the operators on 32 bits of the language;
* `isIpAllowed`: whether an address is in a list of addresses and networks;
* `isPrivateOrLocalAddress`: whether a host is one that a request may not go to.

`Number` is exact here; the language rounds.
-/

namespace IdmMw

/-- What is left of a text that starts with another. -/
def withoutStart (start text : List Char) : Option (List Char) :=
  if start.isPrefixOf text then some (text.drop start.length) else none

def mappedStart : List Char := "::ffff:".toList

/-- Without blanks around it, and without the start of an IPv4 address in IPv6; `none` where nothing is
left (the callers take a text that is empty in the end in the same way). -/
def normalizeIp (value : List Char) : Option (List Char) :=
  if trimChars value = [] then none
  else some ((withoutStart mappedStart (trimChars value)).getD (trimChars value))

/-- `(((a << 24) >>> 0) + ((b << 16) >>> 0) + ((c << 8) >>> 0) + d) >>> 0`. -/
def addressOfParts (parts : List ℕ) : BitVec 32 :=
  match parts with
  | [a, b, c, d] => (BitVec.ofNat 32 a <<< 24) + (BitVec.ofNat 32 b <<< 16) +
      (BitVec.ofNat 32 c <<< 8) + BitVec.ofNat 32 d
  | _ => 0

/-- `isIP(ip) === 4` holds of four numbers without leading zeros, from 0 to 255, and the numbers are
read then. -/
def ipv4ToInt (ip : List Char) : Option (BitVec 32) := (Url.dotted ip).map addressOfParts

/-- `prefix === 0 ? 0 : (0xffffffff << (32 - prefix)) >>> 0`. -/
def prefixMask (bits : ℕ) : BitVec 32 := if bits = 0 then 0 else BitVec.allOnes 32 <<< (32 - bits)

/-- The number of a prefix, if it is an integer from 0 to 32. -/
def prefixBits (prefixText : Option (List Char)) : Option ℕ :=
  match prefixText with
  | none => some 32
  | some text =>
    match Json.numberOfChars (trimChars text) with
    | some q => if q.den = 1 ∧ 0 ≤ q.num ∧ q.num ≤ 32 then some q.num.toNat else none
    | none => none

/-- `const [base, prefixText] = cidr.split('/')`. -/
def splitCidr (cidr : List Char) : List Char × Option (List Char) :=
  match cidr.splitOn '/' with
  | base :: prefixText :: _ => (base, some prefixText)
  | [base] => (base, none)
  | [] => ([], none)

def ipv4MatchesCidr (ip cidr : List Char) : Bool :=
  let (base, prefixText) := splitCidr cidr
  match prefixBits prefixText with
  | none => false
  | some bits =>
    match ipv4ToInt ip, ipv4ToInt base with
    | some ipInt, some baseInt => ipInt &&& prefixMask bits = baseInt &&& prefixMask bits
    | _, _ => false

/-- The networks of private addresses. -/
def privateNetworks : List String :=
  ["10.0.0.0/8", "172.16.0.0/12", "192.168.0.0/16", "127.0.0.0/8", "169.254.0.0/16", "0.0.0.0/8"]

/-- The hosts of URLs, which are written in ASCII. -/
def isPrivateOrLocalAddress (hostname : List Char) : Bool :=
  match normalizeIp (hostname.map Char.toLower) with
  | none | some [] => false
  | some host =>
    if host = "localhost".toList ∨ host = "::1".toList then true
    else
      match ipv4ToInt host with
      | none => false
      | some ip => (privateNetworks.any fun network => ipv4MatchesCidr host network.toList) ||
          ip = 0xffffffff

end IdmMw
