import EventGates.Text.Blank
import EventGates.Text.Hex
import EventGates.Text.Quoted
import EventGates.Text.Utf8

/-!
# Addresses of a node

Events that leave a node carry its address: a host name of the local network, or the literal of a
primary address, and a port. What the operating system knows is given as `Facts`; only addresses
that other nodes can reach qualify.
-/

namespace EventGates

/-- How the host part of an address is chosen. -/
inductive AddressMode where
  | dns
  | ipv4
  | ipv6
deriving DecidableEq, Repr

namespace AddressMode

/-- The name in settings and records. -/
def label : AddressMode → String
  | .dns => "dns"
  | .ipv4 => "ipv4"
  | .ipv6 => "ipv6"

/-- The name in error messages. -/
def name : AddressMode → String
  | .dns => "Dns"
  | .ipv4 => "Ipv4"
  | .ipv6 => "Ipv6"

/-- Every spelling in settings. -/
def spellings : List (String × AddressMode) :=
  [("dns", .dns), ("ipv4", .ipv4), ("ip4", .ipv4), ("ipv6", .ipv6), ("ip6", .ipv6)]

/-- A text without blanks around it and with ASCII letters in lower case. -/
def normalSpelling (s : String) : String :=
  String.ofList ((Text.trim s.toList).map Char.toLower)

/-- The report on a text that names no mode. -/
def unknownMessage (s : String) : String :=
  "unknown address mode " ++ Text.quote (normalSpelling s)

/-- The mode that a text names. -/
def parse? (s : String) : Option AddressMode := spellings.lookup (normalSpelling s)

end AddressMode

/-- An address of an interface. -/
inductive Ip where
  | v4 (a b c d : UInt8)
  /-- Eight segments. -/
  | v6 (segments : List UInt16)
deriving DecidableEq, Repr

namespace Ip

/-- Four numbers with points between them. -/
def v4Text (a b c d : Nat) : String :=
  ".".intercalate ([a, b, c, d].map toString)

/-- The length of the run of zeros at the front. -/
def zeroRun (segments : List UInt16) : Nat := (segments.takeWhile (· == 0)).length

/-- Start and length of the longest run of zeros, the first one of several, looking from position
`start` on. -/
def longestZeroRun (start : Nat) : List UInt16 → Nat × Nat
  | [] => (start, 0)
  | x :: xs =>
    let here := zeroRun (x :: xs)
    let later := longestZeroRun (start + 1) xs
    if later.2 ≤ here then (start, here) else later

def segmentsText (segments : List UInt16) : String :=
  ":".intercalate (segments.map fun s => String.ofList (Text.lowerHex s.toNat))

/-- The text of an address of eight segments: the longest run of at least two zeros is left out, and
the last two segments of a mapped address are written as an address of four numbers. -/
def v6Text : List UInt16 → String
  | [0, 0, 0, 0, 0, 0xFFFF, g, h] =>
    "::ffff:" ++ v4Text (g.toNat / 256) (g.toNat % 256) (h.toNat / 256) (h.toNat % 256)
  | segments =>
    let (start, length) := longestZeroRun 0 segments
    if length < 2 then segmentsText segments
    else segmentsText (segments.take start) ++ "::" ++ segmentsText (segments.drop (start + length))

def text : Ip → String
  | v4 a b c d => v4Text a.toNat b.toNat c.toNat d.toNat
  | v6 segments => v6Text segments

/-- Other nodes may reach the address: it is neither unspecified nor local to the node or link. -/
def qualifies : Ip → Bool
  | v4 a b c d =>
    !(a == 127) && !(a == 0 && b == 0 && c == 0 && d == 0) && !(a == 169 && b == 254)
  | v6 segments =>
    !(segments == [0, 0, 0, 0, 0, 0, 0, 1]) && segments.any (· != 0) &&
      (segments.headD 0) &&& 0xFFC0 != 0xFE80

def isV4 : Ip → Bool
  | v4 .. => true
  | v6 _ => false

end Ip

/-- What is known about the node. -/
structure Facts where
  hostname : Option String := none
  /-- The primary address of the four-number family. -/
  primary4 : Option Ip := none
  /-- The primary address of the eight-segment family. -/
  primary6 : Option Ip := none

namespace Facts

/-- The most bytes of a host name that an operating system reports. -/
def maxHostnameBytes : Nat := 255

/-- The host name that an operating system reports as bytes, which a zero byte or the greatest
length ends: damaged parts are replaced, blanks around it dropped, and an empty one is none. -/
def hostnameOfBytes (bs : Text.Bytes) : Option String :=
  match Text.trim (Text.decodeLossy ((bs.take maxHostnameBytes).takeWhile (· ≠ 0))) with
  | [] => none
  | name => some (String.ofList name)

/-- The name in the local network: the first label of the host name. -/
def localName? (hostname : String) : Option String :=
  match Text.trim (hostname.toList.takeWhile (· ≠ '.')) with
  | [] => none
  | label => some (String.ofList label ++ ".local")

/-- The host part of the address of the node, none if no fact serves the mode. -/
def host? (facts : Facts) : AddressMode → Option String
  | .dns => facts.hostname.bind localName?
  | .ipv4 => (facts.primary4.filter fun ip => ip.isV4 && ip.qualifies).map Ip.text
  | .ipv6 =>
    (facts.primary6.filter fun ip => !ip.isV4 && ip.qualifies).map fun ip => "[" ++ ip.text ++ "]"

end Facts

/-- A host part and a port. -/
def senderAddress (host : String) (port : Nat) : String := host ++ ":" ++ toString port

end EventGates
