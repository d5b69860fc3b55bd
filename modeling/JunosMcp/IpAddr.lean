import JunosMcp.Text

/-!
# IP addresses

`IpAddr::from_str`: dotted octets without leading zeros, or groups of up to four hexadecimal digits
with one `::` and an address of four octets at the end. `Display` writes `::` for the longest run of
at least two zero groups.
-/

namespace JunosMcp

inductive IpAddr where
  | v4 (octets : List Nat)
  | v6 (segments : List Nat)
deriving DecidableEq

namespace IpAddr

def isIpv4 : IpAddr → Bool
  | .v4 _ => true
  | .v6 _ => false

def toDigit (radix : Nat) (c : Char) : Option Nat :=
  let value :=
    if c.isDigit then some (c.toNat - '0'.toNat)
    else if 'a' ≤ c ∧ c ≤ 'f' then some (c.toNat - 'a'.toNat + 10)
    else if 'A' ≤ c ∧ c ≤ 'F' then some (c.toNat - 'A'.toNat + 10)
    else none
  value.filter fun n => n < radix

/-- A number and the text behind it. -/
def readNumber (radix maxDigits bits : Nat) (allowZeroPrefix : Bool) (text : Text) :
    Option (Nat × Text) :=
  let digits := text.takeWhile fun c => (toDigit radix c).isSome
  let value := digits.foldl (fun total c => total * radix + (toDigit radix c).getD 0) 0
  if digits.isEmpty || maxDigits < digits.length then none
  else if !allowZeroPrefix && Text.startsWith digits ['0'] && 1 < digits.length then none
  else if value < 2 ^ bits then some (value, text.drop digits.length)
  else none

/-- Every part but the first stands behind a separator. -/
def readSeparator {α : Type} (separator : Char) (index : Nat) (inner : Text → Option (α × Text))
    (text : Text) : Option (α × Text) :=
  if index == 0 then inner text
  else match text with
    | [] => none
    | c :: rest => if c == separator then inner rest else none

def readOctets : Nat → Nat → Text → Option (List Nat × Text)
  | 0, _, text => some ([], text)
  | left + 1, index, text => do
      let (octet, rest) ← readSeparator '.' index (readNumber 10 3 8 false) text
      let (octets, rest) ← readOctets left (index + 1) rest
      return (octet :: octets, rest)

def readIpv4Addr (text : Text) : Option (List Nat × Text) := readOctets 4 0 text

/-- The groups of two octets each. -/
def pairOctets : List Nat → List Nat
  | a :: b :: rest => (a * 256 + b) :: pairOctets rest
  | _ => []

/-- The groups that can be read, whether they end with octets, and the text behind them. -/
def readGroups : Nat → Nat → Text → List Nat × Bool × Text
  | 0, _, text => ([], false, text)
  | left + 1, index, text =>
      match if 0 < left then readSeparator ':' index readIpv4Addr text else none with
      | some (octets, rest) => (pairOctets octets, true, rest)
      | none => match readSeparator ':' index (readNumber 16 4 16 true) text with
          | none => ([], false, text)
          | some (group, rest) =>
              let (groups, embedded, rest) := readGroups left (index + 1) rest
              (group :: groups, embedded, rest)

def readIpv6Addr (text : Text) : Option (List Nat × Text) :=
  let (front, embedded, rest) := readGroups 8 0 text
  if front.length == 8 then some (front, rest)
  else if embedded then none
  else match rest with
    | ':' :: ':' :: rest =>
        let (back, _, rest) := readGroups (7 - front.length) 0 rest
        some (front ++ List.replicate (8 - front.length - back.length) 0 ++ back, rest)
    | _ => none

def readIpAddr (text : Text) : Option (IpAddr × Text) :=
  match readIpv4Addr text with
  | some (octets, rest) => some (.v4 octets, rest)
  | none => (readIpv6Addr text).map fun (segments, rest) => (.v6 segments, rest)

def parse (text : Text) : Option IpAddr :=
  match readIpAddr text with
  | some (address, []) => some address
  | _ => none

example : parse "192.0.2.10".toList = some (.v4 [192, 0, 2, 10]) := by decide

example : parse "2001:db8::192.0.2.1".toList =
    some (.v6 [0x2001, 0xdb8, 0, 0, 0, 0, 0xc000, 0x201]) := by decide

/-! ## `Display` -/

/-- The start and the length of the first longest run of zeros, with the run that ends here. -/
def longestZeros (index : Nat) (current longest : Nat × Nat) : List Nat → Nat × Nat
  | [] => longest
  | 0 :: rest =>
      let current := (if current.2 == 0 then index else current.1, current.2 + 1)
      longestZeros (index + 1) current (if longest.2 < current.2 then current else longest) rest
  | (_ + 1) :: rest => longestZeros (index + 1) (0, 0) longest rest

def displayOctets (octets : List Nat) : Text :=
  List.intercalate ['.'] (octets.map fun octet => (Nat.repr octet).toList)

def displayGroups (segments : List Nat) : Text :=
  List.intercalate [':'] (segments.map (Nat.toDigits 16))

def display : IpAddr → Text
  | .v4 octets => displayOctets octets
  | .v6 [0, 0, 0, 0, 0, 0xffff, high, low] =>
      "::ffff:".toList ++ displayOctets [high / 256, high % 256, low / 256, low % 256]
  | .v6 segments =>
      let (start, length) := longestZeros 0 (0, 0) (0, 0) segments
      if 1 < length then
        displayGroups (segments.take start) ++ "::".toList ++
          displayGroups (segments.drop (start + length))
      else displayGroups segments

example : display (.v6 [0x2001, 0xdb8, 0, 0, 1, 0, 0, 0xa]) = "2001:db8::1:0:0:a".toList := by
  decide

end IpAddr

end JunosMcp
