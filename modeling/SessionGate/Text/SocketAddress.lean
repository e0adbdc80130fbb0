import SessionGate.Number.Power

/-!
# Socket addresses

`SocketAddress.ofText?` reads an address and a port; `SocketAddress.display` writes them.

- An address of four octets has decimal numbers without leading zeros.
- An address of eight groups stands in brackets. Two colons stand for a run of zero groups, the last
  two groups may be written as four octets, and a zone may follow.
- Where it is written, the longest run of zero groups is left out, if it is longer than one.
-/
namespace SessionGate
set_option autoImplicit false

inductive SocketAddress where
  | octets (address : List Nat) (port : Nat)
  | groups (address : List Nat) (zone port : Nat)
deriving DecidableEq, Inhabited

namespace SocketAddress

/-! ## Reading -/

def digitValue? (c : Char) : Option Nat :=
  if c.isDigit then some (c.toNat - '0'.toNat)
  else if 'a' ≤ c ∧ c ≤ 'f' then some (c.toNat - 'a'.toNat + 10)
  else if 'A' ≤ c ∧ c ≤ 'F' then some (c.toNat - 'A'.toNat + 10)
  else none

def isDigitOf (base : Nat) (c : Char) : Bool := (digitValue? c).any (· < base)

/-- Reads a number below a limit, with no more digits than the most. -/
def number? (base limit : Nat) (most : Option Nat) (text : List Char) : Option (Nat × List Char) :=
  let digits := text.takeWhile (isDigitOf base)
  let value := digits.foldl (fun n c => n * base + (digitValue? c).getD 0) 0
  if digits.isEmpty || most.any (· < digits.length) || limit ≤ value then none
  else some (value, text.drop digits.length)

/-- Reads an octet; a number that starts with a zero is zero. -/
def octet? (text : List Char) : Option (Nat × List Char) := do
  let (n, rest) ← number? 10 256 (some 3) text
  if text.head? = some '0' ∧ rest.length + 1 < text.length then none else some (n, rest)

def sign? (c : Char) : List Char → Option (List Char)
  | d :: rest => if d = c then some rest else none
  | [] => none

def octets? (text : List Char) : Option (List Nat × List Char) := do
  let (a, rest) ← octet? text
  let (b, rest) ← octet? (← sign? '.' rest)
  let (c, rest) ← octet? (← sign? '.' rest)
  let (d, rest) ← octet? (← sign? '.' rest)
  return ([a, b, c, d], rest)

/-- The two groups of four octets. -/
def groupsOfOctets : List Nat → List Nat
  | a :: b :: rest => (a * 256 + b) :: groupsOfOctets rest
  | _ => []

/-- Reads at most `left` groups with colons between them; says whether octets were the last ones. -/
def readGroups : (left : Nat) → (first : Bool) → List Char → List Nat × Bool × List Char
  | 0, _, text => ([], false, text)
  | left + 1, first, text =>
    match if first then some text else sign? ':' text with
    | none => ([], false, text)
    | some inner =>
      match if 0 < left then octets? inner else none with
      | some (parts, rest) => (groupsOfOctets parts, true, rest)
      | none =>
        match number? 16 65536 (some 4) inner with
        | none => ([], false, text)
        | some (group, rest) =>
          let (others, inOctets, rest) := readGroups left false rest
          (group :: others, inOctets, rest)

def groups? (text : List Char) : Option (List Nat × List Char) :=
  let (head, inOctets, rest) := readGroups 8 true text
  if head.length = 8 then some (head, rest)
  else if inOctets then none
  else do
    let rest ← sign? ':' (← sign? ':' rest)
    let (tail, _, rest) := readGroups (7 - head.length) true rest
    return (head ++ List.replicate (8 - head.length - tail.length) 0 ++ tail, rest)

def port? (text : List Char) : Option Nat := do
  match ← number? 10 65536 none (← sign? ':' text) with
  | (port, []) => some port
  | _ => none

/-- Reads a zone, if there is one. -/
def zone? (text : List Char) : Option (Nat × List Char) :=
  match text with
  | '%' :: rest => number? 10 (twoPow 32) none rest
  | _ => some (0, text)

def ofText? (text : String) : Option SocketAddress :=
  match text.toList with
  | '[' :: rest => do
    let (parts, rest) ← groups? rest
    let (zone, rest) ← zone? rest
    return .groups parts zone (← port? (← sign? ']' rest))
  | chars => do
    let (parts, rest) ← octets? chars
    return .octets parts (← port? rest)

/-! ## Writing -/

def port : SocketAddress → Nat
  | .octets _ port => port
  | .groups _ _ port => port

def displayOctets (octets : List Nat) : String := String.intercalate "." (octets.map toString)

def displayGroup (group : Nat) : String := String.ofList (Nat.toDigits 16 group)

def displayGroups (groups : List Nat) : String := String.intercalate ":" (groups.map displayGroup)

/-- Length of the run of zeros at the front. -/
def zeros (groups : List Nat) : Nat := (groups.takeWhile (· == 0)).length

/-- Start and length of the first longest run of zeros. -/
def longestRun (groups : List Nat) : Nat × Nat :=
  (List.range groups.length).foldl (fun (start, length) i =>
    let run := zeros (groups.drop i)
    if length < run then (i, run) else (start, length)) (0, 0)

/-- Octets of an address that stands for one of four octets. -/
def embedded? : List Nat → Option (List Nat)
  | [0, 0, 0, 0, 0, 65535, a, b] => some [a / 256, a % 256, b / 256, b % 256]
  | _ => none

def displayAddress (groups : List Nat) : String :=
  match embedded? groups with
  | some parts => "::ffff:" ++ displayOctets parts
  | none =>
    let (start, length) := longestRun groups
    if 1 < length then
      displayGroups (groups.take start) ++ "::" ++ displayGroups (groups.drop (start + length))
    else displayGroups groups

def display : SocketAddress → String
  | .octets address port => displayOctets address ++ ":" ++ toString port
  | .groups address zone port =>
    let zone := if zone = 0 then "" else "%" ++ toString zone
    "[" ++ displayAddress address ++ zone ++ "]:" ++ toString port

end SocketAddress
end SessionGate
