import Mathlib.Tactic.Common
/-!
# Inventory addresses

An address is an IP literal or a DNS or SSH host alias. The literals are
those the standard library's parser reads: four decimal octets, or up to
eight hexadecimal groups with one elision and a trailing embedded IPv4
address.
-/

namespace SimpleNetworkMonitor

namespace IpParser

/-- The value of a digit in a radix. -/
def digit? (radix : ℕ) (c : Char) : Option ℕ :=
  let v? :=
    if '0' ≤ c ∧ c ≤ '9' then some (c.toNat - '0'.toNat)
    else if 'a' ≤ c ∧ c ≤ 'f' then some (c.toNat - 'a'.toNat + 10)
    else if 'A' ≤ c ∧ c ≤ 'F' then some (c.toNat - 'A'.toNat + 10)
    else none
  v?.filter (· < radix)

/-- The leading digits of the input and what follows them. -/
def digits (radix : ℕ) : List Char → List ℕ × List Char
  | [] => ([], [])
  | c :: cs =>
    match digit? radix c with
    | some d => let (ds, rest) := digits radix cs; (d :: ds, rest)
    | none => ([], c :: cs)

/-- `read_number`: at most `maxDigits` digits below `bound`, with a leading
zero only where it is allowed or stands alone. -/
def readNumber (radix maxDigits bound : ℕ) (allowZeroPrefix : Bool) (cs : List Char) :
    Option (ℕ × List Char) :=
  let (ds, rest) := digits radix cs
  let value := ds.foldl (fun acc d => acc * radix + d) 0
  if ds = [] ∨ maxDigits < ds.length ∨ bound ≤ value then none
  else if !allowZeroPrefix ∧ ds.head? = some 0 ∧ 1 < ds.length then none
  else some (value, rest)

/-- `read_separator`: the separator stands before every item but the
first. -/
def readSeparator {α : Type} (sep : Char) (index : ℕ)
    (inner : List Char → Option (α × List Char)) (cs : List Char) : Option (α × List Char) :=
  if index = 0 then inner cs
  else
    match cs with
    | c :: cs => if c = sep then inner cs else none
    | [] => none

/-- `read_ipv4_addr`: the input past four octets. -/
def readIpv4 (cs : List Char) : Option (List Char) :=
  (List.range 4).foldl
    (fun rest? i => rest?.bind fun rest =>
      (readSeparator '.' i (readNumber 10 3 256 false) rest).map Prod.snd)
    (some cs)

/-- `read_groups`: how many of the `limit` groups were read, whether the
last two are an embedded IPv4 address, and the rest of the input. -/
def readGroups (limit : ℕ) : ℕ → List Char → ℕ × Bool × List Char
  | 0, cs => (limit, false, cs)
  | left + 1, cs =>
    let i := limit - (left + 1)
    let ipv4 :=
      if 1 ≤ left then readSeparator ':' i (fun cs => (readIpv4 cs).map fun r => ((), r)) cs
      else none
    match ipv4 with
    | some (_, rest) => (i + 2, true, rest)
    | none =>
      match readSeparator ':' i (readNumber 16 4 65536 true) cs with
      | some (_, rest) => readGroups limit left rest
      | none => (i, false, cs)

/-- `read_ipv6_addr`: the input past the groups around one elision. -/
def readIpv6 (cs : List Char) : Option (List Char) :=
  let (headSize, headIpv4, rest) := readGroups 8 8 cs
  if headSize = 8 then some rest
  else if headIpv4 then none
  else
    match rest with
    | ':' :: ':' :: rest =>
      let limit := 8 - (headSize + 1)
      some (readGroups limit limit rest).2.2
    | _ => none

/-- `value.parse::<IpAddr>().is_ok()`: the whole input is one literal. -/
def parses (value : String) : Bool :=
  match readIpv4 value.toList with
  | some rest => rest.isEmpty
  | none =>
    match readIpv6 value.toList with
    | some rest => rest.isEmpty
    | none => false

end IpParser

/-- A character an identifier or alias may hold. -/
def identifierChar (c : Char) : Bool := c.isAlphanum || c = '-' || c = '_' || c = '.'

def validateAddress (value : String) : Except String Unit :=
  if IpParser.parses value then .ok ()
  else if value.isEmpty ∨ value.utf8ByteSize > 253
      ∨ !(value.toList.head?.any Char.isAlphanum) ∨ !(value.toList.all identifierChar) then
    .error "address must be an IP literal or DNS/SSH host alias"
  else .ok ()

end SimpleNetworkMonitor
