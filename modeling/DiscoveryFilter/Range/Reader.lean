import DiscoveryFilter.Range.Basic
import DiscoveryFilter.Range.Netmask
import DiscoveryFilter.Text.Blank
import DiscoveryFilter.Text.Split

/-!
# Reading ranges

```text
range    = block | span | pattern
block    = quad "/" (numeral | netmask)
span     = quad "-" quad
pattern  = octet "." octet "." octet "." octet "."?  |  octet "." (octet "." (octet ".")?)?
octet    = numeral | "*" | "[" numeral "-" numeral "]" | "{" item ("," item)* "}"
item     = numeral | numeral "-" numeral
```

`Range.parse` trims the text and tells the three notations apart by their separators: a `/`
anywhere makes a block, a dash outside brackets a span, and all else is a pattern. A pattern that
ends in a dot may have fewer than four octets; the missing ones are `*`.
-/

namespace DiscoveryFilter

open Text

/-- The largest octet value that an error reports; larger ones are reported as this one. -/
def RangeError.maxReportedValue : Nat :=
  0xFFFFFFFFFFFFFFFF

/-- The value of a numeral that stands in `token`. -/
def readOctetValue (token digits : List Char) : Except RangeError UInt8 :=
  let value := numeralValue digits
  if value ≤ 255 then .ok (UInt8.ofNat value)
  else
    .error (.octetOutOfRange (String.ofList token) (min value RangeError.maxReportedValue))

namespace Ipv4

/-- One part of the quad `token`. -/
def readOctet (token part : List Char) : Except RangeError UInt8 :=
  if isNumeral part then readOctetValue token part
  else .error (.notLiteralAddress (String.ofList token))

/-- Reads four numerals joined by dots, with nothing around them. -/
def read (token : List Char) : Except RangeError Ipv4 :=
  match token.splitOn '.' with
  | [a, b, c, d] => do
    let a ← readOctet token a
    let b ← readOctet token b
    let c ← readOctet token c
    let d ← readOctet token d
    return ⟨a, b, c, d⟩
  | parts => .error (.octetCount (String.ofList token) parts.length)

end Ipv4

namespace Block

/-- Reads a block length: a numeral up to 32, or a netmask. -/
def readLength (text : List Char) : Except RangeError Nat :=
  if isNumeral text then
    if numeralValue text ≤ 32 then .ok (numeralValue text)
    else .error (.invalidLength (String.ofList text))
  else if text.contains '.' then
    match Netmask.length? (String.ofList text) with
    | some length => .ok length
    | none => .error (.unknownNetmask (String.ofList text))
  else .error (.invalidLength (String.ofList text))

/-- Reads the two sides of a `/`, the address first. -/
def read (address length : List Char) : Except RangeError Block := do
  let address ← Ipv4.read (trim address)
  let length ← readLength (trim length)
  Block.ofLength address length

end Block

namespace Span

/-- Reads the two sides of the dash of `token`. -/
def read (token first last : List Char) : Except RangeError Span :=
  let first := trim first
  let last := trim last
  if first.isEmpty || last.isEmpty then .error (.malformedSpan (String.ofList token))
  else do
    let first ← Ipv4.read first
    let last ← Ipv4.read last
    return ⟨first, last⟩

end Span

namespace OctetSet

/-- Reads the bounds of a span of values that stands in `octet`. -/
def readSpan (octet first last : List Char) : Except RangeError OctetSet :=
  if isNumeral first && isNumeral last then do
    let first ← readOctetValue octet first
    let last ← readOctetValue octet last
    if last < first then throw (.invertedOctetSpan (String.ofList octet))
    return span first last
  else .error (.invalidOctet (String.ofList octet))

/-- Reads one entry of a list in braces. -/
def readItem (octet item : List Char) : Except RangeError OctetSet :=
  match splitFirst '-' item with
  | some (first, last) => readSpan octet (trim first) (trim last)
  | none =>
    if isNumeral item then single <$> readOctetValue octet item
    else .error (.invalidOctet (String.ofList octet))

/-- Reads the entries of a list in braces and adds their values one entry after the other. -/
def readItems (octet : List Char) (items : List (List Char)) : Except RangeError OctetSet :=
  items.foldlM (fun s item => s.extend <$> readItem octet item) empty

/-- Reads one octet of a pattern. -/
def read (octet : List Char) : Except RangeError OctetSet :=
  if octet = ['*'] then .ok full
  else
    match unwrap '[' ']' octet, unwrap '{' '}' octet with
    | some inner, _ =>
      match splitFirst '-' inner with
      | some (first, last) => readSpan octet (trim first) (trim last)
      | none => .error (.invalidOctet (String.ofList octet))
    | none, some inner => readItems octet ((inner.splitOn ',').map trim)
    | none, none =>
      if isNumeral octet then single <$> readOctetValue octet octet
      else .error (.invalidOctet (String.ofList octet))

end OctetSet

namespace Pattern

/-- The octets of a pattern. A final dot is dropped and, if it is there, missing octets are `*`. -/
def parts (token : List Char) : List (List Char) :=
  if token.getLast? = some '.' then
    let parts := (token.dropLast.splitOn '.').map trim
    parts ++ List.replicate (4 - parts.length) ['*']
  else (token.splitOn '.').map trim

/-- Reads the octets of a pattern from the left. -/
def read (token : List Char) : Except RangeError Pattern :=
  match parts token with
  | [a, b, c, d] => do
    let a ← OctetSet.read a
    let b ← OctetSet.read b
    let c ← OctetSet.read c
    let d ← OctetSet.read d
    return ⟨a, b, c, d⟩
  | parts => .error (.octetCount (String.ofList token) parts.length)

end Pattern

namespace Range

/-- The brackets inside which a dash does not separate the ends of a span. -/
def brackets : Nesting :=
  ⟨['[', '{'], [']', '}']⟩

/-- Reads a range from a text without blanks at its ends. -/
def read (token : List Char) : Except RangeError Range :=
  if token.isEmpty then .error .emptyToken
  else if token.contains '-' && token.contains '/' then
    .error (.mixedNotation (String.ofList token))
  else
    match splitFirst '/' token with
    | some (address, length) => .block <$> Block.read address length
    | none =>
      match brackets.split '-' token with
      | [_] => .pattern <$> Pattern.read token
      | [first, last] => .span <$> Span.read token first last
      | _ => .error (.malformedSpan (String.ofList token))

/-- Reads one range. -/
def parse (token : String) : Except RangeError Range :=
  read (trim token.toList)

end Range

end DiscoveryFilter
