import RedemptionWatch.Text.Bidi
import RedemptionWatch.Text.Composition
import RedemptionWatch.Text.Joining
import RedemptionWatch.Url.DomainMapping
import RedemptionWatch.Url.Punycode

/-!
# Domain names

A domain name in ASCII: its characters are taken to those that stand for them and composed, then
each label with characters outside ASCII is written in Punycode after `xn--`. A label that is
already written so has to be what would be written for the label that it denotes.
-/

namespace RedemptionWatch.DomainName

open Text

/-- Is the character one of ASCII? -/
def isAscii (c : Char) : Bool :=
  c.toNat < 128

/-- Characters of ASCII that may not stand in a domain name. -/
def isForbidden (c : Char) : Bool :=
  c.toNat ≤ 0x20 || c.toNat = 0x7F || "%#/:<>?@[\\]^|".toList.contains c

/-- May a joiner stand between these characters, the nearest ones first? Behind a virama it may. A
zero-width non-joiner may also part two letters that would join. -/
def joinerFits (joiner : Char) (before after : List Char) : Bool :=
  before.head?.any isVirama ||
    (joiner = '\u200c' &&
      Joining.reaches (fun j => j = .following || j = .both) before &&
      Joining.reaches (fun j => j = .preceding || j = .both) after)

/-- Do all joiners of a label fit, of which `before` has been seen, the nearest characters first? -/
def joinersFit (before : List Char) : List Char → Bool
  | [] => true
  | c :: rest =>
    ((c ≠ '\u200c' && c ≠ '\u200d') || joinerFits c before rest) && joinersFit (c :: before) rest

/-- May this stand as a label with characters outside ASCII? -/
def isLabel (cs : List Char) : Bool :=
  !cs.head?.any isMark && joinersFit [] cs

/-- What labels in Punycode start with. -/
def sign : List Char := ['x', 'n', '-', '-']

/-- The label that a text in Punycode denotes. -/
def ofPunycode? (cs : List Char) : Option (List Char) := do
  guard (cs.getLast? ≠ some '-' ∧ cs.length ≤ 2000)
  let label ← Punycode.decode? cs
  guard (label.any (!isAscii ·) ∧ label.all DomainMapping.isFixed ∧ compose label = label)
  guard (¬sign.isPrefixOf label ∧ isLabel label)
  return label

/-- A label: as it is read, and as it is written in ASCII. -/
def label? (cs : List Char) : Option (List Char × List Char) := do
  if sign.isPrefixOf cs then
    return (← ofPunycode? (cs.drop sign.length), cs)
  else if cs.all isAscii then return (cs, cs)
  else
    guard (isLabel cs ∧ cs.length ≤ 1000)
    return (cs, sign ++ Punycode.encode cs)

/-- A domain name in ASCII, if the text is one. -/
def ofChars? (cs : List Char) : Option (List Char) := do
  let name := compose (← cs.mapM DomainMapping.image?).flatten
  guard ¬name.any isForbidden
  let labels ← (name.splitOn '.').mapM label?
  guard (Direction.areReadable (labels.map (·.1)))
  return ['.'].intercalate (labels.map (·.2))

end RedemptionWatch.DomainName
