import ProfileBrowser.Url.Domain.Label
import ProfileBrowser.Url.Punycode
/-!
# Domains

The names of hosts. A domain is written in ASCII whatever its characters are: it is brought into its
one spelling, and a label with other characters is encoded. A label that is encoded already has to
be sound when it is decoded.
-/

namespace ProfileBrowser.Url.Domain

/-- What stands in front of an encoded label. -/
def encodedMark : List Char := "xn--".toList

/-- How many characters an encoded label has at most behind its mark. -/
def longestCode : Nat := 2000

/-- The text of a label of a spelled domain. An encoded one has to encode characters outside ASCII
in their spelling. -/
def labelText? (label : List Char) : Option (List Char) :=
  if encodedMark.isPrefixOf label then do
    let code := label.drop encodedMark.length
    if code.length ≤ longestCode ∧ code.all (·.toNat < 0x80) then
      let text ← Punycode.decode? code
      if text.all (·.toNat < 0x80) ∨ spelled text ≠ text then none else some text
    else none
  else some label

/-- The ASCII form of a label. -/
def labelAscii (label : List Char) : List Char :=
  if label.all (·.toNat < 0x80) then label else encodedMark ++ Punycode.encode label

/-- The ASCII form of a domain, if its labels are sound. Which ASCII characters a domain may have is
not asked. -/
def ascii? (domain : List Char) : Option (List Char) := do
  let labels ← ((spelled domain).splitOn '.').mapM labelText?
  if areSound labels then some (['.'].intercalate (labels.map labelAscii)) else none

end ProfileBrowser.Url.Domain
