import Provision.Url.DomainMapping.Table

namespace Provision.Url

/-- The texts that consecutive characters are mapped to, and the code point of the first of them. -/
structure MappedRun where
  first : Nat
  texts : Array (List Char)

def MappedRun.find? (run : MappedRun) (c : Char) : Option (List Char) :=
  if run.first ≤ c.toNat then run.texts[c.toNat - run.first]? else none

def mappedText? (word : List Char) : Option (List Char) :=
  (Text.split (· == '+') word).mapM fun code => (Text.Hex.number? code).map Char.ofNat

def MappedRun.ofWord? (word : List Char) : Option MappedRun :=
  match Text.cutFirst (· == '>') word with
  | (first, some texts) => do
    return ⟨← Text.Hex.number? first, (← (Text.split (· == ',') texts).mapM mappedText?).toArray⟩
  | (_, none) => none

def mappedRuns : List MappedRun := (Text.words mappedWords.toList).filterMap MappedRun.ofWord?

/-- What a character of a domain name is mapped to, if it may stand there. -/
def mapDomainChar? (c : Char) : Option (List Char) :=
  if c.toNat < 0x80 then some [c.toLower]
  else
    match mappedRuns.findSome? (·.find? c) with
    | some text => some text
    | none =>
      if ignoredChars.contains c then some []
      else if refusedChars.contains c then none
      else some [c]

/-- Whether a character may stand in a domain name and is mapped to itself. -/
def isMapped (c : Char) : Bool := mapDomainChar? c == some [c]

end Provision.Url
