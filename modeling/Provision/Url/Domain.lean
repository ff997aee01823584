import Provision.Url.Label

namespace Provision.Url

/-- Whether a domain name has characters that are written from right to left. -/
def hasRightToLeft (labels : List Label) : Bool :=
  labels.any fun label => label.characters.any Unicode.isRightToLeft

/-- The labels of the text of a domain name. If any of them has characters that are written from
right to left, all of them keep their direction. -/
def domainLabels? (text : List Char) : Option (List Label) := do
  let mapped ← text.mapM mapDomainChar?
  let pieces := Text.split (· == '.') (Unicode.composed mapped.flatten)
  let labels ← pieces.mapM Label.ofMapped?
  if hasRightToLeft labels && !labels.all fun label => keepsDirection label.characters then none
  else some labels

def domainToAscii? (name : List Char) : Option (List Char) := do
  let text ← Text.Utf8.text? (percentDecode (Text.utf8 (String.ofList name)))
  let labels ← domainLabels? text.toList
  return Text.join ['.'] (labels.map (·.ascii))

end Provision.Url
