import CollectionSearch.Text.Composition
import CollectionSearch.Text.Direction
import CollectionSearch.Text.Joining
import CollectionSearch.Url.LabelCharacter
import CollectionSearch.Url.Punycode

/-!
# Labels

The labels of a domain name stand between its dots. A label in the special form spells characters
beyond ASCII; it is valid if they may stand in a label as they are.

* `Label.spelled?` : the characters that a label spells, if it is valid by itself.
* `Label.areValid` : whether the labels of a name are valid, each by itself and together.
-/

namespace CollectionSearch.Url.Label

/-- How labels begin that spell characters beyond ASCII. -/
def punycodeMark : List Char := ['x', 'n', '-', '-']

/-- Whether a label may be spelled with the characters: there is one beyond ASCII, all may stand
in labels, the first is no mark, and the text is composed and has joiners only where they make a
difference. -/
def isSpelling (cs : List Char) : Bool :=
  cs.any (fun c => 128 ≤ c.toNat) && cs.all isLabelCharacter && !cs.head?.any Text.isMark &&
    Text.isComposed cs && Text.joinersFit cs

/-- The characters that a label spells. -/
def spelled? (label : List Char) : Option (List Char) :=
  if punycodeMark.isPrefixOf label then
    (Punycode.decode? (label.drop punycodeMark.length)).filter isSpelling
  else some label

/-- Whether labels can stand together: if any is written from right to left, all must keep to
their directions. -/
def directionsFit (labels : List (List Char)) : Bool :=
  !labels.any (fun l => l.any fun c => (Text.direction c).turns) ||
    labels.all Text.keepsDirection

/-- Whether the labels of a name are valid. -/
def areValid (labels : List (List Char)) : Bool := (labels.mapM spelled?).any directionsFit

end CollectionSearch.Url.Label
