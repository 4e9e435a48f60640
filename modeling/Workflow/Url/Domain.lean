import Workflow.Text.Canonical
import Workflow.Text.Direction
import Workflow.Text.Joining
import Workflow.Url.Domain.Form
import Workflow.Url.Punycode

/-!
# Domain names

A domain name as it is looked up: in lower case and in ASCII, with every label that needs other
characters written in punycode. Characters are brought to one form first. A label must then start
with a letter or digit that marks can follow, joiners must make a difference in it, and in a name
with letters that run from right to left no label may depend on its neighbours.

A label that is written in punycode already is held to the same rules, and its characters must be
in their form.
-/

namespace Workflow

namespace Domain

/-- ASCII characters that may not stand in a domain name. -/
def forbidden (c : Char) : Bool :=
  c.toNat ≤ 0x20 || c.toNat = 0x7F || "#/:<>?@[\\]^|%".toList.contains c

/-- The labels of a domain name. -/
def labels (name : List Char) : List (List Char) :=
  name.splitOn '.'

/-- The start of a label in punycode. -/
def marker : List Char :=
  ['x', 'n', '-', '-']

/-- Whether a label starts with no mark and each of its joiners is apt. -/
def isWellFormed (label : List Char) : Bool :=
  !(label.head?.map Mark.isMark).getD false && Joining.areApt [] label

/-- Whether a character stands for itself in a label. -/
def isSettled (c : Char) : Bool :=
  c ≠ '.' && !forbidden c && form? c = some [c]

/-- The label that punycode after the marker stands for; the text is in lower case. -/
def ofPunycode? (text : List Char) : Option (List Char) := do
  if text = [] ∨ text.getLast? = some '-' ∨ 2000 < text.length then none
  let label ← Punycode.decode? text
  if label.all isSettled && Canonical.form label = label && isWellFormed label then some label
  else none

/-- The label that a label in its form stands for. -/
def ofForm? (label : List Char) : Option (List Char) :=
  if marker.isPrefixOf label then ofPunycode? (label.drop marker.length)
  else if label.all Punycode.isBasic then some label
  else if label.length ≤ 1000 && isWellFormed label then some label
  else none

/-- The labels that a text without full stops stands for: more than one if it has full stops of
other scripts. -/
def readLabels? (text : List Char) : Option (List (List Char)) := do
  let form ←
    if text.all Punycode.isBasic then some (text.map Char.toLower)
    else (text.mapM form?).map fun forms => Canonical.form forms.flatten
  if form.any forbidden then none
  (labels form).mapM ofForm?

/-- A label in ASCII. -/
def asciiLabel (label : List Char) : List Char :=
  if label.all Punycode.isBasic then label else marker ++ Punycode.encode label

/-- A domain name in ASCII. -/
def toAscii? (name : List Char) : Option (List Char) := do
  let labels := (← (labels name).mapM readLabels?).flatten
  if labels.any (·.any Direction.turns) && !labels.all Direction.isSteady then none
  return List.intercalate ['.'] (labels.map asciiLabel)

end Domain

end Workflow
