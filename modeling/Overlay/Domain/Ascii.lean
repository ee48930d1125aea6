import Overlay.Domain.Label
import Overlay.Text.Split

/-!
# The ASCII form of a domain

A text is brought into the ASCII form of a domain in one pass: each character is read as domains hold
it, the whole is normalized and cut at its dots, and each label is brought into its own ASCII form.
Labels may be empty and of any length, and hyphens may stand anywhere. The text is no domain when one
of these steps fails and when the result has a character that no domain contains.
-/

namespace Overlay.Domain

/-- A character of ASCII that no domain contains. -/
def isForbidden (c : Char) : Bool :=
  c.toNat ≤ 0x20 || c.toNat = 0x7F || ['%', '#', '/', ':', '<', '>', '?', '@', '[', '\\', ']', '^',
    '|'].contains c

/-- Do the labels keep their parts in their places? Only letters that run from right to left could
make them change. -/
def labelsFit (labels : List Label) : Bool :=
  !(labels.any fun l => l.text.any isBackward) ||
    labels.all fun l => directionsFit (l.text.map direction)

/-- The labels of a domain. -/
def labels? (s : List Char) : Option (List Label) :=
  match readAll? (s.map Char.toNat) with
  | some text => (Text.split '.' ((normalize text).map Char.ofNat)).mapM Label.ofText?
  | none => none

/-- The ASCII form of a domain. -/
def toAscii? (s : List Char) : Option (List Char) :=
  match labels? s with
  | none => none
  | some labels =>
    let ascii := Text.join ['.'] (labels.map (·.ascii))
    if labelsFit labels && !ascii.any isForbidden then some ascii else none

end Overlay.Domain
