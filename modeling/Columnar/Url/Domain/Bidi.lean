import Columnar.Unicode.Direction

/-!
Domain names with letters that are written from right to left.

As soon as one label of a name has such letters or their numbers, every label has to keep to one
direction, so that the labels are shown in the order in which they are written.
-/

namespace Columnar.Url.Domain

open Unicode (Direction)

/-- Directions that make a name one that is written from right to left. -/
def isRightToLeft : Direction → Bool
  | .rightToLeft | .arabicLetter | .arabicNumber => true
  | _ => false

/-- Directions that have a place in labels of either direction. -/
def isShared : Direction → Bool
  | .europeanNumber | .numberSeparator | .numberTerminator | .commonSeparator | .nonspacing
  | .boundary | .neutral => true
  | _ => false

/-- A label from left to right begins with a letter and ends with a letter or a number, marks
aside. -/
def isLeftToRightLabel (label : List Direction) : Bool :=
  let last := (label.reverse.dropWhile (· = .nonspacing)).head?
  label.head? = some .leftToRight && label.all (fun d => d = .leftToRight || isShared d)
    && (last = some .leftToRight || last = some .europeanNumber)

/-- A label from right to left begins with a letter, ends with a letter or a number, marks aside,
and has numbers of one kind. -/
def isRightToLeftLabel (label : List Direction) : Bool :=
  let last := (label.reverse.dropWhile (· = .nonspacing)).head?
  (label.head? = some .rightToLeft || label.head? = some .arabicLetter)
    && label.all (fun d => isRightToLeft d || isShared d)
    && last.any (fun d => isRightToLeft d || d = .europeanNumber)
    && !(label.contains .europeanNumber && label.contains .arabicNumber)

/-- Whether the labels of a name keep to their directions, where that matters. -/
def keepsDirection (labels : List (List Char)) : Bool :=
  let directions := labels.map fun label => label.map Direction.of
  !(directions.any fun label => label.any isRightToLeft)
    || directions.all fun label =>
      label.isEmpty || isLeftToRightLabel label || isRightToLeftLabel label

end Columnar.Url.Domain
