import MultiSigner.Unicode.BidiClass
/-!
# Labels that are written from the right

A name in which some label has a character that is written from the right is bidirectional, and
each of its labels has to be of one direction: no characters of the other one, and an end that can
not be mistaken.
-/

namespace MultiSigner.Idna

open Unicode (BidiClass bidiClass)

/-- Whether a label has a character that is written from the right. -/
def hasRightToLeft (label : List Char) : Bool :=
  label.any Unicode.isRightToLeft

/-- The classes that may stand in a label of either direction. -/
def isNeutralClass : BidiClass → Bool
  | .europeanNumber => true
  | .europeanSeparator => true
  | .commonSeparator => true
  | .europeanTerminator => true
  | .otherNeutral => true
  | .boundaryNeutral => true
  | .nonspacingMark => true
  | _ => false

/-- The class of the last character that is no mark. -/
def lastClass? (classes : List BidiClass) : Option BidiClass :=
  (classes.reverse.dropWhile (· = .nonspacingMark)).head?

/-- Whether a label that starts with a letter from the left keeps to its direction. -/
def isLeftToRightLabel (classes : List BidiClass) : Bool :=
  classes.all (fun k => k = .leftToRight || isNeutralClass k)
    && (match lastClass? classes with
      | some .leftToRight => true
      | some .europeanNumber => true
      | some _ => false
      | none => true)

/-- Whether a label that starts with a letter from the right keeps to its direction, and has digits
of one kind only. -/
def isRightToLeftLabel (classes : List BidiClass) : Bool :=
  classes.all (fun k => k.isRightToLeft || isNeutralClass k)
    && (match lastClass? classes with
      | some .rightToLeft => true
      | some .arabicLetter => true
      | some .europeanNumber => true
      | some .arabicNumber => true
      | _ => false)
    && !(classes.contains .europeanNumber && classes.contains .arabicNumber)

/-- Whether a label may stand in a bidirectional name. -/
def keepsDirection (label : List Char) : Bool :=
  match label.map bidiClass with
  | [] => true
  | .leftToRight :: rest => isLeftToRightLabel (.leftToRight :: rest)
  | .rightToLeft :: rest => isRightToLeftLabel (.rightToLeft :: rest)
  | .arabicLetter :: rest => isRightToLeftLabel (.arabicLetter :: rest)
  | _ => false

end MultiSigner.Idna
