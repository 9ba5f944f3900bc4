import StatementView.Text.Ranges
import StatementView.Text.Letters
import StatementView.Text.Numerals
import StatementView.Text.Marks

namespace StatementView.Text

def isLetter (c : Char) : Bool := inRanges letterRanges c.toNat

def isDecimalDigit (c : Char) : Bool := inRanges digitRanges c.toNat

def isNumeral (c : Char) : Bool := isDecimalDigit c || inRanges otherNumberRanges c.toNat

def isWordChar (c : Char) : Bool :=
  isLetter c || isDecimalDigit c || inRanges wordMarkRanges c.toNat

end StatementView.Text
