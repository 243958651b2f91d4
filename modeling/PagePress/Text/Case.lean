import PagePress.Text.CaseTable
import PagePress.Text.CharTable

/-!
# Letter case beyond ASCII

* `toLower` is the lower-case form of a text, with the final form of a Greek sigma at the
  end of a word;
* `caseFold` is the form under which texts are compared without regard to case;
* `isPunct` and `isAlphanumeric` are the Unicode classes.
-/

namespace PagePress

namespace Text

/-- Punctuation and symbols. -/
def isPunct (c : Char) : Bool := inRanges punctuationRanges c

/-- Alphabetic and numeric characters. -/
def isAlphanumeric (c : Char) : Bool := inRanges alnumRanges c

/-! ## Lower case -/

/-- The lower-case form of a character away from the end of a word. -/
def lowerChar (c : Char) : List Char :=
  if c.toNat < 128 then [c.toLower]
  else if c.toNat = 304 then [Char.ofNat 105, Char.ofNat 775]
  else [Char.ofNat (mapRuns lowerRuns c.toNat)]

/-- Whether the first character that is not passed over has case. -/
def meetsCased (cs : List Char) : Bool :=
  match cs.dropWhile (inRanges caseIgnorableRanges) with
  | [] => false
  | c :: _ => inRanges casedRanges c

/-- The capital sigma. -/
def capitalSigma : Char := Char.ofNat 0x3A3

/-- The small sigma at the end of a word. -/
def finalSigma : Char := Char.ofNat 0x3C2

/-- Lowers the characters after `before`, which is in reverse. -/
def lowerAfter (before : List Char) : List Char → List Char
  | [] => []
  | c :: rest =>
    (if c = capitalSigma && meetsCased before && !meetsCased rest then [finalSigma]
      else lowerChar c) ++ lowerAfter (c :: before) rest

/-- The lower-case form of a text. -/
def toLower (s : String) : String := String.ofList (lowerAfter [] s.toList)

/-! ## Case folding -/

/-- The folded form of a character. -/
def foldChar (c : Char) : List Char :=
  if c.toNat < 128 then [c.toLower]
  else
    match foldExpansions.find? (·.1 == c.toNat) with
    | some (_, cs) => cs.map Char.ofNat
    | none => [Char.ofNat (mapRuns foldRuns c.toNat)]

/-- The form of a text that is the same for all its spellings in upper and lower case. -/
def caseFold (s : String) : String := String.ofList (s.toList.flatMap foldChar)

end Text

end PagePress
