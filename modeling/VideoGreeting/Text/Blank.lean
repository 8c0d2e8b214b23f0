/-!
# White space

The characters with the Unicode property `White_Space`, and trimming by it.
-/

namespace VideoGreeting.Text

/-- Whether a character has the Unicode property `White_Space`. -/
def isBlank (c : Char) : Bool :=
  ('\t' ≤ c && c ≤ '\r') || c == ' ' || c == '\u0085' || c == '\u00a0' || c == '\u1680' ||
    ('\u2000' ≤ c && c ≤ '\u200a') || c == '\u2028' || c == '\u2029' || c == '\u202f' ||
    c == '\u205f' || c == '\u3000'

/-- Drops the characters at both ends that satisfy `p`. -/
def stripBy (p : Char → Bool) (cs : List Char) : List Char :=
  ((cs.dropWhile p).reverse.dropWhile p).reverse

/-- Drops the characters at the end that satisfy `p`. -/
def stripEndBy (p : Char → Bool) (cs : List Char) : List Char :=
  (cs.reverse.dropWhile p).reverse

/-- The text without white space at its ends. -/
def trim (s : String) : String := String.ofList (stripBy isBlank s.toList)

/-- Splits at every character that satisfies `p`; there is always at least one piece. -/
def splitBy (p : Char → Bool) : List Char → List (List Char)
  | [] => [[]]
  | c :: rest =>
    if p c then [] :: splitBy p rest
    else
      match splitBy p rest with
      | [] => [[c]]
      | piece :: pieces => (c :: piece) :: pieces

/-- Splits at the first character equal to `mark`, which is dropped. -/
def splitOnce (mark : Char) : List Char → Option (List Char × List Char)
  | [] => none
  | c :: rest =>
    if c = mark then some ([], rest)
    else (splitOnce mark rest).map fun (before, after) => (c :: before, after)

end VideoGreeting.Text
