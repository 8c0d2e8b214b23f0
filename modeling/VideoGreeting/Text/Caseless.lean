import VideoGreeting.Number.Numeral

/-!
# Text without regard to case

Two texts that differ in case only are the same text when folded. Outside ASCII only those
characters are folded whose folded form is ASCII; this decides whether a text equals an ASCII one.
-/

namespace VideoGreeting.Text

/-- The folded form of a character. -/
def fold : Char → List Char
  | 'ſ' => ['s']
  | '\u212a' => ['k']
  | 'ß' | 'ẞ' | '𝾕' => ['s', 's']
  | 'ﬀ' => ['f', 'f']
  | 'ﬁ' => ['f', 'i']
  | 'ﬂ' => ['f', 'l']
  | 'ﬃ' => ['f', 'f', 'i']
  | 'ﬄ' => ['f', 'f', 'l']
  | 'ﬅ' | 'ﬆ' => ['s', 't']
  | c => [Number.lowerAscii c]

/-- The folded form of a text. -/
def folded (text : String) : String := String.ofList (text.toList.flatMap fold)

end VideoGreeting.Text
