/-!
# Blank characters

The characters with the Unicode property White_Space, and what depends on them: settings
of `harvest-model` are trimmed of them at both ends, and a value that holds nothing else
counts as empty.
-/

namespace Collector.Text

/-- White_Space of Unicode, as closed ranges of code points. -/
def blankRanges : List (Nat × Nat) :=
  [(0x09, 0x0D), (0x20, 0x20), (0x85, 0x85), (0xA0, 0xA0), (0x1680, 0x1680), (0x2000, 0x200A),
    (0x2028, 0x2029), (0x202F, 0x202F), (0x205F, 0x205F), (0x3000, 0x3000)]

/-- Whether the code point `n` lies in one of the closed ranges. -/
def inRanges (ranges : List (Nat × Nat)) (n : Nat) : Bool :=
  ranges.any fun r => r.1 ≤ n && n ≤ r.2

/-- Whether a character is white space. -/
def isBlankChar (c : Char) : Bool := inRanges blankRanges c.toNat

/-- Whether nothing is left of a text once it is trimmed. -/
def isBlank (s : String) : Bool := s.toList.all isBlankChar

/-- A list without its blank characters at the front and at the end. -/
def trimList (cs : List Char) : List Char :=
  ((cs.dropWhile isBlankChar).reverse.dropWhile isBlankChar).reverse

/-- A text without the blank characters at its two ends. -/
def trim (s : String) : String := String.ofList (trimList s.toList)

/-! ## Letters of settings -/

/-- The lower-case form of an ASCII letter; every other character stays. -/
def lowerChar (c : Char) : Char :=
  if 'A' ≤ c ∧ c ≤ 'Z' then Char.ofNat (c.toNat + 32) else c

/-- A setting in lower case: only the letters `A` to `Z` change. -/
def lower (s : String) : String := String.ofList (s.toList.map lowerChar)

/-! ## Laws -/

/-- All that core counts as white space is blank. -/
theorem isBlankChar_of_isWhitespace {c : Char} (h : c.isWhitespace = true) :
    isBlankChar c = true := by
  simp only [Char.isWhitespace, Bool.or_eq_true, decide_eq_true_eq] at h
  rcases h with ((rfl | rfl) | rfl) | rfl <;> decide

example : isBlankChar '\u200b' = false ∧ isBlankChar '\ufeff' = false := by decide
example : trimList [' ', 'a', ' ', 'b', '\u3000'] = ['a', ' ', 'b'] := by decide

end Collector.Text
