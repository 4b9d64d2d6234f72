import DocPath.Path.Expression

/-! The classes of characters, by their members.

The grammar of paths speaks of letters, digits and quotes as sets of characters; the scanner
tests for them. `isLetter_iff` and its companions say that the tests are for these sets and no
larger ones: letters and digits are the ASCII ones. A character of a name is neither a separator
nor a quote, so the order in which the tests are made does not matter. -/
namespace DocPath.Path

namespace Grammar

def Letter (c : Char) : Prop := ('A' ≤ c ∧ c ≤ 'Z') ∨ ('a' ≤ c ∧ c ≤ 'z')

def Digit (c : Char) : Prop := '0' ≤ c ∧ c ≤ '9'

def NameStart (c : Char) : Prop := Letter c ∨ c = '_'

def NameChar (c : Char) : Prop := NameStart c ∨ Digit c

def Quote (c : Char) : Prop := c = '"' ∨ c = '\x27'

/-- What a quoted key may go on with. -/
def KeyChar (c : Char) : Prop := c ≠ '.' ∧ c ≠ '[' ∧ c ≠ ']' ∧ c ≠ '"' ∧ c ≠ '\x27'

end Grammar

/-- The test for what a quoted key may go on with. -/
def isKeyChar (c : Char) : Bool := !isSeparator c && !isQuote c

theorem isQuotable_cons (c : Char) (rest : List Char) :
    isQuotable (c :: rest) = (isNameStart c && rest.all isKeyChar) := rfl

/-! ### The tests and the sets -/

theorem isLetter_iff (c : Char) : isLetter c = true ↔ Grammar.Letter c := by
  show (decide ('A'.val ≤ c.val ∧ c.val ≤ 'Z'.val) ||
    (decide ('a'.val ≤ c.val) && decide (c.val ≤ 'z'.val))) = true ↔ _
  simp [Grammar.Letter, Char.le_def]

theorem isDigit_iff (c : Char) : isDigit c = true ↔ Grammar.Digit c := by
  show (decide ('0'.val ≤ c.val) && decide (c.val ≤ '9'.val)) = true ↔ _
  simp [Grammar.Digit, Char.le_def]

theorem isNameStart_iff (c : Char) : isNameStart c = true ↔ Grammar.NameStart c := by
  simp [isNameStart, Grammar.NameStart, isLetter_iff]

theorem isNameChar_iff (c : Char) : isNameChar c = true ↔ Grammar.NameChar c := by
  simp [isNameChar, Grammar.NameChar, isNameStart_iff, isDigit_iff]

theorem isQuote_iff (c : Char) : isQuote c = true ↔ Grammar.Quote c := by
  simp [isQuote, Grammar.Quote]

theorem isSeparator_iff (c : Char) : isSeparator c = true ↔ c = '.' ∨ c = '[' ∨ c = ']' := by
  simp [isSeparator, or_assoc]

theorem isKeyChar_iff (c : Char) : isKeyChar c = true ↔ Grammar.KeyChar c := by
  simp [isKeyChar, Grammar.KeyChar, isSeparator, isQuote, and_assoc]

/-! ### Sets that exclude each other -/

theorem isNameChar_of_isNameStart {c : Char} (h : isNameStart c = true) : isNameChar c = true := by
  rw [isNameChar, h]
  rfl

theorem isNameChar_of_isDigit {c : Char} (h : isDigit c = true) : isNameChar c = true := by
  rw [isNameChar, h, Bool.or_true]

theorem not_isSeparator {c : Char} (h : isNameChar c = true) : isSeparator c = false := by
  cases hs : isSeparator c
  · rfl
  · rcases (isSeparator_iff c).mp hs with rfl | rfl | rfl <;> exact absurd h (by decide)

theorem not_isQuote {c : Char} (h : isNameChar c = true) : isQuote c = false := by
  cases hq : isQuote c
  · rfl
  · rcases (isQuote_iff c).mp hq with rfl | rfl <;> exact absurd h (by decide)

theorem isKeyChar_of_isNameChar {c : Char} (h : isNameChar c = true) : isKeyChar c = true := by
  rw [isKeyChar, not_isSeparator h, not_isQuote h]
  rfl

theorem not_isNameStart_of_isDigit {c : Char} (h : isDigit c = true) : isNameStart c = false := by
  obtain ⟨_, hnine⟩ := (isDigit_iff c).mp h
  cases hstart : isNameStart c
  · rfl
  · rcases (isNameStart_iff c).mp hstart with (⟨hA, _⟩ | ⟨ha, _⟩) | rfl
    · exact absurd (Char.le_trans hA hnine) (by decide)
    · exact absurd (Char.le_trans ha hnine) (by decide)
    · exact absurd hnine (by decide)

end DocPath.Path
