import DocPath.Text.Quoted

/-! What can be wrong with a template and its arguments. -/
namespace DocPath.Log

inductive TemplateError where
  | tooManyArguments
  | tooFewArguments
  /-- A place names its argument, but arguments are listed. -/
  | namesNeeded
  | nameNotFound (name : String)
  | unclosedName
  /-- A width or a precision is to be an argument that is no integer. -/
  | amountNotInteger
  | widthTooBig
  | precisionTooBig
  | widthOutOfRange
  | precisionOutOfRange
  /-- More leading zeros than an integer can have. -/
  | tooManyZeros
  /-- A place that no memory can hold. -/
  | tooWide
  /-- The template ends within a place. -/
  | incomplete
  | unsupported (c : Char) (index : Nat)
  /-- An argument is no number; its type is named. -/
  | notNumber (kind : Char) (typeName : String)
  | notInteger (kind : Char) (typeName : String)
  | notReal (typeName : String)
  | undefinedInteger
  | infiniteInteger
  | integerTooLarge
  | notCharacter
  | characterOutOfRange
  deriving DecidableEq

def TemplateError.kind : TemplateError → String
  | .tooManyArguments | .tooFewArguments | .namesNeeded | .amountNotInteger | .notNumber _ _
  | .notInteger _ _ | .notReal _ | .notCharacter => "TypeError"
  | .incomplete | .unsupported _ _ | .unclosedName | .widthTooBig | .precisionTooBig
  | .undefinedInteger => "ValueError"
  | .widthOutOfRange | .precisionOutOfRange | .tooManyZeros | .infiniteInteger | .integerTooLarge
  | .characterOutOfRange => "OverflowError"
  | .nameNotFound _ => "KeyError"
  | .tooWide => "MemoryError"

/-- A character as an error shows it: only those from U+001F to U+007E stand for themselves. -/
def shownChar (c : Char) : Char := if 0x1F ≤ c.toNat && c.toNat < 0x7F then c else '?'

def TemplateError.message : TemplateError → String
  | .tooManyArguments => "not all arguments converted during string formatting"
  | .tooFewArguments => "not enough arguments for format string"
  | .namesNeeded => "format requires a mapping"
  | .nameNotFound name => Text.quoted name
  | .unclosedName => "incomplete format key"
  | .amountNotInteger => "* wants int"
  | .widthTooBig => "width too big"
  | .precisionTooBig => "precision too big"
  | .widthOutOfRange => "Python int too large to convert to C ssize_t"
  | .precisionOutOfRange => "Python int too large to convert to C int"
  | .tooManyZeros => "precision too large"
  | .tooWide => ""
  | .incomplete => "incomplete format"
  | .unsupported c index =>
    "unsupported format character '" ++ (shownChar c).toString ++ "' (0x" ++
      String.ofList (Nat.toDigits 16 c.toNat) ++ ") at index " ++ toString index
  | .notNumber kind typeName =>
    "%" ++ kind.toString ++ " format: a real number is required, not " ++ typeName
  | .notInteger kind typeName =>
    "%" ++ kind.toString ++ " format: an integer is required, not " ++ typeName
  | .notReal typeName => "must be real number, not " ++ typeName
  | .undefinedInteger => "cannot convert float NaN to integer"
  | .infiniteInteger => "cannot convert float infinity to integer"
  | .integerTooLarge => "int too large to convert to float"
  | .notCharacter => "%c requires int or char"
  | .characterOutOfRange => "%c arg not in range(0x110000)"

end DocPath.Log
