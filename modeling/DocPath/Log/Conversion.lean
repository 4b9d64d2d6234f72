import DocPath.Log.Layout
import DocPath.Log.TemplateError
import DocPath.Value.Display
import DocPath.Value.Rounded

/-! Arguments as texts.

The letter of a place says what becomes of its argument: a text, an integer in one of three
bases, a floating-point number in one of three styles, or a character. A capital letter asks for
capital digits. -/
namespace DocPath.Log

inductive Conversion where
  /-- The plain text of the argument. -/
  | plain
  /-- Its text as shown in messages. -/
  | shown
  /-- That text in ASCII. -/
  | ascii
  | decimal
  /-- An integer in the base that a letter marks. -/
  | based (base : Nat) (mark : Char)
  | real (style : Binary64.Style)
  | character
  deriving DecidableEq

/-- The conversion that a letter stands for. -/
def Conversion.ofChar? (c : Char) : Option Conversion :=
  match c with
  | 's' => some .plain
  | 'r' => some .shown
  | 'a' => some .ascii
  | 'd' | 'i' | 'u' => some .decimal
  | 'o' => some (.based 8 'o')
  | 'x' | 'X' => some (.based 16 'x')
  | 'e' | 'E' => some (.real .scientific)
  | 'f' | 'F' => some (.real .fixed)
  | 'g' | 'G' => some (.real .general)
  | 'c' => some .character
  | _ => none

/-- A text as it is, any other value as shown in messages. -/
def plainText : Value → String
  | .atom (.text s) => s
  | v => v.display

/-! ### Integers -/

/-- The integer that an argument is, if it is one. -/
def integer? : Value → Option Int
  | .atom (.int n) => some n
  | .atom (.bool b) => some b.toInt
  | _ => none

/-- The integer that a number has before its point. -/
def wholeOf (kind : Char) (v : Value) : Except TemplateError Int :=
  match integer? v, v with
  | some n, _ => .ok n
  | none, .atom (.float t) => match Binary64.ofText t with
    | .finite units => .ok (units.tdiv Binary64.one)
    | .infinite _ => .error .infiniteInteger
    | .undefined => .error .undefinedInteger
  | none, v => .error (.notNumber kind v.qualifiedTypeName)

/-- The most zeros in front of an integer, less the room for a sign and a mark. -/
def zerosLimit : Nat := 2147483644

/-- The digits of an integer, as many as the precision asks for. -/
def integerDigits (base : Nat) (precision : Option Nat) (n : Int) :
    Except TemplateError (List Char) :=
  let digits := Nat.toDigits base n.natAbs
  let least := precision.getD 0
  if zerosLimit < least then .error .tooManyZeros
  else .ok (List.replicate (least - digits.length) '0' ++ digits)

/-! ### Floating-point numbers -/

/-- A real number by its sign, which zero has too, and its value. -/
def realOf : Value → Except TemplateError (Bool × Binary64)
  | .atom (.int n) =>
    let m := Binary64.round n.natAbs 1
    if Binary64.ceiling ≤ m then .error .integerTooLarge else .ok (n < 0, .finite m)
  | .atom (.bool b) => .ok (false, .ofInt b.toInt)
  | .atom (.float t) => .ok (t.toList.head? == some '-', .ofText t)
  | v => .error (.notReal v.qualifiedTypeName)

/-- The places of a real number where none are asked for. -/
def usualPrecision : Nat := 6

def realDigits (style : Binary64.Style) (l : Layout) : Binary64 → List Char
  | .finite units => style.text l.alternate (l.precision.getD usualPrecision) units.natAbs
  | .infinite _ => ['i', 'n', 'f']
  | .undefined => ['n', 'a', 'n']

/-! ### Characters -/

/-- A text of one character, or the character of a code. -/
def characterOf (v : Value) : Except TemplateError Char :=
  match integer? v, v with
  | some n, _ => if 0 ≤ n && n < 0x110000 then .ok (Char.ofNat n.toNat)
    else .error .characterOutOfRange
  | none, .atom (.text s) => match s.toList with
    | [c] => .ok c
    | _ => .error .notCharacter
  | none, _ => .error .notCharacter

/-! ### All of them -/

/-- Capital letters where the kind is one. -/
def cased (kind : Char) (cs : List Char) : List Char :=
  if kind.isUpper then cs.map Char.toUpper else cs

/-- What an argument becomes by the letter of its place, which stands at `index`. -/
def convert (kind : Char) (index : Nat) (l : Layout) (v : Value) : Except TemplateError Content :=
  match Conversion.ofChar? kind with
  | none => .error (.unsupported kind index)
  | some .plain => .ok (.text (l.cut (plainText v).toList))
  | some .shown => .ok (.text (l.cut v.display.toList))
  | some .ascii => .ok (.text (l.cut (Text.asciiChars v.display.toList)))
  | some .decimal => do
    let n ← wholeOf kind v
    return .number ⟨n < 0, [], ← integerDigits 10 l.precision n⟩
  | some (.based base letter) => match integer? v with
    | none => .error (.notInteger kind v.qualifiedTypeName)
    | some n => do
      let mark := if l.alternate then ['0', letter] else []
      return .number ⟨n < 0, cased kind mark, cased kind (← integerDigits base l.precision n)⟩
  | some (.real style) => do
    let (negative, x) ← realOf v
    return .number ⟨negative, [], cased kind (realDigits style l x)⟩
  | some .character => do return .text [← characterOf v]

end DocPath.Log
