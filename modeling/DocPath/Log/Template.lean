import DocPath.Log.Conversion
import DocPath.Log.Place
import DocPath.Value.Key

/-! Message templates.

A template has places for arguments; two percent signs are one. Listed arguments go to the places
in their order, and have to be as many as the places ask for. A single mapping that is not empty
gives arguments by name. Without arguments a template is its own text. -/
namespace DocPath.Log

/-! ### Pieces of a template -/

inductive Piece where
  | char (c : Char)
  /-- A place, and where the letter of its conversion stands. -/
  | place (p : Place) (index : Nat)
  deriving DecidableEq

/-- Takes a template apart. `index` characters come before, and `skip` belong to a piece that was
read already. -/
def readPieces (index skip : Nat) : List Char → List Piece
  | [] => []
  | c :: rest => match skip with
    | n + 1 => readPieces (index + 1) n rest
    | 0 =>
      if c = '%' then
        if rest.head? = some '%' then .char '%' :: readPieces (index + 1) 1 rest
        else
          let p := Place.read rest
          .place p (index + p.length) :: readPieces (index + 1) p.length rest
      else .char c :: readPieces (index + 1) 0 rest

/-! ### Arguments -/

/-- The arguments that are left. -/
inductive Supply where
  | listed (args : List Value)
  /-- Arguments by name, and the one that the next place takes. -/
  | named (entries : List (Value × Value)) (next : Option Value)

namespace Supply

/-- A mapping is itself the first argument. -/
def ofList : List Value → Supply
  | [.mapping kind (e :: entries) attributes] =>
    .named (e :: entries) (some (.mapping kind (e :: entries) attributes))
  | args => .listed args

def next : Supply → Except TemplateError (Value × Supply)
  | .listed (v :: rest) => .ok (v, .listed rest)
  | .named entries (some v) => .ok (v, .named entries none)
  | .listed [] | .named _ none => .error .tooFewArguments

/-- Makes the argument of a name the next one. -/
def select (name : Option ArgumentName) (s : Supply) : Except TemplateError Supply :=
  match name, s with
  | none, s => .ok s
  | some _, .listed _ => .error .namesNeeded
  | some .unclosed, .named _ _ => .error .unclosedName
  | some (.closed n), .named entries _ => match Entries.find? (.text n) entries with
    | some v => .ok (.named entries (some v))
    | none => .error (.nameNotFound n)

/-- Whether arguments are left that should have been taken. -/
def isOpen : Supply → Bool
  | .listed args => !args.isEmpty
  | .named _ _ => false

/-- The next argument, which has to be an integer. -/
def nextInt (s : Supply) : Except TemplateError (Int × Supply) := do
  let (v, s) ← s.next
  match integer? v with
  | some n => return (n, s)
  | none => .error .amountNotInteger

end Supply

/-! ### Filling places -/

/-- The largest width. -/
def widthLimit : Nat := 9223372036854775807

/-- The largest precision. -/
def precisionLimit : Nat := 2147483647

/-- A width that no memory can hold. -/
def memoryLimit : Nat := 1099511627776

/-- The width of a place, negative where it stands on the left. -/
def takeWidth (amount : Option Amount) (s : Supply) : Except TemplateError (Int × Supply) :=
  match amount with
  | none => .ok (0, s)
  | some (.given n) => if widthLimit < n then .error .widthTooBig else .ok (n, s)
  | some .argument => do
    let (n, s) ← s.nextInt
    if n < -widthLimit - 1 || widthLimit < n then .error .widthOutOfRange else return (n, s)

/-- The precision of a place. A negative one counts as zero. -/
def takePrecision (amount : Option Amount) (s : Supply) :
    Except TemplateError (Option Nat × Supply) :=
  match amount with
  | none => .ok (none, s)
  | some (.given n) => if precisionLimit < n then .error .precisionTooBig else .ok (some n, s)
  | some .argument => do
    let (n, s) ← s.nextInt
    if n < -precisionLimit - 1 || precisionLimit < n then .error .precisionOutOfRange
    else return (some n.toNat, s)

/-- The layout of a place. -/
def layoutOf (flags : List Char) (width : Int) (precision : Option Nat) : Layout :=
  ⟨flags.contains '-' || width < 0, flags.contains '+', flags.contains ' ', flags.contains '#',
    flags.contains '0', width.natAbs, precision⟩

/-- Fills a place from the arguments that are left. -/
def fillPlace (p : Place) (index : Nat) (s : Supply) :
    Except TemplateError (List Char × Supply) := do
  let s ← s.select p.name
  let (width, s) ← takeWidth p.width s
  let (precision, s) ← takePrecision p.precision s
  let layout := layoutOf p.flags width precision
  match p.kind with
  | none => .error .incomplete
  | some kind =>
    let (v, s) ← s.next
    let content ← convert kind index layout v
    if memoryLimit ≤ layout.width then .error .tooWide else return (layout.set content, s)

/-- Fills the places from left to right. -/
def fillPieces (s : Supply) : List Piece → Except TemplateError (List Char)
  | [] => if s.isOpen then .error .tooManyArguments else .ok []
  | .char c :: rest => do return c :: (← fillPieces s rest)
  | .place p index :: rest => do
    let (cs, s) ← fillPlace p index s
    return cs ++ (← fillPieces s rest)

def fillTemplate (template : String) (args : List Value) : Except TemplateError String :=
  if args.isEmpty then .ok template
  else (fillPieces (.ofList args) (readPieces 0 0 template.toList)).map String.ofList

end DocPath.Log
