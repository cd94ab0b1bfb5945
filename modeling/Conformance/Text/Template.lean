/-!
# Templates with percent signs

A template is text in which `%` starts a slot: an optional name in parentheses, flags, a width, a
precision and a letter that says how the filling is written. Two signs stand for one. Every text can
be read as a template; what is wrong with a slot shows when it is filled.
-/

namespace Conformance.Text

/-- A number that a slot states, or one that is taken from the row of fillings. -/
inductive Amount
  | stated (n : Nat)
  | taken
  deriving DecidableEq

/-- A slot without a conversion is cut off by the end of the template. -/
structure Slot where
  name : Option String
  leftAligned : Bool
  zeroPadded : Bool
  signed : Bool
  spaced : Bool
  alternate : Bool
  width : Option Amount
  precision : Option Amount
  conversion : Option Char
  index : Nat
  deriving DecidableEq

inductive TemplatePart
  | text (s : String)
  | sign
  | slot (s : Slot)
  | unclosedName
  deriving DecidableEq

/-- A slot with nothing but a name and a conversion. -/
def Slot.plain (name : String) (conversion : Char) : Slot :=
  ⟨some name, false, false, false, false, false, none, none, some conversion, 0⟩

def takeSlotName : Nat → List Char → List Char → Option (List Char × List Char)
  | _, _, [] => none
  | depth, name, c :: rest =>
    if c = ')' then
      if depth = 0 then some (name.reverse, rest) else takeSlotName (depth - 1) (c :: name) rest
    else if c = '(' then takeSlotName (depth + 1) (c :: name) rest
    else takeSlotName depth (c :: name) rest

def takeAmount (text : List Char) : Option Amount × List Char :=
  match text with
  | '*' :: rest => (some .taken, rest)
  | _ =>
    let digits := text.takeWhile (·.isDigit)
    if digits.isEmpty then (none, text)
    else
      (some (.stated (digits.foldl (fun total c => total * 10 + (c.toNat - 0x30)) 0)),
        text.dropWhile (·.isDigit))

/-- A slot behind its sign and its name, in a template of `size` characters. -/
def readSlot (size : Nat) (name : Option String) (text : List Char) : Slot × List Char :=
  let isFlag (c : Char) : Bool := ['-', '0', '+', ' ', '#'].contains c
  let flags := text.takeWhile isFlag
  let (width, text) := takeAmount (text.dropWhile isFlag)
  let (precision, text) :=
    match text with
    | '.' :: rest =>
      let (amount, rest) := takeAmount rest
      (some (amount.getD (.stated 0)), rest)
    | _ => (none, text)
  let text :=
    match text with
    | 'h' :: rest | 'l' :: rest | 'L' :: rest => rest
    | _ => text
  ({ name, leftAligned := flags.contains '-', zeroPadded := flags.contains '0'
     signed := flags.contains '+', spaced := flags.contains ' '
     alternate := flags.contains '#', width, precision
     conversion := text.head?, index := size - text.length }, text.drop 1)

/-- The parts of a template of `size` characters, up to a name that is not closed. -/
def readParts (size : Nat) : Nat → List Char → List TemplatePart
  | _, [] => []
  | 0, _ => []
  | fuel + 1, '%' :: '%' :: rest => .sign :: readParts size fuel rest
  | fuel + 1, '%' :: '(' :: rest =>
    match takeSlotName 0 [] rest with
    | some (name, rest) =>
      let (slot, rest) := readSlot size (some (String.ofList name)) rest
      .slot slot :: readParts size fuel rest
    | none => [.unclosedName]
  | fuel + 1, '%' :: rest =>
    let (slot, rest) := readSlot size none rest
    .slot slot :: readParts size fuel rest
  | fuel + 1, c :: rest =>
    .text (String.ofList (c :: rest.takeWhile (· != '%')))
      :: readParts size fuel (rest.dropWhile (· != '%'))

def readTemplate (text : String) : List TemplatePart :=
  readParts text.length (text.length + 1) text.toList

/-- How many characters a filling has to take, and whether blanks go behind it. -/
structure Fitting where
  width : Nat
  precision : Option Nat
  leftAligned : Bool

def Fitting.pad (fitting : Fitting) (filling : List Char) : List Char :=
  let missing := List.replicate (fitting.width - filling.length) ' '
  if fitting.leftAligned then filling ++ missing else missing ++ filling

/-- A text is cut to its precision. -/
def Fitting.text (fitting : Fitting) (filling : List Char) : List Char :=
  fitting.pad <|
    match fitting.precision with
    | some most => filling.take most
    | none => filling

/-- A number has its sign and its mark of the base before the digits, and zeros between if the slot
wants them. -/
def Fitting.number (fitting : Fitting) (slot : Slot) (negative : Bool) (mark digits : List Char) :
    List Char :=
  let sign :=
    if negative then ['-'] else if slot.signed then ['+'] else if slot.spaced then [' '] else []
  let front := sign ++ mark
  if slot.zeroPadded && !fitting.leftAligned then
    front ++ List.replicate (fitting.width - front.length - digits.length) '0' ++ digits
  else fitting.pad (front ++ digits)

end Conformance.Text
