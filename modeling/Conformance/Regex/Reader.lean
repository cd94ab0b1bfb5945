import Conformance.Regex.Syntax
import Conformance.Text.Hex

/-!
# Reading regular expressions

Each reader takes the rest of the pattern and returns what it read with what is left. The fuel
counts nested calls and is taken from the length of the pattern.
-/

namespace Conformance.Regex

inductive PatternFault
  | nothingToRepeat
  | multipleRepeat
  | unterminated
  | unbalanced
  | badEscape
  | badClass
  | badRange
  | badGroup
  | badRepeat
  | unknownGroup
  | variableWidth
  | tooDeep
  deriving DecidableEq

def PatternFault.message : PatternFault → String
  | .nothingToRepeat => "nothing to repeat"
  | .multipleRepeat => "multiple repeat"
  | .unterminated => "missing ), unterminated subpattern"
  | .unbalanced => "unbalanced parenthesis"
  | .badEscape => "bad escape"
  | .badClass => "unterminated character set"
  | .badRange => "bad character range"
  | .badGroup => "unknown extension"
  | .badRepeat => "min repeat greater than max repeat"
  | .unknownGroup => "invalid group reference"
  | .variableWidth => "look-behind requires fixed-width pattern"
  | .tooDeep => "pattern too deep"

/-- What is known of the groups so far: how many were opened, the names, the fixed widths, and the
highest number that a condition has asked about, which may still be to come. -/
structure Groups where
  count : Nat
  names : List (List Char × Nat)
  widths : List (Nat × Nat)
  awaited : Nat

structure Step (α : Type) where
  item : α
  groups : Groups
  rest : List Char

abbrev Reading := Except PatternFault

/-- The flags in force, and whether the pattern is one of bytes. -/
structure Context where
  flags : Flags
  bytes : Bool

def Context.asciiClasses (context : Context) : Bool := context.flags.ascii || context.bytes

def Context.folding (context : Context) : Folding :=
  if !context.flags.ignoreCase then .none
  else if context.asciiClasses then .basic
  else .full

def Context.literal (context : Context) (code : Nat) : Node :=
  .char ⟨[.range code code], false, context.folding⟩

def octal? (c : Char) : Option Nat := if '0' ≤ c ∧ c ≤ '7' then some (c.toNat - 0x30) else none

def decimal? (c : Char) : Option Nat := if '0' ≤ c ∧ c ≤ '9' then some (c.toNat - 0x30) else none

def isBasicLetter (c : Char) : Bool := ('a' ≤ c && c ≤ 'z') || ('A' ≤ c && c ≤ 'Z')

def takeNumber (text : List Char) : Option Nat × List Char :=
  let digits := text.takeWhile fun c => (decimal? c).isSome
  let rest := text.dropWhile fun c => (decimal? c).isSome
  if digits.isEmpty then (none, rest)
  else (some (digits.foldl (fun total c => total * 10 + (c.toNat - 0x30)) 0), rest)

def takeHex (count : Nat) (text : List Char) : Except PatternFault (Nat × List Char) :=
  let digits := text.take count
  match Text.hexNumber? digits with
  | some code => if digits.length = count then .ok (code, text.drop count) else .error .badEscape
  | none => .error .badEscape

def takeOctal : Nat → Nat → List Char → Nat × List Char
  | count + 1, code, c :: rest =>
    match octal? c with
    | some digit => takeOctal count (code * 8 + digit) rest
    | none => (code, c :: rest)
  | _, code, rest => (code, rest)

def categoryEscape? (c : Char) : Option (Category × Bool) :=
  match c with
  | 'd' => some (.digit, false)
  | 'D' => some (.digit, true)
  | 's' => some (.blank, false)
  | 'S' => some (.blank, true)
  | 'w' => some (.word, false)
  | 'W' => some (.word, true)
  | _ => none

def controlEscape? (c : Char) : Option Nat :=
  match c with
  | 'a' => some 0x07
  | 'b' => some 0x08
  | 'f' => some 0x0c
  | 'n' => some 0x0a
  | 'r' => some 0x0d
  | 't' => some 0x09
  | 'v' => some 0x0b
  | '\\' => some 0x5c
  | _ => none

/-- An escape by code, whose letter has been taken: absent when the letter starts none. -/
def codeEscape? (context : Context) (c : Char) (rest : List Char) :
    Option (Except PatternFault (Nat × List Char)) :=
  match c with
  | 'x' => some (takeHex 2 rest)
  | 'u' => if context.bytes then none else some (takeHex 4 rest)
  | 'U' => if context.bytes then none else some (takeHex 8 rest)
  | '0' => some (.ok (takeOctal 2 0 rest))
  | _ => none

def plainEscape (c : Char) (rest : List Char) : Except PatternFault (Nat × List Char) :=
  if isBasicLetter c then .error .badEscape else .ok (c.toNat, rest)

def readEscape (context : Context) (groups : Groups) : List Char → Reading (Step Node)
  | [] => .error .badEscape
  | c :: rest =>
    let anchored (anchor : Anchor) : Reading (Step Node) := .ok ⟨.anchor anchor, groups, rest⟩
    let coded (read : Except PatternFault (Nat × List Char)) : Reading (Step Node) :=
      read.map fun (code, rest) => ⟨context.literal code, groups, rest⟩
    match c with
    | 'A' => anchored .textStart
    | 'Z' => anchored .textEnd
    | 'b' => anchored (.boundary false context.asciiClasses)
    | 'B' => anchored (.boundary true context.asciiClasses)
    | _ =>
      match categoryEscape? c with
      | some (category, negated) =>
        let item := ClassItem.category category negated context.asciiClasses
        .ok ⟨.char ⟨[item], false, .none⟩, groups, rest⟩
      | none =>
        match controlEscape? c with
        | some code => coded (.ok (code, rest))
        | none =>
          match codeEscape? context c rest with
          | some read => coded read
          | none =>
            match decimal? c with
            | none => coded (plainEscape c rest)
            | some first =>
              let reference (index : Nat) (rest : List Char) : Reading (Step Node) :=
                if index ≤ groups.count then
                  .ok ⟨.backReference index context.folding, groups, rest⟩
                else .error .unknownGroup
              match rest with
              | d :: after =>
                match decimal? d with
                | none => reference first rest
                | some second =>
                  match octal? c, octal? d, after with
                  | some a, some b, e :: others =>
                    match octal? e with
                    | some third =>
                      let code := a * 64 + b * 8 + third
                      if code ≤ 0o377 then coded (.ok (code, others)) else .error .badEscape
                    | none => reference (first * 10 + second) after
                  | _, _, _ => reference (first * 10 + second) after
              | [] => reference first rest

def readClassMember (context : Context) : List Char →
    Except PatternFault ((Nat ⊕ ClassItem) × List Char)
  | [] => .error .badClass
  | '\\' :: [] => .error .badEscape
  | '\\' :: c :: rest =>
    let coded (read : Except PatternFault (Nat × List Char)) :=
      read.map fun (code, rest) => (Sum.inl code, rest)
    match controlEscape? c with
    | some code => coded (.ok (code, rest))
    | none =>
      match categoryEscape? c with
      | some (category, negated) =>
        .ok (.inr (.category category negated context.asciiClasses), rest)
      | none =>
        match codeEscape? context c rest with
        | some read => coded read
        | none =>
          match octal? c with
          | some first =>
            let (code, rest) := takeOctal 2 first rest
            if code ≤ 0o377 then coded (.ok (code, rest)) else .error .badEscape
          | none => coded (plainEscape c rest)
  | c :: rest => .ok (.inl c.toNat, rest)

/-- The members of a class up to its closing bracket, which is a member when it comes first. -/
def readClassItems (context : Context) :
    Nat → Bool → List ClassItem → List Char → Except PatternFault (List ClassItem × List Char)
  | 0, _, _, _ => .error .tooDeep
  | fuel + 1, first, items, text =>
    match text with
    | [] => .error .badClass
    | c :: rest =>
      if c = ']' ∧ !first then .ok (items.reverse, rest)
      else do
        let (member, rest) ← readClassMember context text
        let single : ClassItem :=
          match member with
          | .inl code => .range code code
          | .inr item => item
        match rest with
        | '-' :: ']' :: after =>
          return ((ClassItem.range 0x2d 0x2d :: single :: items).reverse, after)
        | '-' :: after =>
          match member, ← readClassMember context after with
          | .inl low, (.inl high, rest) =>
            if low ≤ high then readClassItems context fuel false (.range low high :: items) rest
            else .error .badRange
          | _, _ => .error .badRange
        | _ => readClassItems context fuel false (single :: items) rest

def readClass (context : Context) (text : List Char) : Except PatternFault (Node × List Char) := do
  let (negated, body) :=
    match text with
    | '^' :: rest => (true, rest)
    | _ => (false, text)
  let (items, rest) ← readClassItems context (body.length + 1) true [] body
  return (.char ⟨items, negated, context.folding⟩, rest)

def readBounds? (text : List Char) : Option ((Nat × Option Nat) × List Char) :=
  match takeNumber text with
  | (least?, '}' :: rest) =>
    match least? with
    | some least => some ((least, some least), rest)
    | none => none
  | (least?, ',' :: rest) =>
    match takeNumber rest with
    | (most?, '}' :: rest) => some ((least?.getD 0, most?), rest)
    | _ => none
  | _ => none

/-- The bounds that a quantifier states, if the text starts with one. -/
def readQuantifier? : List Char → Option ((Nat × Option Nat) × List Char)
  | '*' :: rest => some ((0, none), rest)
  | '+' :: rest => some ((1, none), rest)
  | '?' :: rest => some ((0, some 1), rest)
  | '{' :: rest => readBounds? rest
  | _ => none

def readGreed : List Char → Greed × List Char
  | '?' :: rest => (.lazy, rest)
  | '+' :: rest => (.possessive, rest)
  | rest => (.greedy, rest)

/-- Drops comment groups, and in verbose patterns also blanks and line comments. -/
def skipComments (verbose : Bool) : Nat → List Char → List Char
  | 0, text => text
  | fuel + 1, text =>
    match text with
    | '(' :: '?' :: '#' :: rest =>
      skipComments verbose fuel ((rest.dropWhile (· != ')')).drop 1)
    | c :: rest =>
      if !verbose then text
      else if c = '#' then
        skipComments verbose fuel ((rest.dropWhile (· != '\n')).drop 1)
      else if c.isWhitespace || c = '\x0b' || c = '\x0c' then skipComments verbose fuel rest
      else text
    | [] => []

def Context.skip (context : Context) (text : List Char) : List Char :=
  skipComments context.flags.verbose text.length text

def Flags.with? (flags : Flags) (value : Bool) : Char → Option Flags
  | 'i' => some { flags with ignoreCase := value }
  | 'm' => some { flags with multiline := value }
  | 's' => some { flags with dotAll := value }
  | 'x' => some { flags with verbose := value }
  | 'a' => some { flags with ascii := value }
  | 'u' => some { flags with ascii := false }
  | _ => none

def readFlags (value : Bool) : Flags → List Char → Flags × List Char
  | flags, [] => (flags, [])
  | flags, c :: rest =>
    match flags.with? value c with
    | some flags => readFlags value flags rest
    | none => (flags, c :: rest)

def quantify (context : Context) (item : Node) (text : List Char) :
    Except PatternFault (Node × List Char) :=
  let text := context.skip text
  match readQuantifier? text with
  | none => .ok (item, text)
  | some ((least, most), rest) =>
    let reversed : Bool :=
      match most with
      | some most => most < least
      | none => false
    if reversed then .error .badRepeat
    else
      let (greed, rest) := readGreed rest
      match item with
      | .anchor _ | .empty => .error .nothingToRepeat
      | _ =>
        match readQuantifier? (context.skip rest) with
        | some _ => .error .multipleRepeat
        | none => .ok (.repetition greed least most item, rest)

def takeName (close : Char) (text : List Char) : Option (List Char × List Char) :=
  let name := text.takeWhile (· != close)
  match text.dropWhile (· != close) with
  | _ :: rest => if name.isEmpty then none else some (name, rest)
  | [] => none

def Groups.find? (groups : Groups) (name : List Char) : Option Nat :=
  match takeNumber name with
  | (some index, []) => if index ≤ groups.count then some index else none
  | _ => (groups.names.find? (·.1 == name)).map (·.2)

def Groups.await? (groups : Groups) (name : List Char) : Option (Nat × Groups) :=
  match takeNumber name with
  | (some 0, []) => none
  | (some index, []) => some (index, { groups with awaited := max groups.awaited index })
  | _ => (groups.find? name).map fun index => (index, groups)

def Groups.width? (groups : Groups) (index : Nat) : Option Nat :=
  (groups.widths.find? (·.1 == index)).map (·.2)

def Groups.close (groups : Groups) (index : Nat) (body : Node) : Groups :=
  match body.width? groups.width? with
  | some width => { groups with widths := (index, width) :: groups.widths }
  | none => groups

mutual

def readAlternatives (fuel : Nat) (context : Context) (groups : Groups) (text : List Char) :
    Reading (Step Node) :=
  match fuel with
  | 0 => .error .tooDeep
  | fuel + 1 => do
    let first ← readSequence fuel context groups text
    match first.rest with
    | '|' :: rest =>
      let others ← readAlternatives fuel context first.groups rest
      return ⟨.either first.item others.item, others.groups, others.rest⟩
    | _ => return first

def readSequence (fuel : Nat) (context : Context) (groups : Groups) (text : List Char) :
    Reading (Step Node) :=
  match fuel with
  | 0 => .error .tooDeep
  | fuel + 1 =>
    match context.skip text with
    | [] => .ok ⟨.empty, groups, []⟩
    | '|' :: rest => .ok ⟨.empty, groups, '|' :: rest⟩
    | ')' :: rest => .ok ⟨.empty, groups, ')' :: rest⟩
    | text => do
      let item ← readItem fuel context groups text
      let (node, rest) ← quantify context item.item item.rest
      let others ← readSequence fuel context item.groups rest
      return ⟨.sequence node others.item, others.groups, others.rest⟩

def readItem (fuel : Nat) (context : Context) (groups : Groups) (text : List Char) :
    Reading (Step Node) :=
  match fuel with
  | 0 => .error .tooDeep
  | fuel + 1 =>
    match text with
    | [] => .ok ⟨.empty, groups, []⟩
    | '.' :: rest => .ok ⟨.anyChar context.flags.dotAll, groups, rest⟩
    | '^' :: rest =>
      .ok ⟨.anchor (if context.flags.multiline then .lineStart else .textStart), groups, rest⟩
    | '$' :: rest =>
      .ok ⟨.anchor (if context.flags.multiline then .lineEnd else .lastLineEnd), groups, rest⟩
    | '\\' :: rest => readEscape context groups rest
    | '[' :: rest => (readClass context rest).map fun (node, rest) => ⟨node, groups, rest⟩
    | '(' :: rest => readGroup fuel context groups rest
    | c :: rest =>
      match readQuantifier? text with
      | some _ => .error .nothingToRepeat
      | none => .ok ⟨context.literal c.toNat, groups, rest⟩

def readGroup (fuel : Nat) (context : Context) (groups : Groups) (text : List Char) :
    Reading (Step Node) :=
  match fuel with
  | 0 => .error .tooDeep
  | fuel + 1 =>
    let inside (context : Context) (groups : Groups) (text : List Char) (wrap : Node → Node) :
        Reading (Step Node) := do
      let body ← readAlternatives fuel context groups text
      match body.rest with
      | ')' :: rest => return ⟨wrap body.item, body.groups, rest⟩
      | _ => .error .unterminated
    let capturing (groups : Groups) (text : List Char) : Reading (Step Node) := do
      let index := groups.count + 1
      let body ← inside context { groups with count := index } text id
      return { body with
        item := .group index body.item
        groups := body.groups.close index body.item }
    let behind (negated : Bool) (text : List Char) : Reading (Step Node) := do
      let body ← inside context groups text id
      match body.item.width? body.groups.width? with
      | some width => return { body with item := .behind negated width body.item }
      | none => .error .variableWidth
    match text with
    | '?' :: ':' :: rest => inside context groups rest (.sequence .empty)
    | '?' :: '=' :: rest => inside context groups rest (.ahead false)
    | '?' :: '!' :: rest => inside context groups rest (.ahead true)
    | '?' :: '>' :: rest => inside context groups rest .atomic
    | '?' :: '<' :: '=' :: rest => behind false rest
    | '?' :: '<' :: '!' :: rest => behind true rest
    | '?' :: 'P' :: '<' :: rest =>
      match takeName '>' rest with
      | some (name, rest) =>
        capturing { groups with names := (name, groups.count + 1) :: groups.names } rest
      | none => .error .badGroup
    | '?' :: 'P' :: '=' :: rest =>
      match takeName ')' rest with
      | some (name, rest) =>
        match groups.find? name with
        | some index => .ok ⟨.backReference index context.folding, groups, rest⟩
        | none => .error .unknownGroup
      | none => .error .badGroup
    | '?' :: '(' :: rest =>
      match takeName ')' rest with
      | some (name, rest) =>
        match groups.await? name with
        | none => .error .unknownGroup
        | some (index, groups) => do
          let present ← readSequence fuel context groups rest
          let absent ←
            match present.rest with
            | '|' :: rest => readSequence fuel context present.groups rest
            | rest => .ok ⟨.empty, present.groups, rest⟩
          match absent.rest with
          | ')' :: rest =>
            return ⟨.conditional index present.item absent.item, absent.groups, rest⟩
          | _ => .error .unterminated
      | none => .error .badGroup
    | '?' :: rest =>
      let (flags, rest) := readFlags true context.flags rest
      match rest with
      | ':' :: rest => inside { context with flags } groups rest (.sequence .empty)
      | '-' :: rest =>
        let (flags, rest) := readFlags false flags rest
        match rest with
        | ':' :: rest => inside { context with flags } groups rest (.sequence .empty)
        | _ => .error .badGroup
      | _ => .error .badGroup
    | _ => capturing groups text

end

def readGlobalFlags : Nat → Context → List Char → Context × List Char
  | 0, context, text => (context, text)
  | fuel + 1, context, text =>
    match context.skip text with
    | '(' :: '?' :: rest =>
      match readFlags true context.flags rest with
      | (flags, ')' :: rest) => readGlobalFlags fuel { context with flags } rest
      | _ => (context, text)
    | _ => (context, text)

/-- What a pattern writes: the flags for all of it, given or written, and the expression. -/
structure Expression where
  flags : Flags
  node : Node

def read (flags : Flags) (bytes : Bool) (pattern : List Char) : Except PatternFault Expression := do
  let (context, body) := readGlobalFlags pattern.length ⟨flags, bytes⟩ pattern
  let result ← readAlternatives (4 * pattern.length + 8) context ⟨0, [], [], 0⟩ body
  match result.rest with
  | [] =>
    if result.groups.awaited ≤ result.groups.count then return ⟨context.flags, result.item⟩
    else .error .unknownGroup
  | _ => .error .unbalanced

end Conformance.Regex
