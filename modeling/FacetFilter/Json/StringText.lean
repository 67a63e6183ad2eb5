/-!
# Strings of a document

A string is written between quotes as characters and escapes.  An escape by code
names one unit of sixteen bits; a character beyond them takes two such escapes,
a leading and a trailing one.  Where a string ends is settled before its pairs
are joined, so a string with a lone half still has an end.
-/

namespace FacetFilter.Json

inductive StringUnit where
  | char (value : Char)
  | code (value : Nat)
  deriving DecidableEq

def hexDigit? (char : Char) : Option Nat :=
  if '0' ≤ char ∧ char ≤ '9' then some (char.toNat - 48)
  else if 'a' ≤ char ∧ char ≤ 'f' then some (char.toNat - 87)
  else if 'A' ≤ char ∧ char ≤ 'F' then some (char.toNat - 55)
  else none

/-- The unit that four hexadecimal digits name. -/
def codeUnit? (first second third fourth : Char) : Option StringUnit := do
  let first ← hexDigit? first
  let second ← hexDigit? second
  let third ← hexDigit? third
  let fourth ← hexDigit? fourth
  pure (.code (((first * 16 + second) * 16 + third) * 16 + fourth))

/-- The character that a one-letter escape stands for. -/
def shortEscape? : Char → Option Char
  | '"' => some '"'
  | '\\' => some '\\'
  | '/' => some '/'
  | 'b' => some '\x08'
  | 'f' => some '\x0c'
  | 'n' => some '\n'
  | 'r' => some '\r'
  | 't' => some '\t'
  | _ => none

/-- Reads what stands between an opening quote and its closing one, and leaves what follows.
Controls below the space must be escaped. -/
def scanString? : List Char → Option (List StringUnit × List Char)
  | [] => none
  | '"' :: rest => some ([], rest)
  | '\\' :: 'u' :: first :: second :: third :: fourth :: rest => do
      let unit ← codeUnit? first second third fourth
      let (units, rest) ← scanString? rest
      pure (unit :: units, rest)
  | '\\' :: letter :: rest => do
      let char ← shortEscape? letter
      let (units, rest) ← scanString? rest
      pure (.char char :: units, rest)
  | char :: rest =>
      if char < ' ' ∨ char = '\\' then none
      else do
        let (units, rest) ← scanString? rest
        pure (.char char :: units, rest)

def isLeading (code : Nat) : Bool := 0xD800 ≤ code && code < 0xDC00

def isTrailing (code : Nat) : Bool := 0xDC00 ≤ code && code < 0xE000

/-- Joins each leading unit with the trailing one after it; `none` where a half stands alone. -/
def joinUnits? : List StringUnit → Option (List Char)
  | [] => some []
  | .char char :: rest => (char :: ·) <$> joinUnits? rest
  | .code leading :: .code trailing :: rest =>
      if isLeading leading then
        if isTrailing trailing then
          (Char.ofNat (0x10000 + (leading - 0xD800) * 0x400 + (trailing - 0xDC00)) :: ·) <$>
            joinUnits? rest
        else none
      else if isTrailing leading then none
      else (Char.ofNat leading :: ·) <$> joinUnits? (.code trailing :: rest)
  | .code code :: rest =>
      if isLeading code || isTrailing code then none
      else (Char.ofNat code :: ·) <$> joinUnits? rest

/-! ## Writing -/

def hexDigits4 (code : Nat) : List Char :=
  let digits := Nat.toDigits 16 code
  List.replicate (4 - digits.length) '0' ++ digits

def escapeChar (char : Char) : List Char :=
  match char with
  | '"' => ['\\', '"']
  | '\\' => ['\\', '\\']
  | '\x08' => ['\\', 'b']
  | '\x0c' => ['\\', 'f']
  | '\n' => ['\\', 'n']
  | '\r' => ['\\', 'r']
  | '\t' => ['\\', 't']
  | _ => if char < ' ' then ['\\', 'u'] ++ hexDigits4 char.toNat else [char]

def stringChars (text : String) : List Char :=
  '"' :: (text.toList.flatMap escapeChar ++ ['"'])

end FacetFilter.Json
