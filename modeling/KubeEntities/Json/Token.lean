import KubeEntities.Json.Numeral

/-! The tokens of JSON text, how each is spelled, and the lexer. The lexer is a machine that takes
one character at a time and refuses, with `none`, at the first one that no text can have there.
Unquoted words run up to the next delimiter and are then classified. -/

namespace KubeEntities.Json

inductive Token
  | beginArray
  | endArray
  | beginObject
  | endObject
  | comma
  | colon
  | scalar (s : Scalar)
deriving DecidableEq

def hexDigit (n : Nat) : Char := Nat.digitChar n

def escapedChar (c : Char) : List Char :=
  if c = '"' then ['\\', '"']
  else if c = '\\' then ['\\', '\\']
  else if c = '\x08' then ['\\', 'b']
  else if c = '\t' then ['\\', 't']
  else if c = '\n' then ['\\', 'n']
  else if c = '\x0c' then ['\\', 'f']
  else if c = '\r' then ['\\', 'r']
  else if c.toNat < 0x20 then
    ['\\', 'u', '0', '0', hexDigit (c.toNat / 16), hexDigit (c.toNat % 16)]
  else [c]

def spellString (s : String) : List Char := '"' :: s.toList.flatMap escapedChar ++ ['"']

def spellInt (n : Int) : List Char := Number.signed (n < 0) (Nat.toDigits 10 n.natAbs)

/-- What has no value is written as `null`. -/
def spellScalar : Scalar → List Char
  | .null => ['n', 'u', 'l', 'l']
  | .bool true => ['t', 'r', 'u', 'e']
  | .bool false => ['f', 'a', 'l', 's', 'e']
  | .int n => spellInt n
  | .float x => x.jsonChars?.getD ['n', 'u', 'l', 'l']
  | .str s => spellString s
  | .noText => ['n', 'u', 'l', 'l']

def isSpace (c : Char) : Bool := c == ' ' || c == '\n' || c == '\t' || c == '\r'

def punctuation? (c : Char) : Option Token :=
  if c = '[' then some .beginArray
  else if c = ']' then some .endArray
  else if c = '\x7b' then some .beginObject
  else if c = '\x7d' then some .endObject
  else if c = ',' then some .comma
  else if c = ':' then some .colon
  else none

def word? (chars : List Char) : Option Scalar :=
  match chars with
  | ['n', 'u', 'l', 'l'] => some .null
  | ['t', 'r', 'u', 'e'] => some (.bool true)
  | ['f', 'a', 'l', 's', 'e'] => some (.bool false)
  | chars => numeral? chars

def hexValue? (c : Char) : Option Nat :=
  if c.isDigit then some (c.toNat - '0'.toNat)
  else if 'a' ≤ c ∧ c ≤ 'f' then some (c.toNat - 'a'.toNat + 10)
  else if 'A' ≤ c ∧ c ≤ 'F' then some (c.toNat - 'A'.toNat + 10)
  else none

def isHighHalf (code : Nat) : Bool := 0xd800 ≤ code && code < 0xdc00

def isLowHalf (code : Nat) : Bool := 0xdc00 ≤ code && code < 0xe000

theorem isHighHalf_toNat (c : Char) : isHighHalf c.toNat = false := by
  have valid := c.valid
  simp only [UInt32.isValidChar, Nat.isValidChar] at valid
  simp only [isHighHalf, Char.toNat, Bool.and_eq_false_iff, decide_eq_false_iff_not]
  omega

theorem isLowHalf_toNat (c : Char) : isLowHalf c.toNat = false := by
  have valid := c.valid
  simp only [UInt32.isValidChar, Nat.isValidChar] at valid
  simp only [isLowHalf, Char.toNat, Bool.and_eq_false_iff, decide_eq_false_iff_not]
  omega

/-- The character of a surrogate pair. -/
def pairChar (high low : Nat) : Char :=
  Char.ofNat (0x10000 + (high - 0xd800) * 0x400 + (low - 0xdc00))

/-- The text that codes spell, latest first, before text already known. Codes are code points and
halves of surrogate pairs, and with a half that stands alone they spell none. -/
def textOfCodes? (text : List Char) : List Nat → Option (List Char)
  | [] => some text
  | [code] => if isHighHalf code || isLowHalf code then none else some (Char.ofNat code :: text)
  | code :: before :: rest =>
    if isLowHalf code then
      if isHighHalf before then textOfCodes? (pairChar before code :: text) rest else none
    else if isHighHalf code then none
    else textOfCodes? (Char.ofNat code :: text) (before :: rest)

/-- Characters spell themselves. -/
theorem textOfCodes?_toNat (text chars : List Char) :
    textOfCodes? text (chars.map Char.toNat) = some (chars.reverse ++ text) := by
  induction chars generalizing text with
  | nil => rfl
  | cons c before ih =>
    cases before with
    | nil => simp [textOfCodes?, isHighHalf_toNat, isLowHalf_toNat]
    | cons d rest =>
      have step : textOfCodes? text ((c :: d :: rest).map Char.toNat) =
          textOfCodes? (c :: text) ((d :: rest).map Char.toNat) := by
        simp [textOfCodes?, isHighHalf_toNat, isLowHalf_toNat]
      rw [step, ih]
      simp

def stringOfCodes (codes : List Nat) : Scalar :=
  match textOfCodes? [] codes with
  | some text => .str (String.ofList text)
  | none => .noText

/-- What the characters since the last token amount to. What they spell so far, as characters or as
codes, is latest first. -/
inductive Mode
  | between
  | word (read : List Char)
  | quoted (read : List Nat)
  | escape (read : List Nat)
  /-- `left` hex digits of a code are due -/
  | unicode (read : List Nat) (code left : Nat)
deriving DecidableEq

/-- Tokens are held latest first. -/
structure Lexer where
  mode : Mode
  tokens : List Token
deriving DecidableEq

namespace Lexer

def start : Lexer := ⟨.between, []⟩

def simpleEscape? (c : Char) : Option Char :=
  if c = '"' ∨ c = '\\' ∨ c = '/' then some c
  else if c = 'b' then some '\x08'
  else if c = 'f' then some '\x0c'
  else if c = 'n' then some '\n'
  else if c = 'r' then some '\r'
  else if c = 't' then some '\t'
  else none

def between (tokens : List Token) (c : Char) : Lexer :=
  if isSpace c then ⟨.between, tokens⟩
  else if c = '"' then ⟨.quoted [], tokens⟩
  else match punctuation? c with
    | some token => ⟨.between, token :: tokens⟩
    | none => ⟨.word [c], tokens⟩

def endsWord (c : Char) : Bool := isSpace c || c == '"' || (punctuation? c).isSome

def step (l : Lexer) (c : Char) : Option Lexer :=
  match l.mode with
  | .between => some (between l.tokens c)
  | .word read =>
    if endsWord c then
      (word? read.reverse).map fun s => between (.scalar s :: l.tokens) c
    else some ⟨.word (c :: read), l.tokens⟩
  | .quoted read =>
    if c = '"' then some ⟨.between, .scalar (stringOfCodes read) :: l.tokens⟩
    else if c = '\\' then some ⟨.escape read, l.tokens⟩
    else if c.toNat < 0x20 then none
    else some ⟨.quoted (c.toNat :: read), l.tokens⟩
  | .escape read =>
    if c = 'u' then some ⟨.unicode read 0 4, l.tokens⟩
    else (simpleEscape? c).map fun c => ⟨.quoted (c.toNat :: read), l.tokens⟩
  | .unicode read code left =>
    (hexValue? c).map fun digit =>
      let code := 16 * code + digit
      if left ≤ 1 then ⟨.quoted (code :: read), l.tokens⟩
      else ⟨.unicode read code (left - 1), l.tokens⟩

def finish (l : Lexer) : Option (List Token) :=
  match l.mode with
  | .between => some l.tokens.reverse
  | .word read => (word? read.reverse).map fun s => (.scalar s :: l.tokens).reverse
  | _ => none

end Lexer

def tokens? (chars : List Char) : Option (List Token) :=
  (chars.foldlM Lexer.step Lexer.start).bind Lexer.finish

end KubeEntities.Json
