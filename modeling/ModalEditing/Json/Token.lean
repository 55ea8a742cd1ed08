import ModalEditing.Json.Basic

namespace ModalEditing.Json

/-!
The tokens of a JSON text. The scanner reads one character at a time; a string
is taken apart into characters and the 16-bit units that escapes give, and
whether those units make up characters is asked later.
-/

inductive Piece where
  | char (c : Char)
  | unit (n : Nat)
  deriving DecidableEq, Repr

inductive Token where
  | openArray
  | closeArray
  | openObject
  | closeObject
  | comma
  | colon
  | word (text : Text)
  | string (pieces : List Piece)
  deriving DecidableEq, Repr

namespace Piece

def isHighSurrogate (n : Nat) : Bool := 0xd800 ≤ n && n < 0xdc00

def isLowSurrogate (n : Nat) : Bool := 0xdc00 ≤ n && n < 0xe000

def ofSurrogates (high low : Nat) : Char :=
  Char.ofNat (0x10000 + (high - 0xd800) * 0x400 + (low - 0xdc00))

def ofUnit? (n : Nat) : Option Char :=
  if isHighSurrogate n || isLowSurrogate n then none else some (Char.ofNat n)

/--
Puts the characters of a string together, with `replace` for a surrogate that
lacks its partner.
-/
def decode (replace : Option Char) (reversed : Text) : List Piece → Option Text
  | [] => some reversed.reverse
  | char c :: rest => decode replace (c :: reversed) rest
  | unit high :: unit low :: rest =>
      if isHighSurrogate high && isLowSurrogate low then
        decode replace (ofSurrogates high low :: reversed) rest
      else
        match ofUnit? high <|> replace with
        | some c => decode replace (c :: reversed) (unit low :: rest)
        | none => none
  | unit n :: rest =>
      match ofUnit? n <|> replace with
      | some c => decode replace (c :: reversed) rest
      | none => none

def text? (pieces : List Piece) : Option Text :=
  decode none [] pieces

/-- The text of a string, with U+FFFD for a surrogate that lacks its partner. -/
def text (pieces : List Piece) : Text :=
  (decode (some '\ufffd') [] pieces).getD []

end Piece

/--
What the scanner is in the middle of; what it has read of it comes last part
first.
-/
inductive Scanning where
  | between
  | word (reversed : Text)
  | string (reversed : List Piece)
  | escape (reversed : List Piece)
  | unit (reversed : List Piece) (digits value : Nat)

structure Scanner where
  scanning : Scanning
  found : List Token

namespace Scanner

def isWordChar (c : Char) : Bool :=
  c.isAlphanum || c == '+' || c == '-' || c == '.'

def hexDigit? (c : Char) : Option Nat :=
  if c.isDigit then some (c.toNat - '0'.toNat)
  else if 'a' ≤ c ∧ c ≤ 'f' then some (c.toNat - 'a'.toNat + 10)
  else if 'A' ≤ c ∧ c ≤ 'F' then some (c.toNat - 'A'.toNat + 10)
  else none

def escaped? : Char → Option Char
  | '"' => some '"'
  | '\\' => some '\\'
  | '/' => some '/'
  | 'b' => some '\x08'
  | 'f' => some '\x0c'
  | 'n' => some '\n'
  | 'r' => some '\r'
  | 't' => some '\t'
  | _ => none

def start (found : List Token) (c : Char) : Option Scanner :=
  match c with
  | ' ' | '\t' | '\n' | '\r' => some ⟨.between, found⟩
  | '[' => some ⟨.between, .openArray :: found⟩
  | ']' => some ⟨.between, .closeArray :: found⟩
  | '\x7b' => some ⟨.between, .openObject :: found⟩
  | '\x7d' => some ⟨.between, .closeObject :: found⟩
  | ',' => some ⟨.between, .comma :: found⟩
  | ':' => some ⟨.between, .colon :: found⟩
  | '"' => some ⟨.string [], found⟩
  | c => if isWordChar c then some ⟨.word [c], found⟩ else none

def step (scanner : Scanner) (c : Char) : Option Scanner :=
  match scanner.scanning with
  | .between => start scanner.found c
  | .word reversed =>
      if isWordChar c then
        some { scanner with scanning := .word (c :: reversed) }
      else start (.word reversed.reverse :: scanner.found) c
  | .string reversed =>
      if c = '"' then some ⟨.between, .string reversed.reverse :: scanner.found⟩
      else if c = '\\' then some { scanner with scanning := .escape reversed }
      else if c < ' ' then none
      else some { scanner with scanning := .string (.char c :: reversed) }
  | .escape reversed =>
      if c = 'u' then some { scanner with scanning := .unit reversed 0 0 }
      else (escaped? c).map fun c =>
        { scanner with scanning := .string (.char c :: reversed) }
  | .unit reversed digits value =>
      (hexDigit? c).map fun digit =>
        let value := 16 * value + digit
        { scanner with
          scanning :=
            if digits = 3 then .string (.unit value :: reversed)
            else .unit reversed (digits + 1) value }

def finish (scanner : Scanner) : Option (List Token) :=
  match scanner.scanning with
  | .between => some scanner.found.reverse
  | .word reversed => some (.word reversed.reverse :: scanner.found).reverse
  | _ => none

end Scanner

def Token.scan? (text : Text) : Option (List Token) := do
  (← text.foldlM Scanner.step ⟨.between, []⟩).finish

end ModalEditing.Json
