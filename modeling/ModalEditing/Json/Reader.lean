import ModalEditing.Json.Token

namespace ModalEditing.Json

/-!
Reading a JSON text. The reader takes one token at a time and keeps the arrays
and objects that are still open on a stack, so no depth is too great for it.
-/

/--
An open array or object, with the values before the one being read, the last one
first.
-/
inductive Frame where
  | items (reversed : List Json)
  | fields (reversed : List (Text × Json)) (name : Text)

/-- What the reader has just read, over the open arrays and objects. -/
inductive Reading where
  | value (frames : List Frame)
  | arrayOpened (frames : List Frame)
  | objectOpened (frames : List Frame)
  | name (reversed : List (Text × Json)) (frames : List Frame)
  | colon (reversed : List (Text × Json)) (name : Text) (frames : List Frame)
  | done (value : Json) (frames : List Frame)

/-- Digits, with no zero before others. -/
def isWhole (digits : Text) : Bool :=
  !digits.isEmpty && (digits.length = 1 || digits.head? != some '0')

def isExponent : Text → Bool
  | [] => true
  | c :: rest =>
      let digits :=
        if rest.head? = some '+' ∨
          rest.head? = some '-' then rest.tail else rest
      (c == 'e' || c == 'E') && !digits.isEmpty && digits.all Char.isDigit

def isFraction : Text → Bool
  | '.' :: rest =>
      !(rest.takeWhile Char.isDigit).isEmpty &&
        isExponent (rest.dropWhile Char.isDigit)
  | rest => isExponent rest

/-- An optional sign, a whole part, and perhaps a fraction and an exponent. -/
def isNumber (text : Text) : Bool :=
  let unsigned := if text.head? = some '-' then text.tail else text
  isWhole (unsigned.takeWhile Char.isDigit) &&
    isFraction (unsigned.dropWhile Char.isDigit)

def ofWord? (word : Text) : Option Json :=
  if word = "null" then some .null
  else if word = "true" then some (.bool true)
  else if word = "false" then some (.bool false)
  else if isNumber word then some (.number word)
  else none

/--
The text of a field's name. In the outermost object it must be made of
characters; further in, a surrogate that lacks its partner is let pass, as it is
in every value.
-/
def name? (pieces : List Piece) : List Frame → Option Text
  | [] => Piece.text? pieces
  | _ => some (Piece.text pieces)

namespace Reading

def startValue (frames : List Frame) : Token → Option Reading
  | .word text => (ofWord? text).map (done · frames)
  | .string pieces => some (done (.string (Piece.text pieces)) frames)
  | .openArray => some (arrayOpened frames)
  | .openObject => some (objectOpened frames)
  | _ => none

def continueAfter (last : Json) : List Frame → Token → Option Reading
  | .items reversed :: frames, .comma =>
      some (.value (.items (last :: reversed) :: frames))
  | .items reversed :: frames, .closeArray =>
      some (done (.array (last :: reversed).reverse) frames)
  | .fields reversed field :: frames, .comma =>
      some (name ((field, last) :: reversed) frames)
  | .fields reversed field :: frames, .closeObject =>
      some (done (.object ((field, last) :: reversed).reverse) frames)
  | _, _ => none

def step (reading : Reading) (token : Token) : Option Reading :=
  match reading, token with
  | value frames, token => startValue frames token
  | arrayOpened frames, .closeArray => some (done (.array []) frames)
  | arrayOpened frames, token => startValue (.items [] :: frames) token
  | objectOpened frames, .closeObject => some (done (.object []) frames)
  | objectOpened frames, .string pieces =>
      (name? pieces frames).map (colon [] · frames)
  | name reversed frames, .string pieces =>
      (name? pieces frames).map (colon reversed · frames)
  | colon reversed field frames, .colon =>
      some (value (.fields reversed field :: frames))
  | done last frames, token => continueAfter last frames token
  | _, _ => none

def finish : Reading → Option Json
  | done last [] => some last
  | _ => none

end Reading

def ofTokens? (tokens : List Token) : Option Json := do
  (← tokens.foldlM Reading.step (.value [])).finish

/-- The document that a text holds. -/
def read? (text : Text) : Option Json := do
  ofTokens? (← Token.scan? text)

end ModalEditing.Json
