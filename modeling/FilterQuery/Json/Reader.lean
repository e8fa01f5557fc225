import FilterQuery.Json.Basic
import FilterQuery.Text.Hex

/-!
# Reading JSON

The reader is strict: no comments, no trailing commas, no raw control characters and no half of a
surrogate pair in a string, no superfluous zeros in a number, and nothing behind the document but
blanks. A text is first split into lexemes. The document is then built with a stack of the arrays
and objects that are still open, whose number has a limit.
-/

namespace FilterQuery.Json

/-! ### Scalars -/

/-- Whether `c` is a blank of JSON. -/
def isSpace (c : Char) : Bool := c == ' ' || c == '\t' || c == '\n' || c == '\r'

/-- The character that a single letter or mark behind a backslash stands for. -/
def unescape? : Char → Option Char
  | '"' => some '"'
  | '\\' => some '\\'
  | '/' => some '/'
  | 'b' => some '\x08'
  | 'f' => some '\x0c'
  | 'n' => some '\n'
  | 'r' => some '\r'
  | 't' => some '\t'
  | _ => none

/-- Whether `n` is the first half of a surrogate pair. -/
def isHighSurrogate (n : Nat) : Bool := 0xD800 ≤ n && n < 0xDC00

/-- Whether `n` is the second half of a surrogate pair. -/
def isLowSurrogate (n : Nat) : Bool := 0xDC00 ≤ n && n < 0xE000

/-- Read the inside of a string behind what was read already (in reverse), up to its closing quote.
The result is the text and what is left behind the quote. -/
def readString (read : List Char) : List Char → Option (List Char × List Char)
  | [] => none
  | '"' :: cs => some (read.reverse, cs)
  | '\\' :: 'u' :: a :: b :: c :: d :: '\\' :: 'u' :: e :: f :: g :: h :: cs =>
    match Text.ofHex? [a, b, c, d], Text.ofHex? [e, f, g, h] with
    | some m, some n =>
      if isHighSurrogate m then
        if isLowSurrogate n then
          readString (Char.ofNat (0x10000 + (m - 0xD800) * 0x400 + (n - 0xDC00)) :: read) cs
        else none
      else if isLowSurrogate m then none
      else readString (Char.ofNat m :: read) ('\\' :: 'u' :: e :: f :: g :: h :: cs)
    | _, _ => none
  | '\\' :: 'u' :: a :: b :: c :: d :: cs =>
    match Text.ofHex? [a, b, c, d] with
    | some m =>
      if isHighSurrogate m || isLowSurrogate m then none
      else readString (Char.ofNat m :: read) cs
    | none => none
  | '\\' :: c :: cs =>
    match unescape? c with
    | some x => readString (x :: read) cs
    | none => none
  | c :: cs => if c.toNat < 0x20 then none else readString (c :: read) cs

/-- Whether `cs` is empty or an exponent of a number. -/
def isExponent : List Char → Bool
  | [] => true
  | e :: cs =>
    (e == 'e' || e == 'E') &&
      match cs with
      | '+' :: ds | '-' :: ds => ds != [] && ds.all Char.isDigit
      | ds => ds != [] && ds.all Char.isDigit

/-- Whether `cs` is what may follow the digits before the point of a number. -/
def isFraction : List Char → Bool
  | '.' :: cs => cs.takeWhile Char.isDigit != [] && isExponent (cs.dropWhile Char.isDigit)
  | cs => isExponent cs

/-- Whether `cs` is a number without a sign. -/
def isUnsigned : List Char → Bool
  | '0' :: cs => isFraction cs
  | c :: cs => c.isDigit && isFraction (cs.dropWhile Char.isDigit)
  | [] => false

/-- Whether `cs` is a number. -/
def isNumber : List Char → Bool
  | '-' :: cs => isUnsigned cs
  | cs => isUnsigned cs

/-- Whether `c` can be part of a number. -/
def isNumberChar (c : Char) : Bool :=
  c.isDigit || c == '-' || c == '+' || c == '.' || c == 'e' || c == 'E'

/-! ### Lexemes -/

/-- The lexeme of a single character. -/
def mark? : Char → Option Lexeme
  | '[' => some .openArray
  | ']' => some .closeArray
  | '\x7b' => some .openObject
  | '\x7d' => some .closeObject
  | ',' => some .comma
  | ':' => some .colon
  | _ => none

/-- The lexeme of a run of letters. -/
def keyword? : List Char → Option Lexeme
  | ['n', 'u', 'l', 'l'] => some .null
  | ['t', 'r', 'u', 'e'] => some (.bool true)
  | ['f', 'a', 'l', 's', 'e'] => some (.bool false)
  | _ => none

theorem length_of_readString {read cs text rest : List Char}
    (h : readString read cs = some (text, rest)) : rest.length ≤ cs.length := by
  fun_induction readString read cs <;> simp_all <;> omega

/-- Split a text into lexemes, behind those read already (in reverse). -/
def readLexemes (read : List Lexeme) : List Char → Option (List Lexeme)
  | [] => some read.reverse
  | c :: cs =>
    if isSpace c then readLexemes read cs
    else
      match mark? c with
      | some l => readLexemes (l :: read) cs
      | none =>
        if c = '"' then
          match h : readString [] cs with
          | some (text, rest) =>
            have := length_of_readString h
            readLexemes (.string (String.ofList text) :: read) rest
          | none => none
        else if c.isDigit || c = '-' then
          let text := c :: cs.takeWhile isNumberChar
          if isNumber text then
            readLexemes (.number (String.ofList text) :: read) (cs.dropWhile isNumberChar)
          else none
        else
          match keyword? (c :: cs.takeWhile Char.isAlpha) with
          | some l => readLexemes (l :: read) (cs.dropWhile Char.isAlpha)
          | none => none
termination_by cs => cs.length
decreasing_by
  · simp
  · simp
  · simp; omega
  · simpa [Nat.lt_succ_iff] using (List.dropWhile_sublist isNumberChar).length_le
  · simpa [Nat.lt_succ_iff] using (List.dropWhile_sublist Char.isAlpha).length_le

/-! ### Documents -/

/-- An array or object that is still open: what was read of it (in reverse), and for an object the
name of the member whose value comes next. -/
inductive Frame
  | array (items : List Json)
  | object (members : List (String × Json)) (key : String)

mutual

/-- Read a value inside the open arrays and objects of `stack`, of which there may be `maxDepth`. -/
def readValue (maxDepth : Nat) (stack : List Frame) : List Lexeme → Option Json
  | .null :: ls => readAfter maxDepth stack .null ls
  | .bool b :: ls => readAfter maxDepth stack (.bool b) ls
  | .number text :: ls => readAfter maxDepth stack (.number text) ls
  | .string text :: ls => readAfter maxDepth stack (.string text) ls
  | .openArray :: .closeArray :: ls =>
    if stack.length < maxDepth then readAfter maxDepth stack (.array []) ls else none
  | .openArray :: ls =>
    if stack.length < maxDepth then readValue maxDepth (.array [] :: stack) ls else none
  | .openObject :: .closeObject :: ls =>
    if stack.length < maxDepth then readAfter maxDepth stack (.object []) ls else none
  | .openObject :: .string key :: .colon :: ls =>
    if stack.length < maxDepth then readValue maxDepth (.object [] key :: stack) ls else none
  | _ => none

/-- Go on behind the value `v`: with the next item or member of the innermost open array or object,
with the end of that, or with the end of the text. -/
def readAfter (maxDepth : Nat) (stack : List Frame) (v : Json) : List Lexeme → Option Json
  | [] => if stack.isEmpty then some v else none
  | .comma :: ls =>
    match stack, ls with
    | .array items :: stack, ls => readValue maxDepth (.array (v :: items) :: stack) ls
    | .object members key :: stack, .string next :: .colon :: ls =>
      readValue maxDepth (.object ((key, v) :: members) next :: stack) ls
    | _, _ => none
  | .closeArray :: ls =>
    match stack with
    | .array items :: stack => readAfter maxDepth stack (.array (v :: items).reverse) ls
    | _ => none
  | .closeObject :: ls =>
    match stack with
    | .object members key :: stack =>
      readAfter maxDepth stack (.object ((key, v) :: members).reverse) ls
    | _ => none
  | _ => none

end

/-- The number of arrays and objects that may be open at once. -/
def defaultDepth : Nat := 127

/-- The document written as `s`, with at most `maxDepth` arrays and objects inside each other. -/
def parse? (s : String) (maxDepth : Nat) : Option Json :=
  (readLexemes [] s.toList).bind (readValue maxDepth [])

end FilterQuery.Json
