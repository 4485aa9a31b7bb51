import ArrayBridge.Json.Value

/-
  Reading JSON text, byte by byte, with the error wording and positions of a strict streaming
  reader. A position is a line (one more than the newlines before the index) and a column (bytes
  since the last newline). Errors found at a byte being looked at are reported one byte further
  on (`Src.peekError`), errors found after consuming at the index itself (`Src.error`). Errors
  raised by a typed reader (`invalid type`, `duplicate field`) carry no position until the
  enclosing reader places them at its current index (`ReadError.place`).

  The pieces are exposed one by one (`parseInteger`, `parseString`, `skipValue`, ...) so that a
  typed reader such as the bridge configuration can walk the text in the same steps; `Json.parse`
  assembles them into a reader of whole values, in which lists and objects nest fewer than 128
  deep: the one that would reach that depth is refused where it opens.
-/

namespace ArrayBridge

/-- What a reader found wrong. -/
inductive ReadIssue where
  | eofInList
  | eofInObject
  | eofInString
  | eofInValue
  | expectedColon
  | expectedListCommaOrEnd
  | expectedObjectCommaOrEnd
  | expectedIdent
  | expectedValue
  | invalidEscape
  | invalidNumber
  | numberOutOfRange
  | invalidCodePoint
  | controlInString
  | keyMustBeString
  | loneLeadingSurrogate
  | trailingComma
  | trailingCharacters
  | unexpectedEndOfHexEscape
  | recursionLimit
  | custom (message : String)
  deriving Repr, DecidableEq

/-- The wording of an issue. -/
def ReadIssue.text : ReadIssue → String
  | .eofInList => "EOF while parsing a list"
  | .eofInObject => "EOF while parsing an object"
  | .eofInString => "EOF while parsing a string"
  | .eofInValue => "EOF while parsing a value"
  | .expectedColon => "expected `:`"
  | .expectedListCommaOrEnd => "expected `,` or `]`"
  | .expectedObjectCommaOrEnd => "expected `,` or `\x7d`"
  | .expectedIdent => "expected ident"
  | .expectedValue => "expected value"
  | .invalidEscape => "invalid escape"
  | .invalidNumber => "invalid number"
  | .numberOutOfRange => "number out of range"
  | .invalidCodePoint => "invalid unicode code point"
  | .controlInString => "control character (\\u0000-\\u001F) found while parsing a string"
  | .keyMustBeString => "key must be a string"
  | .loneLeadingSurrogate => "lone leading surrogate in hex escape"
  | .trailingComma => "trailing comma"
  | .trailingCharacters => "trailing characters"
  | .unexpectedEndOfHexEscape => "unexpected end of hex escape"
  | .recursionLimit => "recursion limit exceeded"
  | .custom m => m

/-- A reading error; line 0 means not yet placed in the text. -/
structure ReadError where
  issue : ReadIssue
  line : Nat := 0
  column : Nat := 0
  deriving Repr

namespace ReadError

/-- The text of an error, with its position when it has one. -/
def message (e : ReadError) : String :=
  if e.line = 0 then e.issue.text
  else s!"{e.issue.text} at line {e.line} column {e.column}"

end ReadError

/-- JSON text as bytes. -/
abbrev Src := ByteArray

/-- The outcome of a reading step: a value and the index after it. -/
abbrev Scan (α : Type) := Except ReadError (α × Nat)

namespace Src

/-- The byte at an index. -/
def at? (s : Src) (i : Nat) : Option UInt8 :=
  if h : i < s.size then some s[i] else none

/-- The byte at an index, or 0 past the end. -/
def peekOrNull (s : Src) (i : Nat) : UInt8 := (s.at? i).getD 0

/-- Line and column of an index. -/
def position (s : Src) (i : Nat) : Nat × Nat :=
  (s.toList.take i).foldl
    (fun (acc : Nat × Nat) (b : UInt8) => if b == 10 then (acc.1 + 1, 0) else (acc.1, acc.2 + 1))
    (1, 0)

/-- An error placed at an index. -/
def error {α : Type} (s : Src) (i : Nat) (issue : ReadIssue) : Except ReadError α :=
  let (line, column) := s.position i
  .error { issue, line, column }

/-- An error placed one byte past an index, as for a byte being looked at. -/
def peekError {α : Type} (s : Src) (i : Nat) (issue : ReadIssue) : Except ReadError α :=
  s.error (min s.size (i + 1)) issue

/-- Whether a byte is JSON white space. -/
def isBlank (c : UInt8) : Bool := c == 0x20 || c == 0x0A || c == 0x09 || c == 0x0D

/-- Whether a byte is a decimal digit. -/
def isDigit (c : UInt8) : Bool := 0x30 ≤ c && c ≤ 0x39

/-- The first index at or after `i` that is not white space. -/
def skipBlank (s : Src) (i : Nat) : Nat :=
  if h : i < s.size then
    if isBlank s[i] then skipBlank s (i + 1) else i
  else i
termination_by s.size - i

/-- The first index at or after `i` that is not a digit. -/
def skipDigits (s : Src) (i : Nat) : Nat :=
  if h : i < s.size then
    if isDigit s[i] then skipDigits s (i + 1) else i
  else i
termination_by s.size - i

/-- Consume the rest of a keyword whose first byte has been read. -/
def expectWord (s : Src) (word : List UInt8) (i : Nat) : Except ReadError Nat :=
  match word with
  | [] => .ok i
  | w :: rest =>
    match s.at? i with
    | none => s.error i .eofInValue
    | some c => if c == w then s.expectWord rest (i + 1) else s.error (i + 1) .expectedIdent

end Src

/-- Place an error without a position at an index. -/
def ReadError.place (e : ReadError) (s : Src) (i : Nat) : ReadError :=
  if e.line = 0 then
    let (line, column) := s.position i
    { e with line, column }
  else e

/-- Run a step and place the error it raises, if unplaced, at the index where it stopped. -/
def Src.placing {α : Type} (s : Src) (i : Nat) (r : Except ReadError α) : Except ReadError α :=
  match r with
  | .ok a => .ok a
  | .error e => .error (e.place s i)

/-! Numbers -/

/-- Whether `a * 10 + d` exceeds `bound`. -/
def overflows (a d bound : Nat) : Bool :=
  a ≥ bound / 10 && (a > bound / 10 || d > bound % 10)

/-- A natural number rounded to the nearest double, ties to even. Its top 64 bits go through the
machine's conversion with the lowest of them set when any bit below them is set: that bit lies
under the rounding position, so it settles a tie the way the dropped bits would. -/
def roundToFloat (n : Nat) : Float :=
  let s := n.log2 - 63
  let sticky := if n % Nat.pow 2 s = 0 then 0 else 1
  (((n >>> s) ||| sticky).toUInt64.toFloat).scaleB s

/-- The powers of ten as a reader's table holds them: `10 ^ k` rounded to the nearest double,
for `k ≤ 308`. -/
def powTen (k : Nat) : Float := roundToFloat (Nat.pow 10 k)

/-- Combine a significand and a decimal exponent by repeated scaling, as a fast reader does:
exact for small exponents, within a rounding of the true value otherwise. -/
def scaleByTen (s : Src) (endAt : Nat) (positive : Bool) (sig : Nat) (exp : Int) :
    Except ReadError Float :=
  let rec go (fuel : Nat) (f : Float) (e : Int) : Except ReadError Float :=
    match fuel with
    | 0 => .ok f
    | fuel + 1 =>
      if e.natAbs ≤ 308 then
        if 0 ≤ e then
          let g := f * powTen e.natAbs
          if g.isInf then s.error endAt .numberOutOfRange else .ok g
        else .ok (f / powTen e.natAbs)
      else if f == 0 then .ok f
      else if 0 ≤ e then s.error endAt .numberOutOfRange
      else go fuel (f / powTen 308) (e + 308)
  match go 8 (Float.ofNat sig) exp with
  | .ok f => .ok (if positive then f else -f)
  | .error e => .error e

/-- Clamp an exponent sum to the range of a 32-bit integer. -/
def clampExponent (e : Int) : Int := max (-2147483648) (min 2147483647 e)

/-- After an exponent too large to hold: an error for a huge value, else a signed zero. -/
def exponentOverflow (s : Src) (i : Nat) (positive zeroSig positiveExp : Bool) : Scan Float :=
  if !zeroSig && positiveExp then s.error i .numberOutOfRange
  else .ok (if positive then 0.0 else -0.0, s.skipDigits i)

/-- Read the digits of an exponent, the first of which has been read as `exp`. -/
def exponentDigits (s : Src) (positive : Bool) (sig : Nat) (start : Int) (positiveExp : Bool)
    (exp : Nat) (i : Nat) : Scan Float :=
  if h : i < s.size then
    let c := s[i]
    if Src.isDigit c then
      let d := (c - 0x30).toNat
      if overflows exp d 2147483647 then exponentOverflow s (i + 1) positive (sig == 0) positiveExp
      else exponentDigits s positive sig start positiveExp (exp * 10 + d) (i + 1)
    else
      let e := clampExponent (if positiveExp then start + exp else start - exp)
      (scaleByTen s i positive sig e).map (fun f => (f, i))
  else
    let e := clampExponent (if positiveExp then start + exp else start - exp)
    (scaleByTen s i positive sig e).map (fun f => (f, i))
termination_by s.size - i

/-- Read an exponent; `i` is at the `e`. -/
def parseExponent (s : Src) (positive : Bool) (sig : Nat) (start : Int) (i : Nat) : Scan Float :=
  let i := i + 1
  let (positiveExp, i) :=
    match s.at? i with
    | some 0x2B => (true, i + 1)
    | some 0x2D => (false, i + 1)
    | _ => (true, i)
  match s.at? i with
  | none => s.error i .eofInValue
  | some c =>
    if Src.isDigit c then exponentDigits s positive sig start positiveExp (c - 0x30).toNat (i + 1)
    else s.error (i + 1) .invalidNumber

/-- Read a number whose significand no longer fits: skip the digits, then the exponent. -/
def decimalOverflow (s : Src) (positive : Bool) (sig : Nat) (exp : Int) (i : Nat) : Scan Float :=
  let i := s.skipDigits i
  match s.at? i with
  | some 0x65 | some 0x45 => parseExponent s positive sig exp i
  | _ => (scaleByTen s i positive sig exp).map (fun f => (f, i))

/-- After the fraction digits, `taken` of them kept in the significand: demand at least one,
then an exponent or the end. -/
def fractionEnd (s : Src) (positive : Bool) (sig : Nat) (e : Int) (taken : Nat) (j : Nat) :
    Scan Float :=
  if taken == 0 then
    match s.at? j with
    | some _ => s.peekError j .invalidNumber
    | none => s.peekError j .eofInValue
  else
    match s.at? j with
    | some 0x65 | some 0x45 => parseExponent s positive sig (e - taken) j
    | _ => (scaleByTen s j positive sig (e - taken)).map (fun f => (f, j))

/-- Read the fraction digits after the point; `e` is the exponent before the point and `taken`
counts the digits kept so far, each lowering the exponent by one. -/
def fractionDigits (s : Src) (positive : Bool) (sig : Nat) (e : Int) (taken : Nat) (j : Nat) :
    Scan Float :=
  if h : j < s.size then
    let c := s[j]
    if Src.isDigit c then
      let d := (c - 0x30).toNat
      if overflows sig d 18446744073709551615 then decimalOverflow s positive sig (e - taken) j
      else fractionDigits s positive (sig * 10 + d) e (taken + 1) (j + 1)
    else fractionEnd s positive sig e taken j
  else fractionEnd s positive sig e taken j
termination_by s.size - j

/-- Read a fraction; `i` is at the point. -/
def parseDecimal (s : Src) (positive : Bool) (sig : Nat) (exp : Int) (i : Nat) : Scan Float :=
  fractionDigits s positive sig exp 0 (i + 1)

/-- Read an integer too long for 64 bits as a double: count the remaining digits. -/
def longInteger (s : Src) (positive : Bool) (sig : Nat) (exp : Nat) (i : Nat) : Scan Float :=
  if h : i < s.size then
    let c := s[i]
    if Src.isDigit c then longInteger s positive sig (exp + 1) (i + 1)
    else if c == 0x2E then parseDecimal s positive sig exp i
    else if c == 0x65 || c == 0x45 then parseExponent s positive sig exp i
    else (scaleByTen s i positive sig exp).map (fun f => (f, i))
  else (scaleByTen s i positive sig exp).map (fun f => (f, i))
termination_by s.size - i

/-- The number for an integer significand with nothing after it. -/
def integerNumber (positive : Bool) (sig : Nat) : Number :=
  if positive then .nat sig.toUInt64
  else if 1 ≤ sig ∧ sig ≤ Nat.pow 2 63 then .neg (Int64.ofInt (-(sig : Int)))
  else .real (-(Float.ofNat sig))

/-- After the integer digits: a fraction, an exponent, or the integer itself. -/
def parseNumber (s : Src) (positive : Bool) (sig : Nat) (i : Nat) : Scan Number :=
  match s.at? i with
  | some 0x2E => (parseDecimal s positive sig 0 i).map (fun (f, j) => (.real f, j))
  | some 0x65 | some 0x45 => (parseExponent s positive sig 0 i).map (fun (f, j) => (.real f, j))
  | _ => .ok (integerNumber positive sig, i)

/-- Read the digits of an integer after its first, keeping 64 bits as long as they suffice. -/
def integerDigits (s : Src) (positive : Bool) (sig : Nat) (i : Nat) : Scan Number :=
  if h : i < s.size then
    let c := s[i]
    if Src.isDigit c then
      let d := (c - 0x30).toNat
      if overflows sig d 18446744073709551615 then
        (longInteger s positive sig 0 i).map (fun (f, j) => (.real f, j))
      else integerDigits s positive (sig * 10 + d) (i + 1)
    else parseNumber s positive sig i
  else parseNumber s positive sig i
termination_by s.size - i

/-- Read a number whose sign, if any, has been read. -/
def parseInteger (s : Src) (positive : Bool) (i : Nat) : Scan Number :=
  match s.at? i with
  | none => s.error i .eofInValue
  | some c =>
    if c == 0x30 then
      if Src.isDigit (s.peekOrNull (i + 1)) then s.peekError (i + 1) .invalidNumber
      else parseNumber s positive 0 (i + 1)
    else if Src.isDigit c then integerDigits s positive (c - 0x30).toNat (i + 1)
    else s.error (i + 1) .invalidNumber

/-! Skipping numbers without reading their value -/

/-- Skip an exponent; `i` is at the `e`. -/
def skipExponent (s : Src) (i : Nat) : Except ReadError Nat :=
  let i := i + 1
  let i := match s.at? i with
    | some 0x2B | some 0x2D => i + 1
    | _ => i
  match s.at? i with
  | some c => if Src.isDigit c then .ok (s.skipDigits (i + 1)) else s.error (i + 1) .invalidNumber
  | none => s.error i .invalidNumber

/-- Skip a fraction; `i` is at the point. -/
def skipFraction (s : Src) (i : Nat) : Except ReadError Nat :=
  let j := s.skipDigits (i + 1)
  if j == i + 1 then s.peekError j .invalidNumber
  else match s.at? j with
    | some 0x65 | some 0x45 => skipExponent s j
    | _ => .ok j

/-- Skip a number whose sign, if any, has been read. -/
def skipInteger (s : Src) (i : Nat) : Except ReadError Nat :=
  let afterDigits : Except ReadError Nat :=
    match s.at? i with
    | some 0x30 =>
      if Src.isDigit (s.peekOrNull (i + 1)) then s.peekError (i + 1) .invalidNumber
      else .ok (i + 1)
    | some c => if Src.isDigit c then .ok (s.skipDigits (i + 1)) else s.error (i + 1) .invalidNumber
    | none => s.error i .invalidNumber
  match afterDigits with
  | .error e => .error e
  | .ok j =>
    match s.at? j with
    | some 0x2E => skipFraction s j
    | some 0x65 | some 0x45 => skipExponent s j
    | _ => .ok j

/-! Strings -/

/-- The value of a hexadecimal digit. -/
def hexValue? (c : UInt8) : Option Nat :=
  if 0x30 ≤ c && c ≤ 0x39 then some (c - 0x30).toNat
  else if 0x61 ≤ c && c ≤ 0x66 then some ((c - 0x61).toNat + 10)
  else if 0x41 ≤ c && c ≤ 0x46 then some ((c - 0x41).toNat + 10)
  else none

/-- Read the four hex digits of a `\u` escape. -/
def hexEscape (s : Src) (i : Nat) : Scan Nat :=
  if i + 4 ≤ s.size then
    let ds := [s.peekOrNull i, s.peekOrNull (i + 1), s.peekOrNull (i + 2), s.peekOrNull (i + 3)]
    match ds.mapM hexValue? with
    | some [a, b, c, d] => .ok (((a * 16 + b) * 16 + c) * 16 + d, i + 4)
    | _ => s.error (i + 4) .invalidEscape
  else s.error s.size .eofInString

/-- Whether a byte ends a run of plain string bytes. -/
def isStringStop (c : UInt8) : Bool := c < 0x20 || c == 0x22 || c == 0x5C

/-- The first index at or after `i` holding a quote, a backslash or a control byte. -/
def Src.skipPlain (s : Src) (i : Nat) : Nat :=
  if h : i < s.size then
    if isStringStop s[i] then i else s.skipPlain (i + 1)
  else i
termination_by s.size - i

/-- Read a `\u` escape and what a surrogate pair needs after it; `i` is after the `u`. -/
def unicodeEscape (s : Src) (i : Nat) : Scan Char :=
  match hexEscape s i with
  | .error e => .error e
  | .ok (n, i) =>
    if 0xDC00 ≤ n ∧ n ≤ 0xDFFF then s.error i .loneLeadingSurrogate
    else if n < 0xD800 ∨ n > 0xDBFF then .ok (Char.ofNat n, i)
    else
      match s.at? i with
      | none => s.error i .eofInString
      | some 0x5C =>
        match s.at? (i + 1) with
        | none => s.error (i + 1) .eofInString
        | some 0x75 =>
          match hexEscape s (i + 2) with
          | .error e => .error e
          | .ok (n2, j) =>
            if n2 < 0xDC00 ∨ n2 > 0xDFFF then s.error j .loneLeadingSurrogate
            else .ok (Char.ofNat (((n - 0xD800) * 1024 + (n2 - 0xDC00)) + 0x10000), j)
        | some _ => s.error (i + 2) .unexpectedEndOfHexEscape
      | some _ => s.error (i + 1) .unexpectedEndOfHexEscape

/-- Read one escape after a backslash; `i` is after the backslash. -/
def parseEscape (s : Src) (i : Nat) : Scan Char :=
  match s.at? i with
  | none => s.error i .eofInString
  | some c =>
    match c with
    | 0x22 => .ok ('"', i + 1)
    | 0x5C => .ok ('\\', i + 1)
    | 0x2F => .ok ('/', i + 1)
    | 0x62 => .ok ('\x08', i + 1)
    | 0x66 => .ok ('\x0c', i + 1)
    | 0x6E => .ok ('\n', i + 1)
    | 0x72 => .ok ('\r', i + 1)
    | 0x74 => .ok ('\t', i + 1)
    | 0x75 => unicodeEscape s (i + 1)
    | _ => s.error (i + 1) .invalidEscape

/-- Bytes of a string read so far, as text. -/
def textOf (b : ByteArray) : String := (String.fromUTF8? b).getD ""

/-- Read the rest of a string whose opening quote has been read. -/
def parseString (s : Src) (i : Nat) : Scan String :=
  let rec go (acc : ByteArray) (i : Nat) : Scan String :=
    let j := s.skipPlain i
    let acc := acc ++ s.extract i j
    match h : s.at? j with
    | none => s.error j .eofInString
    | some c =>
      if c == 0x22 then .ok (textOf acc, j + 1)
      else if c == 0x5C then
        match parseEscape s (j + 1) with
        | .error e => .error e
        | .ok (ch, k) =>
          if k ≤ i ∨ s.size < k then .error { issue := .eofInString }
          else go (acc ++ ch.toString.toUTF8) k
      else s.error (j + 1) .controlInString
  termination_by s.size + 1 - i
  decreasing_by omega
  go ByteArray.empty i

/-- Skip one escape after a backslash; `i` is after the backslash. -/
def skipEscape (s : Src) (i : Nat) : Except ReadError Nat :=
  match s.at? i with
  | none => s.error i .eofInString
  | some c =>
    if c == 0x22 || c == 0x5C || c == 0x2F || c == 0x62 || c == 0x66 || c == 0x6E || c == 0x72
      || c == 0x74 then .ok (i + 1)
    else if c == 0x75 then (hexEscape s (i + 1)).map Prod.snd
    else s.error (i + 1) .invalidEscape

/-- Skip the rest of a string whose opening quote has been read. -/
def skipString (s : Src) (i : Nat) : Except ReadError Nat :=
  let j := s.skipPlain i
  match s.at? j with
  | none => s.error j .eofInString
  | some c =>
    if c == 0x22 then .ok (j + 1)
    else if c == 0x5C then
      match skipEscape s (j + 1) with
      | .error e => .error e
      | .ok k => if k ≤ i ∨ s.size < k then .error { issue := .eofInString } else skipString s k
    else s.error j .controlInString
termination_by s.size + 1 - i
decreasing_by omega

/-! Skipping whole values -/

/-- Skip one value of any shape, nested containers included. The walk keeps the open
containers on a stack (`true` for an object) and the innermost one apart while one of its
elements is read; it ends when a value closes with no container open. -/
def skipValue (s : Src) (i : Nat) : Except ReadError Nat :=
  walk (6 * s.size + 6) [] none i
where
  /-- Skip one token at `i`: a scalar, or the opening bracket of a container. -/
  walk (fuel : Nat) (stack : List Bool) (enclosing : Option Bool) (i : Nat) :
      Except ReadError Nat :=
    match fuel with
    | 0 => .error { issue := .custom "nesting too deep" }
    | fuel + 1 =>
      let i := s.skipBlank i
      match s.at? i with
      | none => s.peekError i .eofInValue
      | some c =>
        if c == 0x5B || c == 0x7B then afterToken fuel (enclosing.toList ++ stack) (c == 0x7B) false (i + 1)
        else
          let scalar : Except ReadError Nat :=
            if c == 0x6E then s.expectWord [0x75, 0x6C, 0x6C] (i + 1)
            else if c == 0x74 then s.expectWord [0x72, 0x75, 0x65] (i + 1)
            else if c == 0x66 then s.expectWord [0x61, 0x6C, 0x73, 0x65] (i + 1)
            else if c == 0x2D then skipInteger s (i + 1)
            else if c == 0x22 then skipString s (i + 1)
            else if Src.isDigit c then skipInteger s i
            else s.peekError i .expectedValue
          match scalar with
          | .error e => .error e
          | .ok j =>
            match enclosing, stack with
            | some f, _ => afterToken fuel stack f true j
            | none, f :: rest => afterToken fuel rest f true j
            | none, [] => .ok j
  /-- After a token inside the container `isObj`: a comma, its closing bracket, or its first
  element when `acceptComma` is false. -/
  afterToken (fuel : Nat) (stack : List Bool) (isObj : Bool) (acceptComma : Bool) (i : Nat) :
      Except ReadError Nat :=
    match fuel with
    | 0 => .error { issue := .custom "nesting too deep" }
    | fuel + 1 =>
      let i := s.skipBlank i
      match s.at? i with
      | none => s.peekError i (if isObj then .eofInObject else .eofInList)
      | some c =>
        if c == 0x2C && acceptComma then enter fuel stack isObj (i + 1)
        else if (c == 0x5D && !isObj) || (c == 0x7D && isObj) then
          match stack with
          | f :: rest => afterToken fuel rest f true (i + 1)
          | [] => .ok (i + 1)
        else if acceptComma then
          s.peekError i (if isObj then .expectedObjectCommaOrEnd else .expectedListCommaOrEnd)
        else enter fuel stack isObj i
  /-- Start an element of the container `isObj`: inside an object, its key and colon first. -/
  enter (fuel : Nat) (stack : List Bool) (isObj : Bool) (i : Nat) : Except ReadError Nat :=
    match fuel with
    | 0 => .error { issue := .custom "nesting too deep" }
    | fuel + 1 =>
      if isObj then
        let i := s.skipBlank i
        match s.at? i with
        | some 0x22 =>
          match skipString s (i + 1) with
          | .error e => .error e
          | .ok j =>
            let j := s.skipBlank j
            match s.at? j with
            | some 0x3A => walk fuel stack (some true) (j + 1)
            | some _ => s.peekError j .expectedColon
            | none => s.peekError j .eofInObject
        | some _ => s.peekError i .keyMustBeString
        | none => s.peekError i .eofInObject
      else walk fuel stack (some false) i

/-! Whole values -/

namespace Json

/-- Where a list or an object stops after its elements: the closing bracket, or the error for
what stands there instead. -/
def closeAt (s : Src) (isObj : Bool) (i : Nat) : Except ReadError Nat :=
  let i := s.skipBlank i
  match s.at? i with
  | some c =>
    if (c == 0x5D && !isObj) || (c == 0x7D && isObj) then .ok (i + 1)
    else if c == 0x2C then
      if isObj then s.peekError i .trailingComma
      else
        let j := s.skipBlank (i + 1)
        if s.at? j == some 0x5D then s.peekError j .trailingComma else s.peekError j .trailingCharacters
    else s.peekError i .trailingCharacters
  | none => s.peekError i (if isObj then .eofInObject else .eofInList)

mutual

/-- Read one value at `i`, blanks first; `fuel` bounds the nesting and the element count, and
`room` is how many more lists and objects may open before the nesting is refused. -/
def parseAt (s : Src) : Nat → Nat → Nat → Scan Json
  | 0, _, _ => .error { issue := .custom "nesting too deep" }
  | fuel + 1, room, i =>
    let i := s.skipBlank i
    match s.at? i with
    | none => s.peekError i .eofInValue
    | some c =>
      if c == 0x6E then (s.expectWord [0x75, 0x6C, 0x6C] (i + 1)).map (fun j => (.null, j))
      else if c == 0x74 then (s.expectWord [0x72, 0x75, 0x65] (i + 1)).map (fun j => (.bool true, j))
      else if c == 0x66 then
        (s.expectWord [0x61, 0x6C, 0x73, 0x65] (i + 1)).map (fun j => (.bool false, j))
      else if c == 0x2D then (parseInteger s false (i + 1)).map (fun (n, j) => (.num n, j))
      else if Src.isDigit c then (parseInteger s true i).map (fun (n, j) => (.num n, j))
      else if c == 0x22 then (parseString s (i + 1)).map (fun (t, j) => (.str t, j))
      else if c == 0x5B then
        if room ≤ 1 then s.peekError i .recursionLimit
        else
          match parseItems s fuel (room - 1) true [] (i + 1) with
          | .error e => .error e
          | .ok (items, j) => (closeAt s false j).map (fun k => (.arr items, k))
      else if c == 0x7B then
        if room ≤ 1 then s.peekError i .recursionLimit
        else
          match parseFields s fuel (room - 1) true [] (i + 1) with
          | .error e => .error e
          | .ok (fields, j) => (closeAt s true j).map (fun k => (ofFields fields, k))
      else s.peekError i .expectedValue

/-- Read the elements of a list up to its closing bracket, which is left unread. -/
def parseItems (s : Src) : Nat → Nat → Bool → List Json → Nat → Scan (List Json)
  | 0, _, _, _, _ => .error { issue := .custom "nesting too deep" }
  | fuel + 1, room, first, acc, i =>
    let i := s.skipBlank i
    let start : Except ReadError (Option Nat) :=
      match s.at? i with
      | some 0x5D => .ok none
      | some 0x2C =>
        if first then .ok (some i)
        else
          let j := s.skipBlank (i + 1)
          match s.at? j with
          | some 0x5D => s.peekError j .trailingComma
          | some _ => .ok (some j)
          | none => s.peekError j .eofInValue
      | some _ => if first then .ok (some i) else s.peekError i .expectedListCommaOrEnd
      | none => s.peekError i .eofInList
    match start with
    | .error e => .error e
    | .ok none => .ok (acc.reverse, i)
    | .ok (some j) =>
      match parseAt s fuel room j with
      | .error e => .error e
      | .ok (v, k) => parseItems s fuel room false (v :: acc) k

/-- Read the fields of an object up to its closing brace, which is left unread. -/
def parseFields (s : Src) : Nat → Nat → Bool → List (String × Json) → Nat →
    Scan (List (String × Json))
  | 0, _, _, _, _ => .error { issue := .custom "nesting too deep" }
  | fuel + 1, room, first, acc, i =>
    let i := s.skipBlank i
    let start : Except ReadError (Option Nat) :=
      match s.at? i with
      | some 0x7D => .ok none
      | some 0x2C => if first then .ok (some i) else .ok (some (s.skipBlank (i + 1)))
      | some _ => if first then .ok (some i) else s.peekError i .expectedObjectCommaOrEnd
      | none => s.peekError i .eofInObject
    match start with
    | .error e => .error e
    | .ok none => .ok (acc.reverse, i)
    | .ok (some j) =>
      let key : Scan String :=
        match s.at? j with
        | some 0x22 => parseString s (j + 1)
        | some 0x7D => s.peekError j .trailingComma
        | some _ => s.peekError j .keyMustBeString
        | none => s.peekError j .eofInValue
      match key with
      | .error e => .error e
      | .ok (k, j) =>
        let j := s.skipBlank j
        match s.at? j with
        | some 0x3A =>
          match parseAt s fuel room (j + 1) with
          | .error e => .error e
          | .ok (v, m) => parseFields s fuel room false ((k, v) :: acc) m
        | some _ => s.peekError j .expectedColon
        | none => s.peekError j .eofInObject

end

/-- How deeply lists and objects may nest in a value read whole. -/
def nestingLimit : Nat := 128

/-- Read a whole text as one value, with nothing but blanks after it. -/
def parse (text : String) : Except ReadError Json :=
  let s : Src := text.toUTF8
  match parseAt s (2 * s.size + 2) nestingLimit 0 with
  | .error e => .error e
  | .ok (v, i) =>
    let i := s.skipBlank i
    if i < s.size then s.peekError i .trailingCharacters else .ok v

end Json

end ArrayBridge
