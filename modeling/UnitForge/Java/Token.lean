import UnitForge.Text.Identifier
import UnitForge.Text.Utf8

set_option autoImplicit false

/-!
# Tokens

A source is a sequence of tokens with blanks and comments between them. Which words are keywords
depends on what may follow, so that a word is one token whatever it is. A closing angle bracket is
a token of its own even if others follow, because it may close a list of type arguments.

## Main definitions

* `UnitForge.Java.Token`: a token with its place in the source.
* `UnitForge.Java.tokens`: the tokens of a source.
-/

namespace UnitForge.Java

/-- The kinds of tokens. -/
inductive TokenKind where
  /-- A word: an identifier or a keyword. -/
  | word
  /-- A number. -/
  | number
  /-- A character between single quotes. -/
  | character
  /-- A string or text block. -/
  | string
  /-- An operator or separator. -/
  | symbol
  /-- A character that begins no token. -/
  | stray
  /-- The end of the source. -/
  | finish
  deriving DecidableEq, Repr

/-- A token. -/
structure Token where
  /-- Its kind. -/
  kind : TokenKind
  /-- Its characters. -/
  text : Text
  /-- The position of its first byte. -/
  start : Nat
  /-- The position after its last byte. -/
  stop : Nat
  /-- The row of its first byte, counted from zero. -/
  row : Nat
  /-- The row of the position after its last byte. -/
  stopRow : Nat
  /-- Whether it follows the token before it without a gap. -/
  glued : Bool
  /-- The row in which the token or comment before it ends; zero if there is none. -/
  rowBefore : Nat
  deriving Repr

/-- The characters that count as blanks in a source. -/
def isSourceBlank (c : Char) : Bool :=
  c == ' ' || (9 ≤ c.toNat && c.toNat ≤ 13)

/-- Whether a character may begin a word. -/
def isWordStart (c : Char) : Bool := Text.isIdentifierStart c || c == '_' || c == '$'

/-- Whether a character may continue a word. -/
def isWordPart (c : Char) : Bool := Text.isIdentifierPart c || c == '$' || c == '¢'

/-- The longest prefix of a text that is digits of a class with underscores between them, by its
length. -/
def digitsLength (isDigit : Char → Bool) (text : Text) : Nat :=
  if text.head?.any isDigit then
    let run := text.takeWhile fun c => isDigit c || c == '_'
    (run.reverse.dropWhile (· == '_')).length
  else 0

/-- The length of an exponent with its letter and sign; zero if there is none. -/
def exponentLength (letters : List Char) (text : Text) : Nat :=
  match text with
  | letter :: rest =>
    if letters.contains letter then
      let (sign, digits) := match rest with
        | '+' :: more => (1, more)
        | '-' :: more => (1, more)
        | more => (0, more)
      let n := digitsLength Char.isDigit digits
      if n = 0 then 0 else 1 + sign + n
    else 0
  | [] => 0

/-- One if a text begins with one of the letters, and zero if not. -/
def suffixLength (letters : List Char) (text : Text) : Nat :=
  if text.head?.any letters.contains then 1 else 0

/-- Whether a character is a hexadecimal digit. -/
def isHexDigit (c : Char) : Bool :=
  c.isDigit || ('a' ≤ c && c ≤ 'f') || ('A' ≤ c && c ≤ 'F')

/-- The length of the number in base sixteen, two or eight after its mark. -/
def basedLength (mark : Char) (text : Text) : Nat :=
  if mark == 'x' || mark == 'X' then
    let whole := digitsLength isHexDigit text
    let point := text.drop whole
    let fraction := match point with
      | '.' :: more => 1 + digitsLength isHexDigit more
      | _ => 0
    let fraction := if whole = 0 && fraction ≤ 1 then 0 else fraction
    let n := whole + fraction
    if n = 0 then 0
    else
      let exponent := exponentLength ['e', 'E', 'p', 'P'] (text.drop n)
      let suffix :=
        if 0 < exponent then suffixLength ['f', 'F', 'd', 'D'] (text.drop (n + exponent))
        else if fraction = 0 then suffixLength ['l', 'L'] (text.drop n)
        else 0
      n + exponent + suffix
  else
    let top := if mark == 'b' || mark == 'B' then '1' else '7'
    let n := digitsLength (fun c => '0' ≤ c && c ≤ top) text
    if n = 0 then 0 else n + suffixLength ['l', 'L'] (text.drop n)

/-- The length of a decimal number. -/
def decimalLength (text : Text) : Nat :=
  let whole := digitsLength Char.isDigit text
  let fraction := match text.drop whole with
    | '.' :: more => 1 + digitsLength Char.isDigit more
    | _ => 0
  if whole = 0 && fraction ≤ 1 then 0
  else
    let n := whole + fraction
    let exponent :=
      exponentLength (if fraction = 0 then ['e', 'E', 'p', 'P'] else ['e', 'E']) (text.drop n)
    let suffixes :=
      if fraction = 0 && exponent = 0 then ['l', 'L', 'f', 'F', 'd', 'D'] else ['f', 'F', 'd', 'D']
    n + exponent + suffixLength suffixes (text.drop (n + exponent))

/-- The length of the number at the start of a text; zero if there is none. -/
def numberLength (text : Text) : Nat :=
  let based := match text with
    | '0' :: mark :: rest =>
      if ['x', 'X', 'b', 'B', 'o', 'O'].contains mark then basedLength mark rest else 0
    | _ => 0
  if 0 < based then based + 2 else decimalLength text

/-- The length of the escape after a backslash; zero if there is none. -/
def escapeLength (text : Text) : Nat :=
  match text with
  | [] => 0
  | 'x' :: a :: b :: _ => if isHexDigit a && isHexDigit b then 3 else 0
  | 'u' :: '{' :: rest =>
    let n := (rest.takeWhile isHexDigit).length
    if 0 < n && (rest.drop n).head? = some '}' then n + 3 else 0
  | 'u' :: rest => if 4 ≤ ((rest.take 4).takeWhile isHexDigit).length then 5 else 0
  | c :: _ =>
    if c == 'x' || c.toNat = 0 then 0
    else if '0' ≤ c && c ≤ '7' then ((text.take 3).takeWhile fun d => '0' ≤ d && d ≤ '7').length
    else 1

/-- The length of the rest of a string, with its closing quotes; none if it is not closed. `skip`
characters are read already. -/
def stringLength (block : Bool) (skip : Nat) : Text → Option Nat
  | [] => none
  | c :: rest =>
    match skip with
    | n + 1 => (stringLength block n rest).map (· + 1)
    | 0 =>
      if c == '"' then
        if block then
          if rest.take 2 == ['"', '"'] then some 3 else (stringLength block 0 rest).map (· + 1)
        else some 1
      else if c == '\\' then
        let n := escapeLength rest
        if n = 0 then none else (stringLength block n rest).map (· + 1)
      else if c.toNat = 0 then none
      else (stringLength block 0 rest).map (· + 1)

/-- The length of the rest of a character literal, with its closing quote; none if it is not
closed. -/
def characterLength (skip : Nat) : Text → Option Nat
  | [] => none
  | c :: rest =>
    match skip with
    | n + 1 => (characterLength n rest).map (· + 1)
    | 0 =>
      if c == '\'' then some 1
      else if c == '\\' then (characterLength 1 rest).map (· + 1)
      else if c == '\n' || c.toNat = 0 then none
      else (characterLength 0 rest).map (· + 1)

/-- The length of the rest of a block comment; none if it is not closed. -/
def blockCommentLength : Text → Option Nat
  | '*' :: '/' :: _ => some 2
  | c :: rest => if c.toNat = 0 then none else (blockCommentLength rest).map (· + 1)
  | [] => none

/-- The operators and separators of more than one character, longest first. -/
def longSymbols : List Text :=
  [">>>=", "@interface", "...", "<<=", ">>=", "->", "::", "++", "--", "&&", "||", "==", "!=",
    "<=", ">=", "+=", "-=", "*=", "/=", "&=", "|=", "^=", "%=", "<<"].map Text.lit

/-- The operators and separators of one character. -/
def shortSymbols : Text := Text.lit "()[]\x7b\x7d;,.@=<>!~?:+-*/&|^%"

/-- The number of characters up to the end of the source, if a string has no closing quotes there.
`skip` characters are read already. -/
def openStringLength (block : Bool) (skip : Nat) : Text → Option Nat
  | [] => some 0
  | c :: rest =>
    match skip with
    | n + 1 => (openStringLength block n rest).map (· + 1)
    | 0 =>
      if c == '"' && (!block || rest.take 2 == ['"', '"']) then none
      else if c.toNat = 0 then none
      else
        let n := if c == '\\' then escapeLength rest else 0
        if c == '\\' && n = 0 then none else (openStringLength block n rest).map (· + 1)

/-- The string at the start of a text. One that is not closed is a stray token up to the end of the
source; one that cannot be a string is a stray quote. -/
def stringAt (text : Text) : TokenKind × Nat :=
  let block := Text.startsWith text ['"', '"', '"']
  let quotes := if block then 3 else 1
  match stringLength block 0 (text.drop quotes) with
  | some n => (.string, quotes + n)
  | none =>
    match openStringLength block 0 (text.drop quotes) with
    | some n => (.stray, quotes + n)
    | none => (.stray, 1)

/-- The kind and the length of the token at the start of a text. -/
def tokenAt (text : Text) : TokenKind × Nat :=
  match text with
  | [] => (.finish, 0)
  | c :: rest =>
    if Text.startsWith text (Text.lit "non-sealed") then (.symbol, 10)
    else if isWordStart c then (.word, 1 + (rest.takeWhile isWordPart).length)
    else
      let number := numberLength text
      if 0 < number then (.number, number)
      else if c == '"' then stringAt text
      else if c == '\'' then
        match characterLength 0 rest with
        | some n => if n = 1 then (.stray, 1) else (.character, n + 1)
        | none => (.stray, 1)
      else
        match longSymbols.find? (Text.startsWith text ·) with
        | some s => (.symbol, s.length)
        | none => if shortSymbols.contains c then (.symbol, 1) else (.stray, 1)

/-- The number of characters of the blank or comment at the start of a text; zero if there is
neither. -/
def gapLength : Text → Nat
  | [] => 0
  | '/' :: '/' :: rest => 2 + (rest.takeWhile fun c => c != '\n' && c.toNat != 0).length
  | '/' :: '*' :: rest => ((blockCommentLength rest).map (· + 2)).getD 0
  | c :: _ => if isSourceBlank c then 1 else 0

/-- The characters of a source with the number of bytes of each; a byte that begins no character
counts as one that begins no token. -/
def glyphs (skip : Nat) : List UInt8 → List (Char × Nat)
  | [] => []
  | b :: rest =>
    match skip with
    | n + 1 => glyphs n rest
    | 0 =>
      match Text.nextScalar b rest with
      | .char c size => (c, size) :: glyphs (size - 1) rest
      | .broken _ _ => (Char.ofNat 0xfffd, 1) :: glyphs 0 rest

/-- The place between two tokens. -/
structure Cursor where
  /-- The characters left. -/
  text : Text
  /-- The number of bytes of each. -/
  sizes : List Nat
  /-- The position of the next byte. -/
  offset : Nat := 0
  /-- Its row. -/
  row : Nat := 0

/-- The place after the next `n` characters. -/
def Cursor.advance (c : Cursor) : Nat → Cursor
  | 0 => c
  | n + 1 =>
    match c.text, c.sizes with
    | ch :: text, size :: sizes =>
      advance ⟨text, sizes, c.offset + size, if ch == '\n' then c.row + 1 else c.row⟩ n
    | _, _ => c

/-- The tokens from a place on, with the end of the source as the last one; `rowBefore` is the row
in which the token or comment before the place ends. At most `fuel` steps are taken, each over a
token, a blank or a comment. -/
def tokensFrom (c : Cursor) (glued : Bool) (rowBefore : Nat) : Nat → List Token
  | 0 => []
  | fuel + 1 =>
    let gap := gapLength c.text
    if 0 < gap then
      let next := c.advance gap
      tokensFrom next false (if c.text.head? = some '/' then next.row else rowBefore) fuel
    else
      let (kind, n) := tokenAt c.text
      let next := c.advance n
      let token : Token :=
        ⟨kind, c.text.take n, c.offset, next.offset, c.row, next.row, glued, rowBefore⟩
      if kind = .finish then [token] else token :: tokensFrom next true next.row fuel

/-- The place at the start of a source, after a byte order mark if there is one. -/
def Cursor.ofSource (source : List UInt8) : Cursor :=
  let all := glyphs 0 source
  let cursor : Cursor := { text := all.map (·.1), sizes := all.map (·.2) }
  if cursor.text.head?.any (·.toNat = 0xfeff) then cursor.advance 1 else cursor

/-- The tokens of a source, with its end as the last one. -/
def tokens (source : List UInt8) : List Token :=
  let cursor := Cursor.ofSource source
  tokensFrom cursor false 0 (cursor.text.length + 1)

/-- The row of the first character of a source that is no blank. -/
def startRow (source : List UInt8) : Nat :=
  let text := (Cursor.ofSource source).text
  ((text.takeWhile isSourceBlank).filter (· == '\n')).length

end UnitForge.Java
