import TilingConfig.Text.Position

/-!
# TOML tokens

The words of a TOML text. A word without quotes goes on up to a sign, white space
or a comment; what it means is told by where it stands.
-/

namespace TilingConfig.Toml

open TilingConfig.Text

/-- How a text is quoted. -/
inductive Quoting where
  /-- Between single quotes, without escapes. -/
  | literal
  /-- Between double quotes. -/
  | basic
  /-- Between three single quotes, without escapes and over several lines. -/
  | longLiteral
  /-- Between three double quotes, over several lines. -/
  | longBasic
  deriving DecidableEq, Repr

/-- What a token is. -/
inductive TokenKind where
  /-- One of `. = , [ ] { }`. -/
  | sign (c : Char)
  | gap
  | comment
  | newline
  | quoted (quoting : Quoting)
  | bare
  deriving DecidableEq, Repr

/-- A token, with the bytes before it. -/
structure Token where
  /-- What it is. -/
  kind : TokenKind
  /-- All its characters. -/
  text : List Char
  /-- The bytes before it. -/
  start : Nat
  deriving DecidableEq, Repr

/-- The bytes up to the end of a token. -/
def Token.stop (token : Token) : Nat := token.start + byteCount token.text

/-- The signs. -/
def isSign (c : Char) : Bool := ".=,[]\x7b\x7d".toList.contains c

/-- The characters of white space within a line. -/
def isGap (c : Char) : Bool := c == ' ' || c == '\t'

/-- The characters with which a line ends. -/
def isLineEnd (c : Char) : Bool := c == '\n' || c == '\r'

/-- The characters at which a word without quotes ends. -/
def endsBare (c : Char) : Bool := isSign c || isGap c || isLineEnd c || c == '#'

/-- How many characters a quoted text of one line has behind its first quote, with the last quote.
One without a last quote goes up to the end of the line. -/
def lineQuoteLength (quote : Char) : List Char → Nat
  | [] => 0
  | '\\' :: e :: rest =>
    if quote == '"' && e != '\n' then lineQuoteLength quote rest + 2
    else if quote == '"' then 1
    else lineQuoteLength quote (e :: rest) + 1
  | c :: rest => if c == quote then 1 else if c == '\n' then 0 else lineQuoteLength quote rest + 1

/-- How many quotes are there in front, at most `limit`. -/
def quotesInFront (quote : Char) : Nat → List Char → Nat
  | limit + 1, c :: rest => if c == quote then quotesInFront quote limit rest + 1 else 0
  | _, _ => 0

/-- The most quotes with which a long quoted text can end: two of its own and three to close it. -/
def maxClosingQuotes : Nat := 5

/-- How many characters a long quoted text has behind its first quotes, with the last quotes. One
without last quotes goes up to the end of the text. -/
def longQuoteLength (quote : Char) : List Char → Nat
  | [] => 0
  | '\\' :: e :: rest =>
    if quote == '"' then longQuoteLength quote rest + 2 else longQuoteLength quote (e :: rest) + 1
  | c :: rest =>
    let quotes := quotesInFront quote maxClosingQuotes (c :: rest)
    if 3 ≤ quotes then quotes else longQuoteLength quote rest + 1

/-- The kind and length of the token in front of a text. -/
def frontToken : List Char → TokenKind × Nat
  | '\r' :: '\n' :: _ => (.newline, 2)
  | '\'' :: '\'' :: '\'' :: rest => (.quoted .longLiteral, longQuoteLength '\'' rest + 3)
  | '"' :: '"' :: '"' :: rest => (.quoted .longBasic, longQuoteLength '"' rest + 3)
  | '\'' :: rest => (.quoted .literal, lineQuoteLength '\'' rest + 1)
  | '"' :: rest => (.quoted .basic, lineQuoteLength '"' rest + 1)
  | '#' :: rest => (.comment, (rest.takeWhile fun c => !isLineEnd c).length + 1)
  | c :: rest =>
    if isSign c then (.sign c, 1)
    else if isLineEnd c then (.newline, 1)
    else if isGap c then (.gap, (rest.takeWhile isGap).length + 1)
    else (.bare, (rest.takeWhile fun c => !endsBare c).length + 1)
  | [] => (.gap, 0)

/-- The tokens of a text behind `start` bytes, at most as many as there is fuel. -/
def tokensFrom : Nat → Nat → List Char → List Token
  | fuel + 1, start, c :: cs =>
    let (kind, length) := frontToken (c :: cs)
    let token : Token := ⟨kind, (c :: cs).take length, start⟩
    token :: tokensFrom fuel token.stop ((c :: cs).drop length)
  | _, _, _ => []

/-- The tokens of a text. A byte order mark in front belongs to none of them. -/
def tokens : List Char → List Token
  | '\ufeff' :: cs => tokensFrom cs.length (Char.utf8Size '\ufeff') cs
  | cs => tokensFrom cs.length 0 cs

end TilingConfig.Toml
