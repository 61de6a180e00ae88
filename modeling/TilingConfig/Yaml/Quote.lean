import TilingConfig.Text.Numeral
import TilingConfig.Yaml.Cursor
import TilingConfig.Yaml.Scalar

/-!
# Texts as scalars

A text is written plain where it reads back as itself. Else it is quoted: in single
quotes if that is enough, as literal lines if it holds a line feed, and in double
quotes if it holds anything that has to be escaped.
-/

namespace TilingConfig.Yaml

open TilingConfig.Text

/-- How a text is written. -/
inductive Quote where
  | plain
  | single
  | double
  /-- As indented lines below a header. -/
  | literal
  deriving DecidableEq, Repr

/-- The characters that can be written as they are. -/
def isPrintable (c : Char) : Bool :=
  let n := c.toNat
  n == 0x0a || (0x20 ≤ n && n ≤ 0x7e) || (0xa0 ≤ n && n ≤ 0xfffd && n != 0xfeff) || 0x10000 ≤ n

/-- White space, or the character that ends all texts. -/
def isSpacing (c : Char) : Bool := isGap c || isBreak c || c == '\x00'

/-- Whether white space or nothing comes next. -/
def spacingFollows (cs : List Char) : Bool := cs.head?.all isSpacing

/-- Whether a colon or a number sign behind `previous` would be read as a sign. -/
def hasInnerSign : Char → List Char → Bool
  | _, [] => false
  | previous, c :: cs =>
    (c == ':' && spacingFollows cs) || (c == '#' && isSpacing previous) || hasInnerSign c cs

/-- Whether the front of a text would be read as a sign. -/
def hasFrontSign : List Char → Bool
  | [] => false
  | c :: cs =>
    "#,[]\x7b\x7d&*!|>'\"%@\x60".toList.contains c ||
      ((c == '?' || c == ':' || c == '-') && spacingFollows cs)

/-- Whether a text starts as the line between two documents does. -/
def startsAsDocument (cs : List Char) : Bool :=
  cs.take 3 = "---".toList || cs.take 3 = "...".toList

/-- Whether some part of a text would be read as a sign. -/
def hasSign (cs : List Char) : Bool :=
  startsAsDocument cs || hasFrontSign cs ||
    match cs with
    | [] => false
    | c :: cs => hasInnerSign c cs

/-- Whether a character that satisfies `p` comes right before one that satisfies `q`. -/
def hasPair (p q : Char → Bool) : List Char → Bool
  | c :: d :: cs => (p c && q d) || hasPair p q (d :: cs)
  | _ => false

/-- Whether the first or the last character satisfies `p`. -/
def hasAtEnd (p : Char → Bool) (cs : List Char) : Bool := cs.head?.any p || cs.getLast?.any p

/-- A space. -/
def isSpace (c : Char) : Bool := c == ' '

/-- Whether a text has to be written with escapes. -/
def needsEscapes (cs : List Char) : Bool :=
  !cs.all isPrintable || hasPair isSpace isBreak cs

/-- Whether a text can be written plain. -/
def allowsPlain (cs : List Char) : Bool :=
  !(needsEscapes cs || cs.any isBreak || hasAtEnd isSpace cs || hasSign cs)

/-- Whether a text can be written in single quotes. -/
def allowsSingle (cs : List Char) : Bool := !(needsEscapes cs || hasPair isBreak isSpace cs)

/-- Whether a text can be written as literal lines. -/
def allowsLiteral (cs : List Char) : Bool :=
  !(cs.isEmpty || needsEscapes cs || cs.getLast?.any isSpace)

/-- Whether a text written plain would be read as something else, or could be. -/
def readsOtherwise (cs : List Char) : Bool :=
  hasLeadingZero cs ||
    match plainNode cs with
    | .ok (.string _) => false
    | _ => true

/-- How a text is written. -/
def quoteOf (cs : List Char) : Quote :=
  if cs.contains '\n' then (if allowsLiteral cs then .literal else .double)
  else if allowsPlain cs && !readsOtherwise cs then .plain
  else if allowsSingle cs then .single
  else .double

/-- So many spaces. -/
def spaces (n : Nat) : List Char := List.replicate n ' '

/-- The inside of single quotes. Behind a line break the line is indented. -/
def singleInside (indent : Nat) : Bool → List Char → List Char
  | behindBreak, [] => if behindBreak then spaces indent else []
  | behindBreak, c :: cs =>
    if isBreak c then c :: singleInside indent true cs
    else
      (if behindBreak then spaces indent else []) ++ (if c = '\'' then ['\'', '\''] else [c]) ++
        singleInside indent false cs

/-- The letter of the escape of a character that has one. -/
def escapeLetter? : Char → Option Char
  | '\x00' => some '0'
  | '\x07' => some 'a'
  | '\x08' => some 'b'
  | '\t' => some 't'
  | '\n' => some 'n'
  | '\x0b' => some 'v'
  | '\x0c' => some 'f'
  | '\r' => some 'r'
  | '\x1b' => some 'e'
  | '"' => some '"'
  | '\\' => some '\\'
  | '\u0085' => some 'N'
  | '\u00a0' => some '_'
  | '\u2028' => some 'L'
  | '\u2029' => some 'P'
  | _ => none

/-- The hexadecimal escape of a character, as short as it can be. -/
def hexEscape (c : Char) : List Char :=
  let digits (width : Nat) := ((hexadecimalPadded width c.toNat).toList.map Char.toUpper)
  if c.toNat ≤ 0xff then 'x' :: digits 2
  else if c.toNat ≤ 0xffff then 'u' :: digits 4
  else 'U' :: digits 8

/-- A character in double quotes. -/
def doubleChar (c : Char) : List Char :=
  if isPrintable c && !isBreak c && c != '"' && c != '\\' then [c]
  else match escapeLetter? c with
    | some letter => ['\\', letter]
    | none => '\\' :: hexEscape c

/-- The lines of a literal scalar, each of them indented unless it is empty. -/
def literalLines (indent : Nat) : Bool → List Char → List Char
  | _, [] => []
  | behindBreak, c :: cs =>
    if isBreak c then c :: literalLines indent true cs
    else (if behindBreak then spaces indent else []) ++ c :: literalLines indent false cs

/-- How many columns a level of indentation takes. -/
def indentStep : Nat := 2

/-- What the header of a literal scalar says about line breaks at the end: nothing if there is one,
and else whether there is none or there are more. -/
def chompingSign (cs : List Char) : List Char :=
  match cs.reverse with
  | last :: previous =>
    if !isBreak last then ['-'] else if previous.head?.all isBreak then ['+'] else []
  | [] => ['-']

/-- The header of a literal scalar. It tells the indentation if the text itself starts with a space
or a line break. -/
def literalHeader (cs : List Char) : List Char :=
  let hint :=
    if cs.head?.any fun c => c == ' ' || isBreak c then (toString indentStep).toList else []
  '|' :: (hint ++ chompingSign cs)

/-- A text as a scalar, the lines of which are indented by `indent`. -/
def renderText (indent : Nat) (text : String) : List Char :=
  let cs := text.toList
  match quoteOf cs with
  | .plain => cs
  | .single => '\'' :: (singleInside indent false cs ++ ['\''])
  | .double => '"' :: (cs.flatMap doubleChar ++ ['"'])
  | .literal => literalHeader cs ++ '\n' :: literalLines indent true cs

end TilingConfig.Yaml
