import TilingConfig.Text.Numeral
import TilingConfig.Yaml.Token

/-!
# Anchors, aliases, tags and directives

The words that stand before a node or before a document. A tag is written with a
handle and a suffix, or between angle brackets; the octets of characters outside
ASCII are written as escapes of two hexadecimal digits.
-/

namespace TilingConfig.Yaml

open TilingConfig.Text

/-- The characters that may follow the name of an anchor directly. -/
def endsName : List Char → Bool
  | '?' :: _ | ':' :: _ | ',' :: _ | ']' :: _ | '}' :: _ | '%' :: _ | '@' :: _ | '\x60' :: _ => true
  | cs => atGap cs

/-- The name behind the sign at the cursor, made into a token. -/
def Cursor.name (cursor : Cursor) (kind : List Char → TokenKind) :
    Except Fault (Token × Cursor) :=
  let (name, behind) := (cursor.skip 1).span isWordChar
  if name.isEmpty || !endsName behind.rest then
    .error (.at "did not find expected alphabetic or numeric character" behind.mark)
  else .ok (⟨kind name, cursor.mark, behind.mark⟩, behind)

/-- The characters of a tag. Commas and square brackets stand for themselves only where a tag is
written in full. -/
def isTagChar (full : Bool) (c : Char) : Bool :=
  isWordChar c || ";/?:@&=+$.%!~*'()".toList.contains c || (full && ",[]".toList.contains c)

/-- How many octets a character takes whose first octet is `octet`. -/
def octetCount? (octet : Nat) : Option Nat :=
  if octet < 0x80 then some 1
  else if 0xc0 ≤ octet && octet < 0xe0 then some 2
  else if 0xe0 ≤ octet && octet < 0xf0 then some 3
  else if 0xf0 ≤ octet && octet < 0xf8 then some 4
  else none

/-- How many octets of a character are still to come behind `octet`, of `left` expected. -/
def octetsLeft (left octet : Nat) : Except String Nat :=
  if left = 0 then
    match octetCount? octet with
    | some count => .ok (count - 1)
    | none => .error "found an incorrect leading UTF-8 octet"
  else if octet / 64 = 2 then .ok (left - 1)
  else .error "found an incorrect trailing UTF-8 octet"

/-- Read the characters of a tag, where `left` octets of a character are still to come. -/
def readTag (full : Bool) (left : Nat) (mark : Mark) :
    List Char → Except Fault (Octets × Mark × List Char)
  | '%' :: a :: b :: rest =>
    match digitValue? 16 a, digitValue? 16 b with
    | some high, some low =>
      match octetsLeft left (high * 16 + low) with
      | .error problem => .error (.at problem mark)
      | .ok left =>
        (readTag full left (mark.advance ['%', a, b]) rest).map fun (octets, behind) =>
          (UInt8.ofNat (high * 16 + low) :: octets, behind)
    | _, _ => .error (.at "did not find URI escaped octet" mark)
  | c :: rest =>
    if left ≠ 0 || c == '%' then .error (.at "did not find URI escaped octet" mark)
    else if isTagChar full c then
      (readTag full 0 (mark.advance [c]) rest).map fun (octets, behind) =>
        (c.toUInt8 :: octets, behind)
    else .ok ([], mark, c :: rest)
  | [] =>
    if left ≠ 0 then .error (.at "did not find URI escaped octet" mark) else .ok ([], mark, [])

/-- What counts of a tag: an octet of zero, which can only be escaped, ends it. -/
def beforeZero (octets : Octets) : Octets := octets.takeWhile (· != 0)

/-- The characters of a tag at the cursor. -/
def Cursor.tagText (cursor : Cursor) (full : Bool) : Except Fault (Octets × Cursor) :=
  (readTag full 0 cursor.mark cursor.rest).map fun (octets, mark, rest) => (octets, ⟨rest, mark⟩)

/-- What counts of the tag at the cursor, which has to have a character. -/
def Cursor.someTagText (cursor : Cursor) (full : Bool) : Except Fault (Octets × Cursor) := do
  let (octets, behind) ← cursor.tagText full
  if octets.isEmpty then .error (.at "did not find expected tag URI" behind.mark)
  else .ok (beforeZero octets, behind)

/-- An exclamation mark, word characters, and perhaps another exclamation mark. -/
def Cursor.tagHandle (cursor : Cursor) : Except Fault (List Char × Cursor) :=
  if !cursor.sees '!' then .error (.at "did not find expected '!'" cursor.mark)
  else
    let (name, behind) := (cursor.skip 1).span isWordChar
    if behind.sees '!' then .ok ('!' :: (name ++ ['!']), behind.skip 1)
    else .ok ('!' :: name, behind)

/-- Whether a handle is complete: one exclamation mark, or a name between two of them. -/
def isCompleteHandle (handle : List Char) : Bool :=
  handle.length == 1 || handle.getLast? == some '!'

/-- The handle and suffix of the tag at the cursor. A tag without a handle of its own has the handle
`!`; a tag in full, and the tag `!` itself, have none. -/
def Cursor.tagParts (cursor : Cursor) : Except Fault (List Char × Octets × Cursor) :=
  match cursor.rest with
  | _ :: '<' :: _ => do
    let (octets, behind) ← (cursor.skip 2).someTagText true
    if behind.sees '>' then .ok ([], octets, behind.skip 1)
    else .error (.at "did not find the expected '>'" behind.mark)
  | _ => do
    let (handle, behind) ← cursor.tagHandle
    if handle.length ≠ 1 && isCompleteHandle handle then
      let (octets, behind) ← behind.someTagText false
      .ok (handle, octets, behind)
    else
      let (octets, behind) ← behind.tagText false
      let suffix := beforeZero ((handle.drop 1).map Char.toUInt8 ++ octets)
      if suffix.isEmpty then .ok ([], ['!'.toUInt8], behind) else .ok (['!'], suffix, behind)

/-- The tag at the cursor. -/
def Cursor.tag (cursor : Cursor) (flow : Bool) : Except Fault (Token × Cursor) := do
  let (handle, suffix, behind) ← cursor.tagParts
  if atGap behind.rest || (flow && behind.sees ',') then
    .ok (⟨.tag handle suffix, cursor.mark, behind.mark⟩, behind)
  else .error (.at "did not find expected whitespace or line break" behind.mark)

/-- The most digits of a version number. -/
def maxVersionDigits : Nat := 9

/-- The number at the cursor, one half of a version. -/
def Cursor.versionNumber (cursor : Cursor) : Except Fault (Nat × Cursor) :=
  let (digits, behind) := cursor.span Char.isDigit
  if digits.isEmpty then .error (.at "did not find expected version number" behind.mark)
  else if maxVersionDigits < digits.length then
    .error (.at "found extremely long version number" (cursor.skip maxVersionDigits).mark)
  else .ok ((natural? 10 digits).getD 0, behind)

/-- The two numbers of a version directive. -/
def Cursor.version (cursor : Cursor) : Except Fault (TokenKind × Cursor) := do
  let (major, behind) ← cursor.skipGap.versionNumber
  if !behind.sees '.' then
    .error (.at "did not find expected digit or '.' character" behind.mark)
  else
    let (minor, behind) ← (behind.skip 1).versionNumber
    .ok (.versionDirective major minor, behind)

/-- The handle of a tag directive and what it stands for. -/
def Cursor.tagDefinition (cursor : Cursor) : Except Fault (TokenKind × Cursor) := do
  let (handle, behind) ← cursor.skipGap.tagHandle
  if !isCompleteHandle handle then .error (.at "did not find expected '!'" behind.mark)
  else if !behind.rest.head?.any isGap then
    .error (.at "did not find expected whitespace" behind.mark)
  else
    let (stem, behind) ← behind.skipGap.someTagText true
    if !atGap behind.rest then
      .error (.at "did not find expected whitespace or line break" behind.mark)
    else .ok (.tagDirective handle stem, behind)

/-- The directive at the cursor, with the rest of its line. -/
def Cursor.directive (cursor : Cursor) : Except Fault (Token × Cursor) := do
  let (name, behind) := (cursor.skip 1).span isWordChar
  if name.isEmpty then .error (.at "could not find expected directive name" behind.mark)
  else if !atGap behind.rest then
    .error (.at "found unexpected non-alphabetical character" behind.mark)
  else
    let (kind, behind) ←
      if name = "YAML".toList then behind.version
      else if name = "TAG".toList then behind.tagDefinition
      else .error (.at "found unknown directive name" behind.mark)
    let stop := behind.mark
    let behind := behind.skipGap
    let behind := if behind.sees '#' then behind.skipToLineEnd else behind
    if atLineEnd behind.rest then .ok (⟨kind, cursor.mark, stop⟩, behind.takeBreak.2)
    else .error (.at "did not find expected comment or line break" behind.mark)

end TilingConfig.Yaml
