import FeatureLint.Fault
import FeatureLint.Text.Numeral

/-!
# Quoted texts

The text that stands between quotes, or between three quotes in a row.  Between double quotes a
backslash starts an escape.  Escapes that number a character are replaced first, over the whole
text, and the others after them, so that a backslash which was numbered may start another escape.
A text that follows its closing quote with anything but more quotes is malformed.
-/

namespace FeatureLint.Document

/-- The stretches of a text between the occurrences of two characters in a row. -/
def splitPair (a b : Char) : List Char → List (List Char)
  | [] => [[]]
  | [c] => [[c]]
  | c :: d :: rest =>
    if c = a ∧ d = b then [] :: splitPair a b rest
    else
      match splitPair a b (d :: rest) with
      | [] => [[c]]
      | part :: parts => (c :: part) :: parts

def endsEscaped (cs : List Char) : Bool := (cs.reverse.takeWhile (· = '\\')).length % 2 = 1

namespace Quoted

/-- How far a quoted text was read: whether it is closed, and how many quotes came in a row. -/
structure Progress where
  closed : Bool := false
  quotes : Nat := 0

def Progress.next (long : Bool) (p : Progress) (part : List Char) : Except Fault Progress :=
  if part.isEmpty then
    .ok (if long then { p with quotes := p.quotes + 1 } else { p with closed := true })
  else if endsEscaped part then .ok p
  else if p.closed then .error .document
  else if !long || 1 < p.quotes then .ok { p with closed := true }
  else .ok { p with quotes := 0 }

/-- Whether nothing follows the closing quote, which is `.ok`, or something does. -/
def checkClosing (quote : Char) (cs : List Char) : Except Fault Unit :=
  let (long, parts) := match cs.tail.splitOn quote with
    | [] :: [] :: parts => (true, parts)
    | parts => (false, parts)
  (parts.foldlM (Progress.next long) {}).map fun _ => ()

def control? : Char → Option Char
  | '0' => some '\x00'
  | 'b' => some '\x08'
  | 'f' => some '\x0c'
  | 'n' => some '\n'
  | 'r' => some '\r'
  | 't' => some '\t'
  | '"' => some '"'
  | _ => none

def announcesNumber (c : Char) : Bool := c = 'u' || c = 'U'

/-- Whether the backslashes of a text start escapes that are known.  The text is given by its
stretches between backslashes, but for the first. -/
def knownEscapes (escaped : Bool) : List (List Char) → Bool
  | [] => true
  | [] :: parts => knownEscapes (!escaped) parts
  | (c :: _) :: parts =>
    ((control? c).isSome || announcesNumber c || escaped) && knownEscapes false parts

def halfCharacter : Char := '\uFFFD'

def character (n : Nat) : Except Fault Char :=
  if n.isValidChar then .ok (Char.ofNat n)
  else if n < 0x110000 then .ok halfCharacter
  else if n < 0x80000000 then .error .document
  else .error .characterNumber

def isHalf : List Nat → Except Fault Bool
  | [] => .error (.outOfRange .text)
  | [13] => .error (.outOfRange .text)
  | 13 :: d :: _ => .ok (7 < d)
  | _ => .ok false

/-- A text with the number at its front replaced by the character; a number has `width` digits, or
fewer at the end of the text. -/
def unnumber (width : Nat) (cs : List Char) : Except Fault (List Char) :=
  match (cs.take width).mapM Text.hexValue? with
  | none => .error .document
  | some digits =>
    match isHalf digits with
    | .error fault => .error fault
    | .ok true => .error .document
    | .ok false =>
      (character (Text.Numeral.ofDigits 16 digits)).map (· :: cs.drop width)

/-- The stretches between announcements of numbers, laid end to end with the numbers replaced.
An announcement whose backslash is itself escaped stays; `escaped` tells this of the first one. -/
def unnumberAll (letter : Char) (width : Nat) (escaped : Bool) :
    List (List Char) → Except Fault (List Char)
  | [] => .ok []
  | part :: parts =>
    if escaped then
      (unnumberAll letter width (endsEscaped part) parts).map fun rest =>
        '\\' :: letter :: part ++ rest
    else
      match unnumber width part with
      | .error fault => .error fault
      | .ok part => (unnumberAll letter width false parts).map (part ++ ·)

def replaceNumbers (letter : Char) (width : Nat) (cs : List Char) : Except Fault (List Char) :=
  match splitPair '\\' letter cs with
  | [] => .ok cs
  | first :: parts => (unnumberAll letter width (endsEscaped first) parts).map (first ++ ·)

/-- A text with its escapes replaced, but for those that number a character, which stay. -/
def unescape : List Char → Except Fault (List Char)
  | [] => .ok []
  | [c] => .ok [c]
  | c :: d :: rest =>
    if c ≠ '\\' then (unescape (d :: rest)).map (c :: ·)
    else if announcesNumber d then (unescape rest).map (c :: d :: ·)
    else if d = '\\' then (unescape rest).map (d :: ·)
    else
      match control? d with
      | some e => (unescape rest).map (e :: ·)
      | none => .error .document

def readEscapes (cs : List Char) : Except Fault (List Char) :=
  if !knownEscapes false (cs.splitOn '\\').tail then .error .document
  else
    match replaceNumbers 'u' 4 cs with
    | .error fault => .error fault
    | .ok cs =>
      match replaceNumbers 'U' 8 cs with
      | .error fault => .error fault
      | .ok cs => unescape cs

def inner (cs : List Char) : List Char := cs.tail.dropLast

def unquote (quote : Char) (cs : List Char) : List Char :=
  match cs with
  | _ :: b :: rest =>
    if b = quote && (rest.isEmpty || rest.head? = some b) then inner (inner (inner cs)) else inner cs
  | _ => inner cs

end Quoted

/-- **The text that a quoted text stands for.** -/
def quotedText (quote : Char) (cs : List Char) : Except Fault String :=
  match Quoted.checkClosing quote cs with
  | .error fault => .error fault
  | .ok _ =>
    (if quote = '"' then Quoted.readEscapes cs else .ok cs).map fun cs =>
      String.ofList (Quoted.unquote quote cs)

end FeatureLint.Document
