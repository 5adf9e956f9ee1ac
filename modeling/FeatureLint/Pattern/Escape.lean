import FeatureLint.Pattern.Mode
import FeatureLint.Text.CharName

/-!
# Escapes and sets of a pattern

What a backslash and the character behind it stand for: a class of characters, an anchor, a control
character, a character by its number or its name, or the character itself.  A digit other than zero
is the number of a group, unless three octal digits stand there.  Within square brackets there are
no anchors and no groups.
-/

namespace FeatureLint.Pattern

def classOf? (a : Alphabet) : Char → Option CharClass
  | 'd' => some (.digit a)
  | 'D' => some (.except (.digit a))
  | 's' => some (.blank a)
  | 'S' => some (.except (.blank a))
  | 'w' => some (.word a)
  | 'W' => some (.except (.word a))
  | _ => none

def controlOf? : Char → Option Nat
  | 'a' => some 7
  | 'f' => some 12
  | 'n' => some 10
  | 'r' => some 13
  | 't' => some 9
  | 'v' => some 11
  | _ => none

def anchorOf? (a : Alphabet) : Char → Option Anchor
  | 'A' => some .textStart
  | 'Z' => some .textEnd
  | 'b' => some (.wordEdge a)
  | 'B' => some (.noWordEdge a)
  | _ => none

def isOctal (c : Char) : Bool := '0' ≤ c && c ≤ '7'

/-- The digits at the front of some tokens, at most so many. -/
def digitsAt (isDigit : Char → Bool) (most : Nat) (ts : List Token) : List Char :=
  ((ts.take most).takeWhile fun t => t.char?.any isDigit).filterMap Token.char?

/-- The number that exactly `width` hexadecimal digits spell, and what follows them. -/
def hexCode (width : Nat) (ts : List Token) : Except Fault (Nat × List Token) :=
  let digits := digitsAt (Text.hexValue? · |>.isSome) width ts
  match Text.Numeral.based? 16 digits with
  | some n =>
    if digits.length < width then .error .pattern
    else if 0x80000000 ≤ n then .error .characterNumber
    else if 0x10ffff < n then .error .pattern
    else .ok (n, ts.drop width)
  | none => .error .pattern

def octalCode (digits : List Char) : Except Fault Nat :=
  match Text.Numeral.based? 8 digits with
  | some n => if n ≤ 0o377 then .ok n else .error .pattern
  | none => .error .pattern

def namedCode (ts : List Token) : Except Fault (Nat × List Token) :=
  match ts with
  | .plain '{' :: rest =>
    match until? '}' rest with
    | some (name, rest) =>
      match Text.charNamed? (String.ofList name) with
      | some n => .ok (n, rest)
      | none => .error .pattern
    | none => .error .pattern
  | _ => .error .pattern

/-- The code point of the character that an escape stands for, digits apart. -/
def codeEscape (c : Char) (rest : List Token) : Except Fault (Nat × List Token) :=
  match controlOf? c with
  | some n => .ok (n, rest)
  | none =>
    if c = 'x' then hexCode 2 rest
    else if c = 'u' then hexCode 4 rest
    else if c = 'U' then hexCode 8 rest
    else if c = 'N' then namedCode rest
    else if c.isAlphanum then .error .pattern
    else .ok (c.toNat, rest)

/-! ### Sets -/

/-- A member of a set: the code point of a character, or a class. -/
inductive Member where
  | code (n : Nat)
  | named (c : CharClass)

def Member.toClass : Member → CharClass
  | code n => .one n
  | named c => c

def escapedMember (a : Alphabet) (c : Char) (rest : List Token) :
    Except Fault (Member × List Token) :=
  match classOf? a c with
  | some cls => .ok (.named cls, rest)
  | none =>
    if c = 'b' then .ok (.code 8, rest)
    else if isOctal c then
      let more := digitsAt isOctal 2 rest
      (octalCode (c :: more)).map fun n => (.code n, rest.drop more.length)
    else (codeEscape c rest).map fun (n, rest) => (.code n, rest)

def member (a : Alphabet) (t : Token) (rest : List Token) : Except Fault (Member × List Token) :=
  match t with
  | .plain c => .ok (.code c.toNat, rest)
  | .escaped c => escapedMember a c rest
  | .dangling => .error .pattern

/-- The member that ends a range from another one. -/
def rangeTo (a : Alphabet) (first : Member) (t : Token) (rest : List Token) :
    Except Fault (CharClass × List Token) :=
  match first, member a t rest with
  | .code lo, .ok (.code hi, rest) =>
    if hi < lo then .error .pattern else .ok (.range lo hi, rest)
  | _, .error fault => .error fault
  | _, _ => .error .pattern

/-- The members of a set up to the bracket that closes it, which is a member if it comes first. -/
def members (a : Alphabet) : Nat → List CharClass → List Token →
    Except Fault (List CharClass × List Token)
  | 0, _, _ => .error .pattern
  | _, _, [] => .error .pattern
  | fuel + 1, found, t :: rest =>
    if t = .plain ']' && !found.isEmpty then .ok (found.reverse, rest)
    else
      match member a t rest with
      | .error fault => .error fault
      | .ok (first, .plain '-' :: .plain ']' :: rest) =>
        .ok ((.one 0x2d :: first.toClass :: found).reverse, rest)
      | .ok (first, .plain '-' :: t :: rest) =>
        match rangeTo a first t rest with
        | .error fault => .error fault
        | .ok (range, rest) => members a fuel (range :: found) rest
      | .ok (first, rest) => members a fuel (first.toClass :: found) rest

/-- The set of characters behind an opening square bracket. -/
def set (mode : Mode) (ts : List Token) : Except Fault (Regex × List Token) :=
  let (negated, ts) := match ts with
    | .plain '^' :: rest => (true, rest)
    | _ => (false, ts)
  (members mode.alphabet (ts.length + 1) [] ts).map fun (classes, rest) =>
    (.char ⟨negated, mode.letterCase, classes.eraseDups⟩, rest)

/-! ### Escapes outside of sets -/

def literal (mode : Mode) (n : Nat) : Regex := .char ⟨false, mode.letterCase, [.one n]⟩

/-- What an escape stands for: an expression, or the number of a group. -/
inductive Escape where
  | item (r : Regex)
  | group (number : Nat)

/-- What a digit other than zero behind a backslash stands for, with the digits that follow. -/
def digitEscape (mode : Mode) (c : Char) (rest : List Token) :
    Except Fault (Escape × List Token) :=
  let more := digitsAt Char.isDigit 1 rest
  let octal := (c :: digitsAt isOctal 2 rest).takeWhile isOctal
  if octal.length = 3 then
    (octalCode octal).map fun n => (.item (literal mode n), rest.drop 2)
  else
    .ok (.group ((Text.Numeral.based? 10 (c :: more)).getD 0), rest.drop more.length)

/-- What a backslash and a character stand for outside of a set. -/
def escape (mode : Mode) (c : Char) (rest : List Token) : Except Fault (Escape × List Token) :=
  match anchorOf? mode.alphabet c, classOf? mode.alphabet c with
  | some a, _ => .ok (.item (.anchor a), rest)
  | _, some cls => .ok (.item (.char ⟨false, mode.letterCase, [cls]⟩), rest)
  | none, none =>
    if c = '0' then
      let more := digitsAt isOctal 2 rest
      (octalCode (c :: more)).map fun n => (.item (literal mode n), rest.drop more.length)
    else if c.isDigit then digitEscape mode c rest
    else (codeEscape c rest).map fun (n, rest) => (.item (literal mode n), rest)

end FeatureLint.Pattern
