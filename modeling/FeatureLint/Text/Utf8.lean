/-!
# UTF-8

Files hold octets, and their text is what the octets encode in UTF-8.  `Utf8.decode` reads octets
one character at a time.  Where they encode nothing it names the *flaw*: the offset at which the
broken sequence starts, the octets of it that were well-formed so far, and the reason.  A sequence
is broken as early as its octets show it: `E0 80` is broken after `E0`, since no character of three
octets starts that way.

`Utf8.encode` is the other direction, and `decodeMarked` is for files that may open with a byte
order mark, which is then no part of the text.
-/

namespace FeatureLint.Text

inductive Utf8.Reason where
  | start
  | continuation
  | ended
  deriving DecidableEq, Repr

structure Utf8.Flaw where
  offset : Nat
  octets : List UInt8
  reason : Utf8.Reason
  deriving DecidableEq, Repr

namespace Utf8

def isContinuation (b : UInt8) : Bool := 0x80 ≤ b && b ≤ 0xbf

def payload (b : UInt8) : Nat := b.toNat - 0x80

/-- How many octets follow the first one of a character. -/
def size (b : UInt8) : Option Nat :=
  if b ≤ 0x7f then some 0
  else if 0xc2 ≤ b && b ≤ 0xdf then some 1
  else if 0xe0 ≤ b && b ≤ 0xef then some 2
  else if 0xf0 ≤ b && b ≤ 0xf4 then some 3
  else none

def leadPayload (b : UInt8) : Nat :=
  if b ≤ 0xdf then b.toNat - 0xc0 else if b ≤ 0xef then b.toNat - 0xe0 else b.toNat - 0xf0

/-- Whether the second octet of a character fits the first: it must continue the character, encode
no surrogate, nothing beyond the last code point, and nothing that fits fewer octets. -/
def fitsSecond (first second : UInt8) : Bool :=
  isContinuation second
    && (first != 0xe0 || 0xa0 ≤ second) && (first != 0xed || second ≤ 0x9f)
    && (first != 0xf0 || 0x90 ≤ second) && (first != 0xf4 || second ≤ 0x8f)

inductive Step where
  /-- One character, the number of its octets, and what follows it. -/
  | char (c : Char) (size : Nat) (rest : List UInt8)
  | broken (octets : List UInt8) (reason : Reason)

/-- The end of a character: `value` and `taken` are what its octets so far encode and are, and a
number of octets is still to come. -/
def finish (value : Nat) (taken : List UInt8) : Nat → List UInt8 → Step
  | 0, rest => .char (Char.ofNat value) taken.length rest
  | _ + 1, [] => .broken taken .ended
  | n + 1, b :: rest =>
    if isContinuation b then finish (value * 64 + payload b) (taken ++ [b]) n rest
    else .broken taken .continuation

def step (a : UInt8) (rest : List UInt8) : Step :=
  match size a with
  | none => .broken [a] .start
  | some 0 => .char (Char.ofNat a.toNat) 1 rest
  | some (n + 1) =>
    match rest with
    | [] => .broken [a] .ended
    | b :: rest =>
      if fitsSecond a b then finish (leadPayload a * 64 + payload b) [a, b] n rest
      else .broken [a] .continuation

theorem finish_rest_length {value size : Nat} {taken : List UInt8} {n : Nat}
    {rest left : List UInt8} {c : Char} (h : finish value taken n rest = .char c size left) :
    left.length ≤ rest.length := by
  fun_induction finish value taken n rest with
  | case1 => cases h; exact Nat.le_refl _
  | case2 => cases h
  | case3 _ _ _ _ _ _ ih => exact Nat.le_succ_of_le (ih h)
  | case4 => cases h

theorem step_rest_length {a : UInt8} {rest : List UInt8} {c : Char} {size : Nat}
    {left : List UInt8} (h : step a rest = .char c size left) : left.length ≤ rest.length := by
  unfold step at h
  split at h
  · cases h
  · cases h; exact Nat.le_refl _
  · split at h
    · cases h
    · split at h
      · exact Nat.le_succ_of_le (finish_rest_length h)
      · cases h

/-- The characters `out`, last one first, and those of the octets, which start at `offset`. -/
def decodeFrom (offset : Nat) (out : List Char) (octets : List UInt8) :
    Except Flaw (List Char) :=
  match octets with
  | [] => .ok out.reverse
  | a :: rest =>
    match h : step a rest with
    | .broken taken reason => .error ⟨offset, taken, reason⟩
    | .char c size left =>
      have := step_rest_length h
      decodeFrom (offset + size) (c :: out) left
termination_by octets.length
decreasing_by simp only [List.length_cons]; omega

/-- **The characters that octets encode**, or the first flaw. -/
def decode (octets : List UInt8) : Except Flaw (List Char) := decodeFrom 0 [] octets

def mark : List UInt8 := [0xef, 0xbb, 0xbf]

/-- The characters of octets that may open with a byte order mark.  Offsets count from after the
mark.  A file that ends inside the mark is empty. -/
def decodeMarked (octets : List UInt8) : Except Flaw (List Char) :=
  if octets = mark.take 1 || octets = mark.take 2 then .ok []
  else if mark.isPrefixOf octets then decode (octets.drop 3)
  else decode octets

def encode (cs : List Char) : List UInt8 := cs.flatMap String.utf8EncodeChar

end Utf8

end FeatureLint.Text
