/-!
# Terminal sequences

A text may hold sequences that tell a terminal to change its colours or to move its cursor: an
escape character, an opening bracket, any number of *parameter* characters, any number of
*intermediate* characters, and one *final* character.  They are taken out of what is printed, since
nobody knows what it is printed to.
-/

namespace FeatureLint.Text

def escapeCharacter : Char := '\x1b'

/-- Whether a character is a parameter of a terminal sequence: a digit or one of `:;<=>?`. -/
def isParameter (c : Char) : Bool := 0x30 ≤ c.toNat && c.toNat ≤ 0x3f

/-- Whether a character may stand between the parameters of a terminal sequence and its end: a
space or one of the signs up to the slash. -/
def isIntermediate (c : Char) : Bool := 0x20 ≤ c.toNat && c.toNat ≤ 0x2f

/-- Whether a character ends a terminal sequence: a letter of ASCII or a sign near the letters. -/
def isFinal (c : Char) : Bool := 0x40 ≤ c.toNat && c.toNat ≤ 0x7e

/-- What follows the terminal sequence whose opening bracket stands in front of `cs`. -/
def afterSequence? (cs : List Char) : Option (List Char) :=
  match (cs.dropWhile isParameter).dropWhile isIntermediate with
  | c :: rest => if isFinal c then some rest else none
  | [] => none

theorem afterSequence?_length {cs rest : List Char} (h : afterSequence? cs = some rest) :
    rest.length < cs.length := by
  unfold afterSequence? at h
  split at h
  · rename_i c tail hd
    split at h
    · cases h
      have outer := (List.dropWhile_sublist (l := cs) isParameter).length_le
      have within :=
        (List.dropWhile_sublist (l := cs.dropWhile isParameter) isIntermediate).length_le
      rw [hd] at within
      exact Nat.lt_of_lt_of_le within outer
    · cases h
  · cases h

/-- What was written, last character first, and behind it the characters without the terminal
sequences among them. -/
def dropSequences (out cs : List Char) : List Char :=
  match cs with
  | [] => out.reverse
  | c :: rest =>
    if c = escapeCharacter && rest.head? = some '[' then
      match h : afterSequence? rest.tail with
      | some left =>
        have := afterSequence?_length h
        dropSequences out left
      | none => dropSequences (c :: out) rest
    else dropSequences (c :: out) rest
termination_by cs.length
decreasing_by all_goals (simp only [List.length_cons, List.length_tail] at *; omega)

def withoutSequences (s : String) : String := String.ofList (dropSequences [] s.toList)

end FeatureLint.Text
