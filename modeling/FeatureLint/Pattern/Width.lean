import FeatureLint.Pattern.Basic

/-!
# Lengths of matches

How long the matches of a regular expression can be, by its shape.  A look behind needs an
expression whose matches have one length.
-/

namespace FeatureLint

/-- The least and the greatest length of a match; there may be no greatest. -/
structure Width where
  least : Nat
  most : Option Nat
  deriving DecidableEq, Repr

namespace Width

def add (v w : Width) : Width := ⟨v.least + w.least, do return (← v.most) + (← w.most)⟩

def join (v w : Width) : Width := ⟨min v.least w.least, do return max (← v.most) (← w.most)⟩

def times (w : Width) (least : Nat) (most : Option Nat) : Width :=
  ⟨least * w.least,
    if w.most = some 0 || most = some 0 then some 0 else do return (← most) * (← w.most)⟩

/-- The only length of a match, if there is just one that can be counted. -/
def fixed? (w : Width) : Option Nat :=
  if w.most = some w.least && w.least < 0x100000000 then some w.least else none

end Width

/-- **How long the matches of an expression can be**; `groups` has the widths of numbered groups. -/
def Regex.width (groups : List (Nat × Width)) : Regex → Width
  | empty => ⟨0, some 0⟩
  | char _ => ⟨1, some 1⟩
  | anchor _ => ⟨0, some 0⟩
  | seq r s => (r.width groups).add (s.width groups)
  | alt r s => (r.width groups).join (s.width groups)
  | repeated least most _ r => (r.width groups).times least most
  | group _ r => r.width groups
  | same _ number => (groups.lookup number).getD ⟨0, none⟩
  | ifMatched _ yes no => (yes.width groups).join (no.width groups)
  | atomic r => r.width groups
  | ahead .. => ⟨0, some 0⟩
  | behind .. => ⟨0, some 0⟩

end FeatureLint
