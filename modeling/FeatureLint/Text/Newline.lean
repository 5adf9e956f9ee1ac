/-!
# Lines of a file

A file may end its lines with a line feed, a carriage return or both.  `unifyNewlines` writes each
of the three as a line feed, and the lines of the file are then the stretches between line feeds.
No other separator ends a line.

Files may be long, so what is written is collected last character first and turned round at the
end.  `unifyNewlines_cons` and its neighbours say what comes of that, one character at a time.
-/

namespace FeatureLint.Text

/-- What was written, last character first, and behind it a text whose line ends are all line
feeds. -/
def unifyNewlinesTo (out : List Char) : List Char → List Char
  | [] => out.reverse
  | '\r' :: '\n' :: cs => unifyNewlinesTo ('\n' :: out) cs
  | c :: cs => unifyNewlinesTo ((if c = '\r' then '\n' else c) :: out) cs

/-- **A text whose line ends are all line feeds.** -/
def unifyNewlines (cs : List Char) : List Char := unifyNewlinesTo [] cs

theorem unifyNewlinesTo_append (out tail cs : List Char) :
    unifyNewlinesTo (out ++ tail) cs = tail.reverse ++ unifyNewlinesTo out cs := by
  fun_induction unifyNewlinesTo out cs with
  | case1 out => simp [unifyNewlinesTo]
  | case2 out cs ih => rw [unifyNewlinesTo]; exact ih
  | case3 out c cs h ih => rw [unifyNewlinesTo] <;> simp_all

@[simp] theorem unifyNewlines_nil : unifyNewlines [] = [] := rfl

theorem unifyNewlines_return_feed (cs : List Char) :
    unifyNewlines ('\r' :: '\n' :: cs) = '\n' :: unifyNewlines cs := by
  simpa [unifyNewlines, unifyNewlinesTo] using unifyNewlinesTo_append [] ['\n'] cs

/-- Any other character is written by itself, a carriage return as a line feed. -/
theorem unifyNewlines_cons (c : Char) (cs : List Char) (h : c ≠ '\r' ∨ cs.head? ≠ some '\n') :
    unifyNewlines (c :: cs) = (if c = '\r' then '\n' else c) :: unifyNewlines cs := by
  have step : unifyNewlinesTo [] (c :: cs) =
      unifyNewlinesTo [if c = '\r' then '\n' else c] cs := by
    rw [unifyNewlinesTo]
    rintro rest rfl rfl
    simp at h
  rw [unifyNewlines, step]
  simpa [unifyNewlines] using unifyNewlinesTo_append [] [if c = '\r' then '\n' else c] cs

/-- What was written, last character first, and behind it a text in which a carriage return in front
of a line feed is left out. -/
def joinNewlinesTo (out : List Char) : List Char → List Char
  | [] => out.reverse
  | '\r' :: '\n' :: cs => joinNewlinesTo ('\n' :: out) cs
  | c :: cs => joinNewlinesTo (c :: out) cs

def joinNewlines (cs : List Char) : List Char := joinNewlinesTo [] cs

/-- The lines of a text whose line ends are line feeds.  A text has one line more than line
feeds. -/
def lines (cs : List Char) : List String := (cs.splitOn '\n').map String.ofList

end FeatureLint.Text
