import FeatureLint.Text.Blank
import FeatureLint.Text.Search

/-!
# Lines of a feature file

What one line of a feature file says.  A line opens a feature, a scenario, a scenario outline or a
table of examples by its keyword, or it is a row of a table, a tag or comment, blank, or anything
else, such as a step.

Each kind of line but the last has a *rule* that recognises it, and `classify` takes the first
rule that does.  The order of `rules` is one of reading, not of need: no line satisfies two of
them.
-/

namespace FeatureLint

inductive Keyword where
  | feature
  | outline
  | scenario
  | examples
  deriving DecidableEq, Repr

def Keyword.text : Keyword → String
  | .feature => "Feature:"
  | .outline => "Scenario Outline:"
  | .scenario => "Scenario:"
  | .examples => "Examples:"

inductive Line where
  | heading (keyword : Keyword) (title : String)
  | row (text : String) (cells : List String)
  /-- A tag or a comment. -/
  | remark (text : String)
  | blank
  | other (text : String)
  deriving DecidableEq, Repr

namespace Line

/-- A rule recognises some lines and says what they are. -/
abbrev Rule := String → Option Line

def blankRule : Rule := fun line => if line = "" then some blank else none

def remarkRule : Rule := fun line =>
  match line.toList with
  | '#' :: _ => some (remark line)
  | '@' :: _ => some (remark line)
  | _ => none

def headingRule (k : Keyword) : Rule := fun line =>
  (Text.after? k.text.toList line.toList).map fun rest =>
    heading k (String.ofList (Text.trim rest))

/-- The texts between the bars of a row, trimmed. -/
def cellsOf (cs : List Char) : List String :=
  (cs.splitOn '|').tail.dropLast.map fun cell => String.ofList (Text.trim cell)

def rowRule : Rule := fun line =>
  if line.toList.head? = some '|' ∧ line.toList.getLast? = some '|' then
    some (row line (cellsOf line.toList))
  else none

/-- The rules, one for each kind of line that has a mark of its own. -/
def rules : List Rule :=
  [blankRule, remarkRule, headingRule .feature, headingRule .outline, headingRule .scenario,
    headingRule .examples, rowRule]

/-- What a list of rules makes of a line: the first rule that recognises it decides. -/
def classifyBy (rs : List Rule) (line : String) : Line :=
  (rs.findSome? (· line)).getD (other line)

/-- **What a line is.**  Blanks at its ends are part of it: `read` takes them away first. -/
def classify (line : String) : Line := classifyBy rules line

/-- What a line of a file is, blanks at its ends taken away. -/
def read (line : String) : Line := classify (Text.strip line)

def text : Line → String
  | heading _ title => title
  | row text _ => text
  | remark text => text
  | blank => ""
  | other text => text

def cells : Line → List String
  | row _ cells => cells
  | _ => []

end Line

end FeatureLint
