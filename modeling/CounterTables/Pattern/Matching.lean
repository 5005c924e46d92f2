import CounterTables.Pattern.CharSet

/-!
# Patterns

A pattern describes texts. Of the ways in which the start of a text can be read,
a pattern prefers some to others: the left alternative to the right one, more
repetitions to fewer or the other way round. A text matches if the reading that
is preferred to all others that succeed takes up the whole text.

## Main definitions

* `Pattern` — the patterns.
* `Pattern.branches` — the ways to go on with one character, the preferred ones
  first.
* `Pattern.fits` — whether a text matches.
-/

namespace CounterTables

/-! ## Patterns -/

/-- A condition on a place between characters. -/
inductive Anchor
  | textStart
  | textEnd
  /-- The start of a line; whether a carriage return ends lines too. -/
  | lineStart (carriage : Bool)
  | lineEnd (carriage : Bool)
  | wordEdge
  | noWordEdge
  | wordStart
  | wordEnd
  deriving DecidableEq

inductive Pattern
  | nothing
  | one (set : CharSet)
  | place (anchor : Anchor)
  | both (first second : Pattern)
  | either (preferred other : Pattern)
  /-- Any number of repetitions, as many as possible or as few. -/
  | repeated (greedy : Bool) (pattern : Pattern)
  deriving DecidableEq

namespace Anchor

/-- Whether the neighbour is a character of a word. -/
def isWord (neighbour : Option Char) : Bool :=
  neighbour.any fun c => CharSet.wordChars.contains c.toNat

/-- Whether an anchor holds between two neighbours; at an end of the text there
is none. -/
def holds (before after : Option Char) : Anchor → Bool
  | textStart => before.isNone
  | textEnd => after.isNone
  | lineStart false => before.isNone || before == some '\n'
  | lineStart true =>
      before.isNone || before == some '\n' ||
        (before == some '\r' && after != some '\n')
  | lineEnd false => after.isNone || after == some '\n'
  | lineEnd true =>
      after.isNone || after == some '\r' || (after == some '\n' && before != some '\r')
  | wordEdge => isWord before != isWord after
  | noWordEdge => isWord before == isWord after
  | wordStart => !isWord before && isWord after
  | wordEnd => isWord before && !isWord after

end Anchor

namespace Pattern

/-! ## Building patterns -/

/-- One pattern after the other. -/
def andThen (first second : Pattern) : Pattern :=
  match first with
  | nothing => second
  | first => both first second

def inOrder (patterns : List Pattern) : Pattern :=
  patterns.foldr andThen nothing

/-- Any one of some patterns, the first preferred. -/
def anyOf : List Pattern → Pattern
  | [] => nothing
  | [pattern] => pattern
  | pattern :: rest => either pattern (anyOf rest)

def optional (greedy : Bool) (pattern : Pattern) : Pattern :=
  if greedy then either pattern nothing else either nothing pattern

/-- At least one repetition. -/
def oneOrMore (greedy : Bool) (pattern : Pattern) : Pattern :=
  both pattern (repeated greedy pattern)

/-! ## Matching -/

/-- A way to go on: the pattern is through, or the next character is read and a
pattern remains. -/
inductive Branch
  | through
  | remaining (rest : Pattern)
  deriving DecidableEq

namespace Branch

/-- The branch of a pattern with another one after it; `onward` are the branches
of that one. -/
def append (second : Pattern) (onward : List Branch) : Branch → List Branch
  | through => onward
  | remaining rest => [remaining (rest.andThen second)]

def rest? : Branch → Option Pattern
  | through => none
  | remaining rest => some rest

end Branch

/-- The ways to go on between two neighbours, the preferred ones first. -/
def branches (before after : Option Char) : Pattern → List Branch
  | nothing => [.through]
  | one set =>
      if after.any fun c => set.contains c.toNat then [.remaining nothing] else []
  | place anchor => if anchor.holds before after then [.through] else []
  | both first second =>
      ((first.branches before after).eraseDups).flatMap
        (Branch.append second (second.branches before after))
  | either preferred other =>
      preferred.branches before after ++ other.branches before after
  | repeated greedy pattern =>
      let again := (pattern.branches before after).flatMap
        (Branch.append (repeated greedy pattern) [.through])
      if greedy then again ++ [.through] else .through :: again

/-- Whether one of the patterns, the preferred ones first, takes up the text
behind `before`. What is less preferred than a pattern that is through is given
up. -/
def fitsFrom : List Pattern → Option Char → List Char → Bool
  | patterns, before, [] =>
      patterns.any fun pattern => (pattern.branches before none).contains .through
  | patterns, before, c :: rest =>
      let ways := (patterns.flatMap (branches before c)).takeWhile (· != .through)
      fitsFrom (ways.filterMap Branch.rest?).eraseDups c rest

/-- Whether a text matches the pattern. -/
def fits (pattern : Pattern) (text : String) : Bool :=
  fitsFrom [pattern] none text.toList

end Pattern

end CounterTables
