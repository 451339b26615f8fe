import RecordFilter.Unicode.Word

/-! What patterns ask about a place in a text without taking a character there. -/

namespace RecordFilter

/-- What the characters around a place have to do with words. -/
inductive WordPlace
  | boundary
  | inside
  | start
  | stop
  | startHalf
  | stopHalf
  deriving DecidableEq, Repr

/-- What is asked about a place in a text, without taking a character there. -/
inductive Look
  | textStart
  | textEnd
  | lineStart (carriageReturns : Bool)
  | lineEnd (carriageReturns : Bool)
  | word (place : WordPlace) (unicode : Bool)
  deriving DecidableEq, Repr

/-- The characters before and after a place in a text, which are missing at its ends. -/
structure Surroundings where
  before : Option Char
  after : Option Char
  deriving DecidableEq, Repr

namespace Look

/-- The character may stand in a word, by the rules of Unicode or of ASCII. -/
def inWord (unicode : Bool) (char : Char) : Bool :=
  if unicode then Unicode.isWord char else Unicode.isAsciiWord char

/-- The word before or after a place stand in the relation that is asked for. -/
def wordPlaceHolds (before after : Bool) : WordPlace → Bool
  | .boundary => before != after
  | .inside => before == after
  | .start => !before && after
  | .stop => before && !after
  | .startHalf => !before
  | .stopHalf => !after

/-- What is asked holds at a place with these surroundings. -/
def holds (place : Surroundings) : Look → Bool
  -- A carriage return and the line feed after it make up one line ending.
  | .textStart => place.before.isNone
  | .textEnd => place.after.isNone
  | .lineStart false => place.before.isNone || place.before == some '\n'
  | .lineStart true =>
    place.before.isNone || place.before == some '\n' ||
      (place.before == some '\r' && place.after != some '\n')
  | .lineEnd false => place.after.isNone || place.after == some '\n'
  | .lineEnd true =>
    place.after.isNone || place.after == some '\r' ||
      (place.after == some '\n' && place.before != some '\r')
  | .word kind unicode =>
    wordPlaceHolds (place.before.any (inWord unicode)) (place.after.any (inWord unicode)) kind

end Look

end RecordFilter
