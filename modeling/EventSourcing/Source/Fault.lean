import EventSourcing.Source.Token

/-!
# Faults of source text

Source text is read from front to back, and the first thing that cannot stand where it stands is its
fault.  Most faults name what was expected there, and tell apart whether something else stands there
or the text, or what the brackets around hold, has come to its end.

## Main Definitions

* `Source.Fault` — why source text cannot be read.
* `Source.Fault.message` — its wording.
-/

namespace EventSourcing.Source

/-- Why source text cannot be read. -/
inductive Fault where
  /-- One of some things was expected.  `ended` tells that nothing more follows. -/
  | expected (choices : List String) (ended : Bool)
  /-- A keyword stands where a name was expected. -/
  | keyword (word : String)
  /-- More follows where the text, or what brackets hold, should end. -/
  | leftover (around : Option Bracket)
  /-- A statement goes on behind its end. -/
  | openStatement (ended : Bool)
  /-- A comparison is compared again. -/
  | chained
  /-- A setting is given an attribute as its value. -/
  | nestedAttribute
  /-- A conversion goes on with what binds closer than it. -/
  | castFollowedBy (what : String)
  /-- Something is read that is not allowed where it stands. -/
  | refused (reason : String)
  deriving Repr, DecidableEq

namespace Fault

/-- What was expected, in words. -/
def choicesText : List String → String
  | [one] => "expected " ++ one
  | [one, other] => "expected " ++ one ++ " or " ++ other
  | choices => "expected one of: " ++ ", ".intercalate choices

/-- A wording, with what comes in front if nothing more follows. -/
def atEnd (ended : Bool) (wording : String) : String :=
  (if ended then "unexpected end of input, " else "") ++ wording

/-- The wording of a fault. -/
def message : Fault → String
  | expected choices ended => atEnd ended (choicesText choices)
  | keyword word => "expected identifier, found keyword `" ++ word ++ "`"
  | leftover none => "unexpected token"
  | leftover (some b) => "unexpected token, expected `" ++ b.back.toString ++ "`"
  | openStatement ended => atEnd ended "unexpected token, expected `;`"
  | chained => "comparison operators cannot be chained"
  | nestedAttribute => "unexpected attribute inside of attribute"
  | castFollowedBy what => "casts cannot be followed by " ++ what
  | refused reason => reason

end Fault
end EventSourcing.Source
