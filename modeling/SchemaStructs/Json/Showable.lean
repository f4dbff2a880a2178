import SchemaStructs.Json.Reader

/-!
# Values that cannot be shown

Showing a value inside a message has the limits that reading one has: an integer of more than
`Json.maxDigits` digits is not written out, and lists and objects deeper inside each other than
`Json.maxDepth` are not gone through.  A message with such a value cannot be told, and
`Json.obstacle?` says what comes in its way.
-/

namespace SchemaStructs

namespace Json

/-- Why a value cannot be shown. -/
inductive ShowError where
  /-- It holds an integer with more digits than are written out. -/
  | tooManyDigits
  /-- Its lists and objects lie too deep inside each other. -/
  | tooDeep
  deriving DecidableEq, Repr

/-- The message for a value that cannot be shown. -/
def ShowError.message : ShowError → Text
  | tooManyDigits =>
    "Exceeds the limit (" ++ Text.ofNat maxDigits
      ++ " digits) for integer string conversion; use sys.set_int_max_str_digits() to increase the "
      ++ "limit"
  | tooDeep => "maximum recursion depth exceeded while getting the repr of an object"

mutual

/-- What showing a value comes to first that cannot be shown.  `room` is how many lists and objects
may lie inside each other. -/
def obstacleWithin? : (room : Nat) → Json → Option ShowError
  | _, int n => if Nat.pow 10 maxDigits ≤ n.natAbs then some .tooManyDigits else none
  | 0, arr _ => some .tooDeep
  | 0, obj _ => some .tooDeep
  | room + 1, arr items => obstacleItems? room items
  | room + 1, obj members => obstacleMembers? room members
  | _, _ => none

/-- The first item of a list that cannot be shown. -/
def obstacleItems? (room : Nat) : List Json → Option ShowError
  | [] => none
  | item :: rest => (obstacleWithin? room item).or (obstacleItems? room rest)

/-- The first member of an object that cannot be shown. -/
def obstacleMembers? (room : Nat) : List (Text × Json) → Option ShowError
  | [] => none
  | (_, value) :: rest => (obstacleWithin? room value).or (obstacleMembers? room rest)

end

/-- Why a value cannot be shown, if it cannot. -/
def obstacle? (j : Json) : Option ShowError := j.obstacleWithin? maxDepth

end Json

end SchemaStructs
