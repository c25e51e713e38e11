/-!
# Speeds

How long to wait between two steps, in five levels from the slowest to the fastest.
-/

namespace Ram

/-- A pace for the steps of a machine. -/
inductive Speed where
  /-- One step a second. -/
  | slowest
  /-- Two steps a second. -/
  | slow
  /-- Ten steps a second. -/
  | medium
  /-- Twenty steps a second. -/
  | fast
  /-- A hundred steps a second. -/
  | fastest
deriving DecidableEq, Repr

namespace Speed

/-- Every speed, the slowest first. -/
def levels : List Speed := [slowest, slow, medium, fast, fastest]

/-- The pause between two steps, in milliseconds. -/
def interval : Speed → Nat
  | slowest => 1000
  | slow => 500
  | medium => 100
  | fast => 50
  | fastest => 10

/-- The speed of a level, counted from 1. -/
def ofLevel? : Nat → Option Speed
  | 0 => none
  | level + 1 => levels[level]?

instance : Inhabited Speed := ⟨slow⟩

end Speed

end Ram
