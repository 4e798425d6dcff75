import MelodyAutomation.Scalar

/-!
# Machines

Requests are carried out by a machine. It has scalars to compute with, and it has limits:
a repeated sequence has room up to some length only, and collections inside collections
can be followed, shown and read up to some depth only. Where these limits are is left
open, as the scalars are. All that is known of them is that there is no room for more
items than a sequence can have, and that a collection of plain values can be followed.
-/

namespace MelodyAutomation

/-- The greatest length that a sequence can have. -/
def sizeLimit : Int := 9223372036854775807

/-- Where a machine comes to its limits. -/
class Limits where
  /-- The greatest length that a repeated sequence has room for. -/
  room : Nat
  /-- The number of collections inside each other that can be followed to the end of
  the last one. -/
  depth : Nat
  /-- The number of collections inside each other that can be shown. -/
  shownDepth : Nat
  /-- The number of collections inside each other that a document can have. -/
  documentDepth : Nat
  /-- There is no room for more items than a sequence can have. -/
  room_le_sizeLimit : (room : Int) ≤ sizeLimit
  /-- A collection of plain values can be followed to its end. -/
  depth_pos : 0 < depth

/-- A machine: its scalars and its limits. -/
class Machine (R : Type) extends Scalar R where
  limits : Limits

namespace Value

/-- The number of collections inside each other that are usually followed to the end of
the last one. -/
def depthLimit : Nat := 488

/-- The number of collections inside each other that are usually shown. -/
def shownDepth : Nat := 970

end Value

/-- The limits that programs usually run under. -/
instance Limits.usual : Limits where
  room := 4294967296
  depth := Value.depthLimit
  shownDepth := Value.shownDepth
  documentDepth := 488
  room_le_sizeLimit := by decide
  depth_pos := by decide

end MelodyAutomation
