import MelodyAutomation.Engine.Link
import Std.Data.String.ToNat

/-!
# Addresses

An address is a base followed by parts that contain no slash, each behind one. So
whatever the base is, an address determines its parts: the node it belongs to,
and what it says about the node.
-/

namespace MelodyAutomation

/-- An address by its base and its parts. -/
def route (base : String) (parts : List String) : String :=
  parts.foldl (fun path part => path ++ "/" ++ part) base

@[simp] theorem route_nil (base : String) : route base [] = base := rfl

@[simp] theorem route_cons (base part : String) (rest : List String) :
    route base (part :: rest) = route (base ++ "/" ++ part) rest := rfl

theorem route_append (base : String) (first second : List String) :
    route base (first ++ second) = route (route base first) second := by
  simp [route]

/-- A slash belongs to the part behind it. -/
theorem appended_part (base part : String) :
    base ++ ("/" ++ part) = base ++ "/" ++ part :=
  String.append_assoc.symm

/-- A part of an address: no slash is in it. -/
def IsPart (part : String) : Prop := '/' ∉ part.toList

instance (part : String) : Decidable (IsPart part) :=
  inferInstanceAs (Decidable ('/' ∉ part.toList))

theorem isPart_toString (number : Nat) : IsPart (toString number) := by
  intro member
  have digit : '/'.isDigit = true := by
    refine Nat.isDigit_of_mem_toDigits (b := 10) (n := number) (by decide)
      (by decide) ?_
    simpa [toString] using member
  exact absurd digit (by decide)

/-- The parts of an address, each behind its slash, are the base's text followed by
an intercalation. -/
theorem toList_route (base : String) (parts : List String) :
    (route base parts).toList =
      base.toList ++ ['/'].intercalate ([] :: parts.map String.toList) := by
  induction parts generalizing base with
  | nil => simp
  | cons part rest hypothesis =>
      rw [route_cons, hypothesis]
      cases rest <;> simp [List.intercalate]

/-- What follows the base of an address, cut at its slashes. -/
theorem splitOn_intercalate_parts
    {parts : List String}
    (slashless : ∀ part ∈ parts, IsPart part) :
    (['/'].intercalate ([] :: parts.map String.toList)).splitOn '/' =
      [] :: parts.map String.toList := by
  refine List.splitOn_intercalate '/' ?_ (by simp)
  intro text member
  rcases List.mem_cons.1 member with rfl | inParts
  · simp
  · obtain ⟨part, inside, rfl⟩ := List.mem_map.1 inParts
    exact slashless part inside

/-- Under one base an address determines its parts. -/
theorem route_injective
    {base : String}
    {left right : List String}
    (leftParts : ∀ part ∈ left, IsPart part)
    (rightParts : ∀ part ∈ right, IsPart part)
    (same : route base left = route base right) :
    left = right := by
  have texts := congrArg String.toList same
  rw [toList_route, toList_route] at texts
  have lists := congrArg (List.splitOn '/') (List.append_cancel_left texts)
  rw [splitOn_intercalate_parts leftParts,
    splitOn_intercalate_parts rightParts] at lists
  exact (List.map_inj_right fun _ _ => String.toList_inj.1).1
    (List.cons.inj lists).2

/-- An address that goes on after another one, behind a slash, has the parts of that
one in front of its own. -/
theorem prefix_of_route_eq
    {base tail : String}
    {parts own : List String}
    (slashless : ∀ part ∈ parts, IsPart part)
    (ownSlashless : ∀ part ∈ own, IsPart part)
    (same : route base parts = route base own ++ "/" ++ tail) :
    own <+: parts := by
  have texts := congrArg String.toList same
  simp only [toList_route, String.toList_append, List.append_assoc] at texts
  have lists := congrArg (List.splitOn '/') (List.append_cancel_left texts)
  change _ = List.splitOn '/' (_ ++ '/' :: tail.toList) at lists
  rw [List.splitOn_append_cons_self, splitOn_intercalate_parts slashless,
    splitOn_intercalate_parts ownSlashless] at lists
  have before : own.map String.toList <+: parts.map String.toList :=
    ⟨_, (List.cons.inj lists).2.symm⟩
  exact (List.prefix_map_iff_of_injective fun _ _ => String.toList_inj.1).1
    before

namespace Node

/-- The parts of a node's address. -/
def parts : Node → List String
  | destination => ["destination"]
  | created kind number => [kind.name, toString (number + 1)]

theorem address_eq_route (base : String) (node : Node) :
    node.address base = route base node.parts := by
  cases node with
  | destination => exact appended_part base "destination"
  | created kind number => rfl

/-- What is said to a node goes to its address with one more part. -/
theorem address_part (base part : String) (node : Node) :
    node.address base ++ ("/" ++ part) = route base (node.parts ++ [part]) := by
  rw [route_append, ← address_eq_route, appended_part]
  rfl

theorem isPart_of_mem_parts
    {node : Node}
    {part : String}
    (member : part ∈ node.parts) :
    IsPart part := by
  cases node with
  | destination =>
      rw [List.mem_singleton.1 member]
      decide
  | created kind number =>
      rcases List.mem_cons.1 member with rfl | member
      · cases kind <;> decide
      · rw [List.mem_singleton.1 member]
        exact isPart_toString _

/-- No node's parts are in front of another one's. -/
theorem eq_of_parts_append_eq
    {left right : Node}
    {leftRest rightRest : List String}
    (same : left.parts ++ leftRest = right.parts ++ rightRest) :
    left = right ∧ leftRest = rightRest := by
  cases left with
  | destination =>
      cases right with
      | destination => simpa [parts] using same
      | created kind number => cases kind <;> simp [parts, PrimitiveKind.name] at same
  | created kind number =>
      cases right with
      | destination => cases kind <;> simp [parts, PrimitiveKind.name] at same
      | created otherKind otherNumber =>
          obtain ⟨names, numbers, rest⟩ : kind.name = otherKind.name ∧
              toString (number + 1) = toString (otherNumber + 1) ∧
                leftRest = rightRest := by
            simpa [parts] using same
          have sameKind : kind = otherKind := by
            revert names
            cases kind <;> cases otherKind <;> decide
          have sameNumber := Nat.repr_injective numbers
          simp_all

end Node
end MelodyAutomation
