import CommandShell.Regex.Expression

/-!
# Matching

A set of positions of a subject is a natural number whose bit `i` tells whether
position `i` is in the set.  An expression moves a set of positions to the set
of positions that its matches from there end at.  A subject contains a match if
the set of all positions is moved to a set that is not empty.
-/

namespace CommandShell
namespace Regex

/-- Keep the positions up to `bound` that satisfy a condition. -/
def keepPositions (condition : Nat → Bool) (positions : Nat) : Nat → Nat
  | 0 => 0
  | bound + 1 =>
      let below := keepPositions condition positions bound
      if positions.testBit bound && condition bound then below + 1 <<< bound
      else below

/-- Move positions along `advance` again and again until no new ones turn up. -/
def closure (advance : Nat → Nat) (fuel seen fresh : Nat) : Nat :=
  match fuel with
  | 0 => seen
  | fuel + 1 =>
      let reached := advance fresh
      let unseen := reached ^^^ (reached &&& seen)
      if unseen = 0 then seen
      else closure advance fuel (seen ||| unseen) unseen

/-- Move positions along `advance` exactly `count` times. -/
def advanceTimes (advance : Nat → Nat) (positions : Nat) : Nat → Nat
  | 0 => positions
  | count + 1 =>
      let reached := advance positions
      if reached = positions then positions
      else advanceTimes advance reached count

/-- Move positions along `advance` at most `count` times. -/
def advanceUpTo (advance : Nat → Nat) (seen fresh : Nat) : Nat → Nat
  | 0 => seen
  | count + 1 =>
      let reached := advance fresh
      if reached ||| seen = seen && reached = fresh then seen
      else advanceUpTo advance (seen ||| reached) reached count

/-- The positions where the matches end that begin at the given positions. -/
def Expression.advance (subject : Array Char) : Expression → Nat → Nat
  | .empty, positions => positions
  | .set members, positions =>
      keepPositions (fun i => subject[i]?.any members.contains) positions
        subject.size <<< 1
  | .look condition, positions =>
      keepPositions
        (fun i => condition.holds (if i = 0 then none else subject[i - 1]?)
          subject[i]?)
        positions (subject.size + 1)
  | .sequence first second, positions =>
      second.advance subject (first.advance subject positions)
  | .choice first second, positions =>
      first.advance subject positions ||| second.advance subject positions
  | .repeated body least most, positions =>
      let started := advanceTimes (body.advance subject) positions least
      match most with
      | none => closure (body.advance subject) (subject.size + 1) started started
      | some most =>
          advanceUpTo (body.advance subject) started started (most - least)

/-- Whether a line contains a match. -/
def Expression.matchesIn (expression : Expression) (line : String) : Bool :=
  let subject := line.toList.toArray
  expression.advance subject (1 <<< (subject.size + 1) - 1) != 0

end Regex
end CommandShell
