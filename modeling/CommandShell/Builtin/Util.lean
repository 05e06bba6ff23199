import CommandShell.Module

/-!
# The module `util`

Commands that put texts together, create images and add integers.
-/

namespace CommandShell
namespace Builtin

/-- `concat` puts a text between two others. -/
def concatCommand : Command where
  name := "concat"
  description := "Puts m=<text> between s=<text> and e=<text>"
  rules := [.typeOf .text "s", .typeOf .text "m", .typeOf .text "e",
    .require "m", .corequire "s" "e"]
  returns := some .text
  handler _ bundle := do
    let middle ← Handler.ofExcept (bundle.text "m")
    if !bundle.hasArgument "s" then return .plainText middle
    let start ← Handler.ofExcept (bundle.text "s")
    let ending ← Handler.ofExcept (bundle.text "e")
    return .plainText (start ++ middle ++ ending)

/-- A side of an image: a positive number of 32 bits. -/
def imageSide (bundle : Bundle) (name : String) : Except ShellError Nat := do
  let number ← bundle.integer name
  let size := number.toInt
  if 0 < size ∧ size < 0x100000000 then .ok size.toNat
  else .error (.badUsage s!"{name} must be a positive size, got {size}")

/-- `bimage` creates a blank image. -/
def imageCommand : Command where
  name := "bimage"
  description := "Creates a blank image of w=<width> by h=<height> pixels"
  rules := [.typeOf .integer "w", .typeOf .integer "h", .require "w",
    .corequire "w" "h"]
  returns := some .image
  handler _ bundle := do
    let width ← Handler.ofExcept (imageSide bundle "w")
    let height ← Handler.ofExcept (imageSide bundle "h")
    return .image (← Handler.blankImage width height)

/-- Add numbers to a total, from left to right.  There is no total once it has
left the range of 64-bit integers. -/
def addUp (total : Int64) : List Int64 → Option Int64
  | [] => some total
  | number :: rest =>
      match Text.toInt64? (total.toInt + number.toInt) with
      | some total => addUp total rest
      | none => none

/-- `sum` adds integers up, and panics if the total leaves their range. -/
def sumCommand : Command where
  name := "sum"
  description := "Adds up values=<list of integers>"
  rules := [.require "values"]
  returns := some .integer
  handler _ bundle := do
    let values ← Handler.ofExcept (bundle.argument "values")
    match values with
    | .integer number => return .integer number
    | values =>
        let items ← Handler.ofExcept (values.listOf .integer)
        let numbers ← Handler.ofExcept (items.mapM Value.asInteger)
        match addUp 0 numbers with
        | some total => return .integer total
        | none => Handler.panic (some "attempt to add with overflow")

def utilModule : Except ShellError Module :=
  Module.build "util" "1.0" .cyan [concatCommand, imageCommand, sumCommand]

end Builtin
end CommandShell
