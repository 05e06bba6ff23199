import CommandShell.Error

/-!
# Typed access to values

Each accessor checks the kind of a value and fails with `wrongType` if it is
another one.  Blank images are created here too, because one that is too large
is an error.
-/

namespace CommandShell

/-- A blank image, if it is not too large. -/
def Image.blank (handle width height : Nat) : Except ShellError Image :=
  if width * height ≤ maxPixels then .ok { handle, width, height, fill := 0 }
  else .error (.badUsage s!"image {width}x{height} exceeds {maxPixels} pixels")

namespace Value

/-- The error of a value that ought to have another kind. -/
def wrongType (value : Value) (expected : Kind) : ShellError :=
  .wrongType expected value.kind

def asText : Value → Except ShellError String
  | .text content _ => .ok content
  | value => .error (value.wrongType .text)

def asInteger : Value → Except ShellError Int64
  | .integer number => .ok number
  | value => .error (value.wrongType .integer)

def asImage : Value → Except ShellError Image
  | .image picture => .ok picture
  | value => .error (value.wrongType .image)

def asList : Value → Except ShellError (List Value)
  | .list items => .ok items
  | value => .error (value.wrongType .list)

/-- The elements of a list that are all of one kind.  The first element of
another kind is the one that is blamed. -/
def listOf (value : Value) (kind : Kind) : Except ShellError (List Value) := do
  let items ← value.asList
  match items.find? fun item => item.kind != kind with
  | .some item => .error (.listType kind item.kind)
  | .none => .ok items

/-- The value itself, provided that it is of the given kind. -/
def expectKind (value : Value) (kind : Kind) : Except ShellError Value :=
  if value.kind = kind then .ok value else .error (value.wrongType kind)

end Value
end CommandShell
