import CommandShell.Text.Integer

/-!
# Values

Values are what commands take as arguments and what they yield.  Every value
carries its kind, and nothing converts a value from one kind to another on its
own.
-/

namespace CommandShell

/-- The display color of a text. -/
inductive Color where
  | plain
  | yellow
  | aqua
  | gold
  | green
  | red
  | magenta
  | cyan
  | gray
  | rgb (red green blue : UInt8)
  deriving DecidableEq, Repr, Inhabited

namespace Color

/-- The color of a text for which none was chosen. -/
def text : Color := yellow

/-- The color in which integers are shown. -/
def integer : Color := rgb 255 69 0

/-- The color in which the description of an image is shown. -/
def image : Color := rgb 127 255 212

end Color

/-- A blank image.  Its pixels are rows of four bytes each, all of them `fill`.
Two images are the same only if they have the same handle. -/
structure Image where
  handle : Nat
  width : Nat
  height : Nat
  fill : UInt8
  deriving DecidableEq, Repr, Inhabited

namespace Image

def maxPixels : Nat := 0x1000000

def byteCount (image : Image) : Nat := image.width * image.height * 4

def bytes (image : Image) : List UInt8 :=
  List.replicate image.byteCount image.fill

end Image

inductive Kind where
  | none
  | text
  | integer
  | image
  | list
  deriving DecidableEq, Repr, Inhabited

def Kind.name : Kind → String
  | .none => "none"
  | .text => "text"
  | .integer => "integer"
  | .image => "image"
  | .list => "list"

inductive Value where
  | none
  | text (content : String) (color : Color)
  | integer (number : Int64)
  | image (image : Image)
  | list (items : List Value)
  deriving BEq, Repr, Inhabited

namespace Value

def plainText (content : String) : Value := .text content Color.text

def kind : Value → Kind
  | .none => .none
  | .text .. => .text
  | .integer _ => .integer
  | .image _ => .image
  | .list _ => .list

/-- The elements of a list, or the value itself as the only one. -/
def items : Value → List Value
  | .list items => items
  | value => [value]

mutual

/-- The text that stands for a value. -/
def display : Value → String
  | .none => "NONE"
  | .text content _ => content
  | .integer number => Text.showInteger number
  | .image picture => s!"Image@{picture.width}x{picture.height}"
  | .list items => "[" ++ ", ".intercalate (displayAll items) ++ "]"

def displayAll : List Value → List String
  | [] => []
  | value :: rest => display value :: displayAll rest

end

end Value

/-- What raw argument text stands for: an integer if it reads as one, and
otherwise the text itself. -/
def Value.ofRaw (raw : String) : Value :=
  match Text.readInteger? raw with
  | .some number => .integer number
  | .none => .plainText raw

end CommandShell
