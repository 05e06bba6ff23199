import CommandShell.Regex.CharSet
import CommandShell.Unicode.BinaryProperty
import CommandShell.Unicode.Category
import CommandShell.Unicode.Script

/-!
# Unicode properties in regular expressions

A property is named alone, as in `Alphabetic`, `Lu` or `Greek`, or as a value of
the category or of the script, as in `gc=Lu` or `Script:Greek`.  Case, spaces,
dashes, underscores and the word `is` in front of a name do not matter.
-/

namespace CommandShell
namespace Regex

def dropIs : List Char → List Char
  | 'i' :: 's' :: rest => rest
  | name => name

/-- A name without what does not matter in it.  In `isc` the word `is` counts:
that is no name of the group `c`. -/
def plainName (name : String) : String :=
  let lower := name.toList.map Char.toLower
  let kept := (dropIs lower).filter fun c =>
    c.toNat < 128 && c != ' ' && c != '_' && c != '-'
  if kept == ['c'] && dropIs lower != lower then "isc"
  else String.ofList kept

/-- The code points that have no category of their own. -/
def unassigned : CharSet :=
  .complement (.table (Unicode.Category.rangesOf Unicode.Category.assigned))

def categorySet? (name : String) : Option CharSet :=
  match name with
  | "any" => some .all
  | "ascii" => some (.range '\x00' '\x7f')
  | "unassigned" | "cn" => some unassigned
  | "other" | "c" => some (.union unassigned
      (.table (Unicode.Category.rangesOf Unicode.Category.others)))
  | name => (Unicode.categories? name).map fun categories =>
      .table (Unicode.Category.rangesOf categories)

def scriptSet? (name : String) : Option CharSet :=
  (Unicode.scripts.find? fun script => script.names.contains name).map
    fun script => .table script.ranges

def namedSet? (name : String) : Option CharSet :=
  let plain := plainName name
  match plain with
  | "whitespace" | "space" | "wspace" => some (.having .blank)
  | plain =>
      ((Unicode.binaryProperty? plain).map CharSet.table).or
        ((categorySet? plain).or (scriptSet? plain))

/-- The set of a value of a property. -/
def valuedSet? (property value : String) : Option CharSet :=
  match plainName property with
  | "generalcategory" | "gc" => categorySet? (plainName value)
  | "script" | "sc" => scriptSet? (plainName value)
  | _ => none

/-- Split a text at the first place where a mark stands. -/
def splitAt? (mark : List Char) : List Char → Option (List Char × List Char)
  | [] => none
  | c :: rest =>
      if mark.isPrefixOf (c :: rest) then
        some ([], (c :: rest).drop mark.length)
      else (splitAt? mark rest).map fun (before, after) => (c :: before, after)

/-- The set that the text between the braces of a property stands for. -/
def propertySet? (text : String) : Option CharSet :=
  let chars := text.toList
  let valued (before after : List Char) : Option CharSet :=
    valuedSet? (String.ofList before) (String.ofList after)
  match splitAt? ['!', '='] chars with
  | some (before, after) => (valued before after).map CharSet.complement
  | none =>
      match (splitAt? [':'] chars).or (splitAt? ['='] chars) with
      | some (before, after) => valued before after
      | none => namedSet? text

end Regex
end CommandShell
