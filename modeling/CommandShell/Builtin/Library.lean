import CommandShell.Builtin.Text
import CommandShell.Builtin.Util
import CommandShell.Registry

/-!
# The library `builtin`

The library that comes with the shell: the modules `text` and `util`.
-/

namespace CommandShell
namespace Builtin

def libraryName : String := "builtin"

/-- A catalog that holds the library. -/
def catalog : Catalog :=
  NameMap.insert ∅ libraryName [textModule, utilModule]

end Builtin
end CommandShell
