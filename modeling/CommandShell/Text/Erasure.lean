import CommandShell.Unicode.Printable

/-!
# Erasing input

A backspace in a line of input takes back the character before it, together with
the characters that combine with that one.
-/

namespace CommandShell
namespace Text

def backspace : Char := '\x08'

/-- Whether a character combines with the one before it. -/
def combines (c : Char) : Bool := Unicode.isExtender c || c == '\u200D'

/-- What a user sees as one character. -/
abbrev Cluster := List Char

/-- Whether nothing combines with a cluster: it is a control character. -/
def isClosed : Cluster → Bool
  | [c] => c.toNat < 0x20 || (0x7F ≤ c.toNat && c.toNat < 0xA0)
  | _ => false

/-- Add a character to clusters that are in reverse order. -/
def addToClusters (clusters : List Cluster) (c : Char) : List Cluster :=
  match clusters with
  | cluster :: rest =>
      if combines c && !isClosed cluster then (cluster ++ [c]) :: rest
      else [c] :: clusters
  | [] => [[c]]

def clusters (text : List Char) : List Cluster :=
  (text.foldl addToClusters []).reverse

/-- The clusters that are left, in reverse order, once a cluster is typed. -/
def typeCluster (typed : List Cluster) (cluster : Cluster) : List Cluster :=
  if cluster = [backspace] then typed.tail else cluster :: typed

/-- What is left of a line of input once its backspaces have taken effect. -/
def erased (line : String) : String :=
  let typed := (clusters line.toList).foldl typeCluster []
  String.ofList typed.reverse.flatten

end Text
end CommandShell
