import CommandShell.Token

/-!
# Writing tokens

Any word can be given back to the shell in double quotes, with a backslash
before every backslash and every double quote in it.
-/

namespace CommandShell
namespace Token

/-- The characters of a word, those that would end or escape escaped. -/
def escapedChars : List Char → List Char
  | [] => []
  | c :: rest =>
      if c = '\\' ∨ c = '"' then '\\' :: c :: escapedChars rest
      else c :: escapedChars rest

/-- A word in double quotes. -/
def quoted (text : String) : String :=
  String.ofList ('"' :: escapedChars text.toList ++ ['"'])

def written : Token → String
  | .word text => quoted text
  | token => token.text

end Token
end CommandShell
