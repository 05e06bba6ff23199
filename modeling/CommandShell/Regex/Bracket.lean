import CommandShell.Regex.Escape

/-!
# Bracketed character classes

Between brackets stand characters, ranges, sets, named sets and further
brackets, whose union is taken, and operators between such unions, which all
bind alike and associate to the left.  Brackets nest, so the reader keeps a
stack of the brackets and operators that are still open.
-/

namespace CommandShell
namespace Regex

/-- The operators between unions. -/
inductive SetOperator where
  | intersection
  | difference
  | symmetricDifference
  deriving DecidableEq, Repr, Inhabited

def SetOperator.apply (left right : CharSet) : SetOperator → CharSet
  | .intersection => .intersection left right
  | .difference => .difference left right
  | .symmetricDifference => .symmetricDifference left right

/-- An open bracket: whether it is negated, the union that it is a part of, and
the operand and operator that wait for their right side, if there are any. -/
structure OpenBracket where
  negated : Bool
  outer : CharSet
  waiting : Option (CharSet × SetOperator)
  deriving Repr, Inhabited

/-- What has been read since the innermost bracket. -/
structure BracketState where
  /-- The open brackets, the innermost first. -/
  stack : List OpenBracket
  /-- The union since the last operator. -/
  union : CharSet
  /-- The operand and operator to the left of the union. -/
  waiting : Option (CharSet × SetOperator)
  deriving Repr, Inhabited

/-- Fold the case of a set if the flags say so. -/
def Flags.fold (flags : Flags) (set : CharSet) : CharSet :=
  if flags.ignoreCase then
    if flags.unicode then .folded set else .foldedAscii set
  else set

/-- A set that brackets enclose, subject to the flags. -/
def Flags.enclose (flags : Flags) (negated : Bool) (set : CharSet) :
    Except SyntaxError CharSet :=
  let folded := flags.fold set
  let enclosed := if negated then .complement folded else folded
  if !flags.unicode && enclosed.exceedsAscii then .error .invalidEncoding
  else .ok enclosed

namespace BracketState

def add (state : BracketState) (set : CharSet) : BracketState :=
  { state with union := .union state.union set }

def contents (flags : Flags) (state : BracketState) : CharSet :=
  match state.waiting with
  | none => state.union
  | some (left, operator) =>
      operator.apply (flags.fold left) (flags.fold state.union)

/-- Start the right side of an operator. -/
def operate (flags : Flags) (state : BracketState) (operator : SetOperator) :
    BracketState :=
  { state with
    union := .nothing
    waiting := some (state.contents flags, operator) }

def openBracket (state : BracketState) (negated : Bool) : BracketState where
  stack := ⟨negated, state.union, state.waiting⟩ ::
    state.stack
  union := .nothing
  waiting := none

end BracketState

/-- Read what follows an opening bracket before the items: whether the class is
negated, and dashes and a closing bracket that stand for themselves. -/
def readBracketOpening (flags : Flags) (pattern : List Char) :
    Except SyntaxError (Bool × List Char × List Char) := do
  let pattern := flags.skip pattern
  let (negated, pattern) :=
    match pattern with
    | '^' :: rest => (true, flags.skip rest)
    | _ => (false, pattern)
  let (dashes, pattern) := readDashes [] pattern
  match dashes, pattern with
  | _, [] => .error .classUnclosed
  | [], ']' :: rest =>
      match flags.skip rest with
      | [] => .error .classUnclosed
      | rest => .ok (negated, [']'], rest)
  | dashes, rest => .ok (negated, dashes, rest)
where
  /-- Split off dashes. -/
  readDashes (dashes : List Char) : List Char → List Char × List Char
    | '-' :: rest => readDashes ('-' :: dashes) rest
    | c :: rest =>
        if flags.verbose && isBlank c then readDashes dashes rest
        else (dashes, c :: rest)
    | [] => (dashes, [])

/-- Read a named set, behind the bracket that opens it. -/
def readNamedSet (flags : Flags) :
    List Char → Option (Except SyntaxError CharSet × List Char)
  | ':' :: rest =>
      let (negated, rest) :=
        match rest with
        | '^' :: rest => (true, rest)
        | rest => (false, rest)
      let name := rest.takeWhile (· != ':')
      match rest.dropWhile (· != ':') with
      | ':' :: ']' :: rest =>
          match CharSet.named? (String.ofList name) with
          | some set => some (flags.enclose negated set, rest)
          | none => none
      | _ => none
  | _ => none

def readBracketItem (flags : Flags) :
    List Char → Except SyntaxError (Escape × List Char)
  | [] => .error .classUnclosed
  | '\\' :: rest => readEscape flags rest
  | c :: rest => .ok (.literal c, rest)

/-- The character that an item stands for where it bounds a range. -/
def boundOf (flags : Flags) : Escape → Except SyntaxError Char
  | .literal c =>
      if !flags.unicode && 128 ≤ c.toNat then .error .unicodeNotAllowed
      else .ok c
  | .byte c => .ok c
  | .set _ | .look _ => .error .classRangeLiteral

def setOf (flags : Flags) : Escape → Except SyntaxError CharSet
  | .set members => .ok members
  | .look _ => .error .classEscapeInvalid
  | literal => do
      let c ← boundOf flags literal
      return .single c

/-- Read an item or a range of a class. -/
def readBracketRange (flags : Flags) (pattern : List Char) :
    Except SyntaxError (CharSet × List Char) := do
  let (first, rest) ← readBracketItem flags pattern
  match flags.skip rest with
  | [] => .error .classUnclosed
  | '-' :: afterDash =>
      match flags.skip afterDash with
      | [] => .error .classUnclosed
      | ']' :: _ | '-' :: _ => return (← setOf flags first, '-' :: afterDash)
      | rest =>
          let (last, rest) ← readBracketItem flags rest
          let first ← boundOf flags first
          let last ← boundOf flags last
          if first ≤ last then return (.range first last, rest)
          else .error .classRangeInvalid
  | rest => return (← setOf flags first, rest)

/-- What one step inside of brackets leads to. -/
inductive BracketStep where
  /-- Reading goes on. -/
  | more (state : BracketState) (rest : List Char)
  /-- The outermost bracket is closed. -/
  | closed (set : CharSet) (rest : List Char)
  deriving Repr, Inhabited

def openNested (flags : Flags) (state : BracketState) (rest : List Char) :
    Except SyntaxError BracketStep := do
  let (negated, literals, rest) ← readBracketOpening flags rest
  let opened := state.openBracket negated
  return .more (literals.foldl (fun state c => state.add (.single c)) opened)
    rest

/-- Read one item, operator or bracket. -/
def bracketStep (flags : Flags) (state : BracketState) (pattern : List Char) :
    Except SyntaxError BracketStep :=
  match flags.skip pattern with
  | [] => .error .classUnclosed
  | '[' :: rest =>
      match readNamedSet flags rest with
      | some (set, rest) => do return .more (state.add (← set)) rest
      | none => openNested flags state rest
  | ']' :: rest =>
      match state.stack with
      | [] => .error .classUnclosed
      | bracket :: stack => do
          let set ← flags.enclose bracket.negated (state.contents flags)
          if stack.isEmpty then return .closed set rest
          let outer : BracketState :=
            { stack, union := bracket.outer, waiting := bracket.waiting }
          return .more (outer.add set) rest
  | '&' :: '&' :: rest => .ok (.more (state.operate flags .intersection) rest)
  | '-' :: '-' :: rest => .ok (.more (state.operate flags .difference) rest)
  | '~' :: '~' :: rest =>
      .ok (.more (state.operate flags .symmetricDifference) rest)
  | pattern => do
      let (set, rest) ← readBracketRange flags pattern
      return .more (state.add set) rest

/-- Read the rest of a class.  Reading goes on with the rest of the pattern as
long as that is shorter, which it always is. -/
def readBracketRest (flags : Flags) (depth : Nat) (state : BracketState)
    (pattern : List Char) : Except SyntaxError (CharSet × Nat × List Char) := do
  match ← bracketStep flags state pattern with
  | .closed set rest => return (set, max depth state.stack.length, rest)
  | .more next rest =>
      if rest.length < pattern.length then
        readBracketRest flags (max depth next.stack.length) next rest
      else .error .classUnclosed
termination_by pattern.length

/-- Read a class, behind the bracket that opens it.  The answer contains how
deeply brackets are nested in it. -/
def readBracket (flags : Flags) (pattern : List Char) :
    Except SyntaxError (CharSet × Nat × List Char) := do
  let (negated, literals, rest) ← readBracketOpening flags pattern
  let state : BracketState :=
    { stack := [⟨negated, .nothing, none⟩]
      union := .nothing
      waiting := none }
  readBracketRest flags 1
    (literals.foldl (fun state c => state.add (.single c)) state) rest

end Regex
end CommandShell
