import CommandShell.Regex.Bracket
import CommandShell.Regex.Matching

/-!
# Reading regular expressions

A pattern is read piece by piece.  Groups nest, so the reader keeps a stack of
the groups that are still open, and a repetition applies to the piece before
it.  A pattern that is well formed is still refused if it nests too deeply or
if it would grow too large.
-/

namespace CommandShell
namespace Regex

/-- A piece of a pattern: what it matches, and how deeply it is nested. -/
structure Piece where
  expression : Expression
  depth : Nat := 0
  /-- Whether the piece only sets flags. -/
  setsFlags : Bool := false
  deriving Repr, Inhabited

/-- The part of a group that has been read: the alternatives that are complete
and the pieces of the one under way, the latest first. -/
structure GroupContents where
  alternatives : List Piece := []
  pieces : List Piece := []
  deriving Repr, Inhabited

namespace GroupContents

def add (contents : GroupContents) (piece : Piece) : GroupContents :=
  { contents with pieces := piece :: contents.pieces }

/-- The pieces of the alternative under way as one piece. -/
def alternative (contents : GroupContents) : Piece :=
  match contents.pieces with
  | [] => { expression := .empty }
  | [piece] => { piece with setsFlags := false }
  | pieces => pieces.foldl
      (fun rest piece =>
        { expression := .sequence piece.expression rest.expression
          depth := max (piece.depth + 1) rest.depth })
      { expression := .empty }

def next (contents : GroupContents) : GroupContents where
  alternatives := contents.alternative :: contents.alternatives
  pieces := []

def close (contents : GroupContents) : Piece :=
  match contents.next.alternatives with
  | [piece] => piece
  | pieces => pieces.foldl
      (fun rest piece =>
        { expression := .choice piece.expression rest.expression
          depth := max (piece.depth + 1) rest.depth })
      { expression := .set .nothing }

end GroupContents

/-- An open group: the flags in force and the contents read before it. -/
structure OpenGroup where
  flags : Flags
  contents : GroupContents
  deriving Repr, Inhabited

/-- What has been read of a pattern. -/
structure ReaderState where
  flags : Flags
  contents : GroupContents := {}
  /-- The open groups, the innermost first. -/
  stack : List OpenGroup := []
  /-- The names of groups that have been used. -/
  names : List String := []
  deriving Repr, Inhabited

inductive Flag where
  | ignoreCase
  | multiLine
  | dotMatchesNewline
  | swapGreed
  | unicode
  | returnsEndLines
  | verbose
  deriving DecidableEq, Repr, Inhabited

def Flag.ofLetter? : Char → Option Flag
  | 'i' => some .ignoreCase
  | 'm' => some .multiLine
  | 's' => some .dotMatchesNewline
  | 'U' => some .swapGreed
  | 'u' => some .unicode
  | 'R' => some .returnsEndLines
  | 'x' => some .verbose
  | _ => none

def Flags.put (flags : Flags) (value : Bool) : Flag → Flags
  | .ignoreCase => { flags with ignoreCase := value }
  | .multiLine => { flags with multiLine := value }
  | .dotMatchesNewline => { flags with dotMatchesNewline := value }
  | .swapGreed => flags
  | .unicode => { flags with unicode := value }
  | .returnsEndLines => { flags with returnsEndLines := value }
  | .verbose => { flags with verbose := value }

/-- Read the letters of flags up to the `:` or `)` behind them.  `seen` lists
the flags so far, `negating` tells whether a dash was read, and `dangling`
whether it was the last thing read. -/
def readFlags (flags : Flags) (seen : List Flag) (negating dangling : Bool) :
    List Char → Except SyntaxError (Flags × Bool × Char × List Char)
  | [] => .error .flagUnexpectedEnd
  | c :: rest =>
      if c = ':' ∨ c = ')' then
        if dangling then .error .flagDanglingNegation
        else .ok (flags, seen.isEmpty && !negating, c, rest)
      else if c = '-' then
        if negating then .error .flagRepeatedNegation
        else readFlags flags seen true true rest
      else
        match Flag.ofLetter? c with
        | none => .error .flagUnrecognized
        | some flag =>
            if seen.contains flag then .error .flagDuplicate
            else readFlags (flags.put (!negating) flag) (flag :: seen) negating
              false rest

/-- Read the name of a group up to the `>` behind it. -/
def readGroupName (name : List Char) :
    List Char → Except SyntaxError (String × List Char)
  | [] => .error .groupNameUnexpectedEnd
  | c :: rest =>
      if c = '>' then
        if name.isEmpty then .error .groupNameEmpty
        else .ok (String.ofList name, rest)
      else if c = '_' || Unicode.isAlphabetic c ||
          (!name.isEmpty &&
            (Unicode.isNumeric c || ['.', '[', ']'].contains c)) then
        readGroupName (name ++ [c]) rest
      else .error .groupNameInvalid

namespace ReaderState

def add (state : ReaderState) (piece : Piece) : ReaderState :=
  { state with contents := state.contents.add piece }

def openGroup (state : ReaderState) (flags : Flags) : ReaderState :=
  { state with
    flags
    contents := {}
    stack := ⟨state.flags, state.contents⟩ :: state.stack }

def closeGroup (state : ReaderState) : Except SyntaxError ReaderState :=
  match state.stack with
  | [] => .error .groupUnopened
  | group :: stack =>
      let inner := state.contents.close
      .ok { state with
        flags := group.flags
        contents := group.contents.add { inner with depth := inner.depth + 1 }
        stack }

def openNamed (state : ReaderState) (pattern : List Char) :
    Except SyntaxError (ReaderState × List Char) := do
  let (name, rest) ← readGroupName [] pattern
  if state.names.contains name then .error .groupNameDuplicate
  else return ({ state with names := name :: state.names }.openGroup
    state.flags, rest)

/-- Read what follows an opening parenthesis. -/
def readGroup (state : ReaderState) (pattern : List Char) :
    Except SyntaxError (ReaderState × List Char) :=
  match state.flags.skip pattern with
  | '?' :: '=' :: _ | '?' :: '!' :: _ => .error .lookAround
  | '?' :: '<' :: '=' :: _ | '?' :: '<' :: '!' :: _ => .error .lookAround
  | '?' :: 'P' :: '<' :: rest => state.openNamed rest
  | '?' :: '<' :: rest => state.openNamed rest
  | '?' :: [] => .error .groupUnclosed
  | '?' :: rest => do
      let (flags, noFlags, stop, rest) ← readFlags state.flags [] false false rest
      if stop = ':' then return (state.openGroup flags, rest)
      else if noFlags then .error .repetitionMissing
      else return ({ state with flags }.add
        { expression := .empty, setsFlags := true }, rest)
  | rest => .ok (state.openGroup state.flags, rest)

/-- Apply a repetition to the piece before it. -/
def repeatLast (state : ReaderState) (least : Nat) (most : Option Nat) :
    Except SyntaxError ReaderState :=
  match state.contents.pieces with
  | [] => .error .repetitionMissing
  | piece :: pieces =>
      if piece.setsFlags then .error .repetitionMissing
      else .ok { state with
        contents := { state.contents with
          pieces :=
            { expression := .repeated piece.expression least most
              depth := piece.depth + 1 } :: pieces } }

end ReaderState

/-- Skip the sign that makes a repetition lazy. -/
def skipLazy : List Char → List Char
  | '?' :: rest => rest
  | rest => rest

/-- Read the counts of a repetition, behind the brace that opens them. -/
def readCounts (flags : Flags) (pattern : List Char) :
    Except SyntaxError (Nat × Option Nat × List Char) := do
  let (least, rest) ← readDecimal flags (← nonempty (flags.skip pattern))
  match rest with
  | '\x7d' :: rest => return (least, some least, skipLazy (flags.skip rest))
  | ',' :: rest =>
      match ← nonempty (flags.skip rest) with
      | '\x7d' :: rest => return (least, none, skipLazy (flags.skip rest))
      | rest =>
          let (most, rest) ← readDecimal flags rest
          match rest with
          | '\x7d' :: rest =>
              if most < least then .error .repetitionCountInvalid
              else return (least, some most, skipLazy (flags.skip rest))
          | _ => .error .repetitionCountUnclosed
  | _ => .error .repetitionCountUnclosed
where
  /-- Refuse the end of the pattern. -/
  nonempty : List Char → Except SyntaxError (List Char)
    | [] => .error .repetitionCountUnclosed
    | rest => .ok rest

def Flags.dot (flags : Flags) : Except SyntaxError CharSet :=
  if !flags.unicode then .error .invalidEncoding
  else if flags.dotMatchesNewline then .ok .all
  else if flags.returnsEndLines then
    .ok (.complement (.ofRanges [('\n', '\n'), ('\r', '\r')]))
  else .ok (.complement (.single '\n'))

def Flags.caret (flags : Flags) : Look :=
  if !flags.multiLine then .textStart
  else if flags.returnsEndLines then .lineStartReturn
  else .lineStart

def Flags.dollar (flags : Flags) : Look :=
  if !flags.multiLine then .textEnd
  else if flags.returnsEndLines then .lineEndReturn
  else .lineEnd

/-- What an escape sequence matches outside of brackets. -/
def Flags.escaped (flags : Flags) : Escape → Except SyntaxError Expression
  | .literal c => .ok (.set (flags.literal c))
  | .byte c =>
      if !flags.unicode && 128 ≤ c.toNat then .error .invalidEncoding
      else .ok (.set (flags.literal c))
  | .set members => .ok (.set members)
  | .look condition => .ok (.look condition)

/-- Read the next piece of a pattern. -/
def ReaderState.step (state : ReaderState) :
    List Char → Except SyntaxError (ReaderState × List Char)
  | [] => .ok (state, [])
  | c :: rest =>
      match c with
      | '(' => state.readGroup rest
      | ')' => do return (← state.closeGroup, rest)
      | '|' => .ok ({ state with contents := state.contents.next }, rest)
      | '[' => do
          let (set, depth, rest) ← readBracket state.flags rest
          return (state.add { expression := .set set, depth }, rest)
      | '?' => do return (← state.repeatLast 0 (some 1), skipLazy rest)
      | '*' => do return (← state.repeatLast 0 none, skipLazy rest)
      | '+' => do return (← state.repeatLast 1 none, skipLazy rest)
      | '\x7b' => do
          let _ ← state.repeatLast 0 none
          let (least, most, rest) ← readCounts state.flags rest
          return (← state.repeatLast least most, rest)
      | '\\' => do
          let (escape, rest) ← readEscape state.flags rest
          let expression ← state.flags.escaped escape
          return (state.add { expression }, rest)
      | '.' => do
          let set ← state.flags.dot
          return (state.add { expression := .set set }, rest)
      | '^' => .ok (state.add { expression := .look state.flags.caret }, rest)
      | '$' => .ok (state.add { expression := .look state.flags.dollar }, rest)
      | c =>
          .ok (state.add { expression := .set (state.flags.literal c) }, rest)

/-- Read a pattern to its end.  Reading goes on with the rest of the pattern as
long as that is shorter, which it always is. -/
def ReaderState.readAll (state : ReaderState) (pattern : List Char) :
    Except SyntaxError Piece := do
  match state.flags.skip pattern with
  | [] =>
      if state.stack.isEmpty then return state.contents.close
      else .error .groupUnclosed
  | c :: rest =>
      let (next, rest) ← state.step (c :: rest)
      if rest.length < pattern.length then next.readAll rest
      else .error .groupUnclosed
termination_by pattern.length

/-- The deepest nesting of a pattern. -/
def nestLimit : Nat := 250

/-- About how many bytes a set takes once it is prepared for matching. -/
def CharSet.cost : CharSet → Nat
  | .nothing => 0
  | .range _ last => if last.toNat < 128 then 40 else 160
  | .having .digit => 8000
  | .having .blank => 1600
  | .having .word => 60000
  | .table ranges => 80 * ranges.length
  | .union left right => max (left.cost) (right.cost) + 40
  | .intersection left right | .difference left right
  | .symmetricDifference left right => max left.cost right.cost
  | .complement set => set.cost + 1000
  | .folded set | .foldedAscii set => set.cost + 40

/-- About how many bytes an expression takes once it is prepared for
matching. -/
def Expression.cost : Expression → Nat
  | .empty => 0
  | .set members => members.cost
  | .look _ => 40
  | .sequence first second => first.cost + second.cost
  | .choice first second => first.cost + second.cost + 40
  | .repeated body least most =>
      match most with
      | none => body.cost * max least 1 + 40
      | some most => (body.cost + 40) * most

/-- Read a pattern. -/
def parse (pattern : String) (ignoreCase : Bool) :
    Except SyntaxError Expression := do
  let state : ReaderState := { flags := { ignoreCase } }
  let piece ← state.readAll pattern.toList
  if nestLimit < piece.depth then .error .nestLimitExceeded
  else if sizeLimit < piece.expression.cost then .error .tooLarge
  else .ok piece.expression

end Regex
end CommandShell
