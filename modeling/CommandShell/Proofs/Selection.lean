import CommandShell.Proofs.Builtins
import CommandShell.Proofs.Regex.Engine

/-!
# Selecting lines

`grep` selects the lines of a text in which a pattern matches a stretch.  With `-w` the stretch has
to begin and to end at the edge of a word, so what is selected is a part of what is selected without
it.  A pattern that is refused without `-w` is refused with it too, unless it takes one of the
parentheses that `-w` puts around it for its own.
-/

namespace CommandShell

namespace Builtin

open CommandShell.Session (checkRules_eq_ok_iff)
open CommandShell.Task (Yields yields_ask_iff yields_done_iff)
open CommandShell.Regex (Engine)

/-- The arguments and the flags of a selection. -/
structure Seeks (bundle : Bundle) (pattern text : String) (ignoreCase words : Bool) : Prop where
  pattern : bundle.text "pattern" = .ok pattern
  text : bundle.text "text" = .ok text
  ignoreCase : bundle.hasFlag "i" = ignoreCase
  words : bundle.hasFlag "w" = words

/-- The pattern that is looked for, as it is or as whole words. -/
def sought (words : Bool) (pattern : String) : String :=
  if words then wholeWords pattern else pattern

/-- The pattern is refused for a reason, in whatever session. -/
def Refuses (engine : Engine) (bundle : Bundle) (pattern reason : String) : Prop :=
  ∀ evaluate session info,
    Session.runHandler evaluate session ((selectCommand engine).handler info bundle) =
      .done (session,
        .error (.error (.badUsage s!"Invalid regex pattern {pattern}: {reason}")))

/-- How a selection goes on: it looks before each line whether the step is cancelled, and stops if
it is. -/
inductive Course (session : Session) (lines selected : List String) :
    List (Exchange Session.signals) → Session.Outcome Value → Prop
  | cancelled {count : Nat} (early : count < lines.length) :
      Course session lines selected
        (List.replicate count ⟨.observe, false⟩ ++ [⟨.observe, true⟩])
        (session, .error (.error .cancelled))
  | finished :
      Course session lines selected (List.replicate lines.length ⟨.observe, false⟩)
        (session, .ok (.list (selected.map .plainText)))

/-- Lines are selected, in whatever session, unless the step is cancelled. -/
def Selects (engine : Engine) (bundle : Bundle) (lines selected : List String) : Prop :=
  ∀ evaluate session info exchanges outcome,
    Yields (Session.runHandler evaluate session ((selectCommand engine).handler info bundle))
        exchanges outcome ↔
      Course session lines selected exchanges outcome

section Handler

variable {evaluate : String → Session → Task Session.signals (Session.Outcome (Option Value))}
variable {session : Session} {selects : String → Bool} {lines : List String} {count : Nat}
variable {later : Task Session.signals (Session.Outcome Value)}
variable {exchanges : List (Exchange Session.signals)} {outcome : Session.Outcome Value}

/-- Look some times whether the step is cancelled, and go on if it is not. -/
def watch (session : Session) (later : Task Session.signals (Session.Outcome Value)) :
    Nat → Task Session.signals (Session.Outcome Value)
  | 0 => later
  | count + 1 =>
      .ask .observe fun
        | true => .done (session, .error (.error .cancelled))
        | false => watch session later count

theorem yields_watch_iff :
    Yields (watch session later count) exchanges outcome ↔
      (∃ before, before < count ∧
        exchanges = List.replicate before ⟨.observe, false⟩ ++ [⟨.observe, true⟩] ∧
        outcome = (session, .error (.error .cancelled))) ∨
      ∃ rest, exchanges = List.replicate count ⟨.observe, false⟩ ++ rest ∧
        Yields later rest outcome := by
  induction count generalizing exchanges with
  | zero => simp [watch]
  | succ count ih =>
      refine (yields_ask_iff (I := Session.signals)).trans ?_
      constructor
      · rintro ⟨isSet, rest, rfl, resumed⟩
        cases isSet with
        | true =>
            obtain ⟨rfl, rfl⟩ := yields_done_iff.1 resumed
            exact .inl ⟨0, Nat.succ_pos count, rfl, rfl⟩
        | false =>
            rcases ih.1 resumed with ⟨before, early, rfl, rfl⟩ | ⟨rest, rfl, yields⟩
            · exact .inl ⟨before + 1, Nat.succ_lt_succ early, rfl, rfl⟩
            · exact .inr ⟨rest, rfl, yields⟩
      · rintro (⟨before, early, rfl, rfl⟩ | ⟨rest, rfl, yields⟩)
        · cases before with
          | zero => exact ⟨true, [], rfl, .refl _⟩
          | succ before =>
              have sooner : before < count := Nat.lt_of_succ_lt_succ early
              exact ⟨false, _, rfl, ih.2 (.inl ⟨before, sooner, rfl, rfl⟩)⟩
        · exact ⟨false, _, rfl, ih.2 (.inr ⟨rest, rfl, yields⟩)⟩

theorem runHandler_checkpoint {next : Handler Value} :
    Session.runHandler evaluate session (do Handler.checkpoint; next : Handler Value) =
      watch session (Session.runHandler evaluate session next) 1 := by
  delta Session.runHandler
  change Task.ask (I := Session.signals) .observe _ = .ask .observe _
  congr 1
  funext isSet
  cases isSet <;> rfl

/-- The lines are gone through one by one, and those that are selected remain. -/
theorem runHandler_selectLines {next : List String → Handler Value} :
    Session.runHandler evaluate session (selectLines selects lines >>= next : Handler Value) =
      watch session (Session.runHandler evaluate session (next (lines.filter selects)))
        lines.length := by
  induction lines generalizing next with
  | nil => rfl
  | cons line lines ih =>
      rw [selectLines]
      simp only [bind_assoc, pure_bind]
      rw [runHandler_checkpoint, ih, List.filter_cons]
      rfl

theorem yields_watch_done_iff {selected : List String} :
    Yields (watch session (.done (session, .ok (.list (selected.map .plainText)))) lines.length)
        exchanges outcome ↔
      Course session lines selected exchanges outcome := by
  rw [yields_watch_iff]
  constructor
  · rintro (⟨before, early, rfl, rfl⟩ | ⟨rest, rfl, yields⟩)
    · exact .cancelled early
    · obtain ⟨rfl, rfl⟩ := yields_done_iff.1 yields
      rw [List.append_nil]
      exact .finished
  · rintro (early | _)
    · exact .inl ⟨_, early, rfl, rfl⟩
    · exact .inr ⟨[], (List.append_nil _).symm, .refl _⟩

end Handler

section Command

variable {engine : Engine} {constructs : engine.Constructs} {bundle : Bundle}
variable {pattern text reason : String} {ignoreCase words : Bool}
variable {refusal : Regex.Refusal} {expression : engine.Expression}
variable {lines selected others : List String}

theorem refuses_of_build (seeks : Seeks bundle pattern text ignoreCase words)
    (refused : engine.build (sought words pattern) ignoreCase = .error refusal) :
    Refuses engine bundle pattern refusal.text := by
  intro evaluate session info
  unfold selectCommand
  dsimp only
  rw [seeks.pattern, seeks.ignoreCase, seeks.words, Handler.ofExcept, pure_bind]
  rw [sought] at refused
  rw [refused]
  rfl

theorem selects_of_build (seeks : Seeks bundle pattern text ignoreCase words)
    (built : engine.build (sought words pattern) ignoreCase = .ok expression) :
    Selects engine bundle (Text.lines text)
      ((Text.lines text).filter (engine.isMatch expression)) := by
  intro evaluate session info exchanges outcome
  unfold selectCommand
  dsimp only
  rw [seeks.pattern, seeks.ignoreCase, seeks.words, Handler.ofExcept, pure_bind]
  rw [sought] at built
  rw [built]
  dsimp only
  rw [seeks.text, Handler.ofExcept, pure_bind, runHandler_selectLines]
  exact yields_watch_done_iff

/-- What the standard engine selects can be computed. -/
theorem selects_of_map_eq_ok (seeks : Seeks bundle pattern text ignoreCase words)
    (computed : (Engine.standard.build (sought words pattern) ignoreCase).map
      (fun expression => (Text.lines text).filter (Engine.standard.isMatch expression)) =
        .ok selected) :
    Selects .standard bundle (Text.lines text) selected := by
  cases built : Engine.standard.build (sought words pattern) ignoreCase with
  | error refusal =>
      rw [built] at computed
      cases computed
  | ok expression =>
      rw [built] at computed
      obtain rfl := Except.ok.inj computed
      exact selects_of_build seeks built

/-- The rules let a bundle through exactly if it gives a pattern and a text. -/
theorem checkRules_selectCommand_iff :
    checkRules (selectCommand engine).rules bundle = .ok () ↔
      ∃ pattern text ignoreCase words, Seeks bundle pattern text ignoreCase words := by
  have given (name : String) :
      (bundle.hasArgument name = true ∧ (Rule.typeOf .text name).holds bundle = true) ↔
        ∃ content, bundle.text name = .ok content := by
    constructor
    · rintro ⟨present, typed⟩
      exact Bundle.exists_text present typed
    · rintro ⟨content, found⟩
      rw [Bundle.text, Bundle.argument] at found
      rw [Bundle.hasArgument_eq, Rule.holds]
      cases argument : bundle.get? name with
      | none =>
          rw [argument] at found
          cases found
      | some value =>
          rw [argument] at found
          cases value with
          | text => exact ⟨rfl, rfl⟩
          | none | integer | image | list => cases found
  rw [checkRules_eq_ok_iff]
  simp only [selectCommand, List.forall_mem_cons]
  constructor
  · rintro ⟨hasPattern, hasText, patternTyped, textTyped, -⟩
    obtain ⟨pattern, patternFound⟩ := (given "pattern").1 ⟨hasPattern, patternTyped⟩
    obtain ⟨text, textFound⟩ := (given "text").1 ⟨hasText, textTyped⟩
    exact ⟨pattern, text, _, _, patternFound, textFound, rfl, rfl⟩
  · rintro ⟨pattern, text, _, _, seeks⟩
    obtain ⟨hasPattern, patternTyped⟩ := (given "pattern").2 ⟨pattern, seeks.pattern⟩
    obtain ⟨hasText, textTyped⟩ := (given "text").2 ⟨text, seeks.text⟩
    exact ⟨hasPattern, hasText, patternTyped, textTyped, by simp⟩

theorem course_ok_iff {session after : Session} {value : Value}
    {exchanges : List (Exchange Session.signals)} :
    Course session lines selected exchanges (after, .ok value) ↔
      exchanges = List.replicate lines.length ⟨.observe, false⟩ ∧ after = session ∧
        value = .list (selected.map .plainText) := by
  constructor
  · intro course
    generalize ended : (after, Except.ok value) = outcome at course
    cases course with
    | cancelled => cases ended
    | finished =>
        cases ended
        exact ⟨rfl, rfl, rfl⟩
  · rintro ⟨rfl, rfl, rfl⟩
    exact .finished

theorem Selects.finishes (selects : Selects engine bundle lines selected) :
    Yields (Session.runHandler (Session.evaluate 0) { registry := ∅ }
        ((selectCommand engine).handler default bundle))
      (List.replicate lines.length ⟨.observe, false⟩)
      ({ registry := ∅ }, .ok (.list (selected.map .plainText))) :=
  (selects _ _ _ _ _).2 .finished

theorem Selects.unique (selects : Selects engine bundle lines selected)
    (again : Selects engine bundle lines others) : selected = others := by
  have course := (again _ _ _ _ _).1 selects.finishes
  have plain : Function.Injective Value.plainText := fun _ _ same => (Value.text.inj same).1
  exact List.map_injective_iff.2 plain (Value.list.inj (course_ok_iff.1 course).2.2)

theorem Selects.not_refuses (selects : Selects engine bundle lines selected) :
    ¬ Refuses engine bundle pattern reason := by
  intro refuses
  have yields := selects.finishes
  rw [refuses] at yields
  cases (yields_done_iff.1 yields).2

/-- What is selected are the lines that match. -/
theorem exists_build_of_selects (seeks : Seeks bundle pattern text ignoreCase words)
    (selects : Selects engine bundle (Text.lines text) selected) :
    ∃ expression, engine.build (sought words pattern) ignoreCase = .ok expression ∧
      selected = (Text.lines text).filter (engine.isMatch expression) := by
  cases built : engine.build (sought words pattern) ignoreCase with
  | error refusal => exact absurd (refuses_of_build seeks built) selects.not_refuses
  | ok expression => exact ⟨expression, rfl, selects.unique (selects_of_build seeks built)⟩

open Classical in
theorem filter_isMatch (conforms : engine.Conforms constructs)
    (expression : engine.Expression) (lines : List String) :
    lines.filter (engine.isMatch expression) =
      lines.filter (constructs.Occurs expression ·) := by
  refine List.filter_congr fun line _ => Bool.eq_iff_iff.2 ?_
  rw [conforms.isMatch_iff, decide_eq_true_iff]
  rfl

end Command

open Classical in
/-- The rules let the selection pass.  Then its pattern is refused if it is invalid, and otherwise
just the lines are selected in which it occurs. -/
structure SelectsExactly (engine : Engine) (constructs : engine.Constructs) (bundle : Bundle)
    (pattern text : String) (ignoreCase words : Bool) : Prop where
  obeys : checkRules (selectCommand engine).rules bundle = .ok ()
  refuses : ∀ refusal, engine.build (sought words pattern) ignoreCase = .error refusal →
    Refuses engine bundle pattern refusal.text
  selects : ∀ expression, engine.build (sought words pattern) ignoreCase = .ok expression →
    Selects engine bundle (Text.lines text)
      ((Text.lines text).filter (constructs.Occurs expression ·))

open Classical in
/-- What `-w` makes of a selection. -/
structure Narrows (engine : Engine) (constructs : engine.Constructs) (plain narrow : Bundle)
    (pattern text : String) (ignoreCase : Bool) : Prop where
  plainExactly : SelectsExactly engine constructs plain pattern text ignoreCase false
  narrowExactly : SelectsExactly engine constructs narrow pattern text ignoreCase true
  refuses : ¬ engine.TakesParenthesis pattern ignoreCase →
    (∃ reason, Refuses engine plain pattern reason) →
      ∃ reason, Refuses engine narrow pattern reason
  sublist : ∀ selected narrowed, Selects engine plain (Text.lines text) selected →
    Selects engine narrow (Text.lines text) narrowed → narrowed.Sublist selected
  /-- Just the lines remain in which the pattern matches from one edge of a word to another. -/
  edges : ∀ selected narrowed, Selects engine plain (Text.lines text) selected →
    Selects engine narrow (Text.lines text) narrowed → ∃ expression,
      engine.build pattern ignoreCase = .ok expression ∧
        narrowed = (Text.lines text).filter (constructs.OccursAsWords expression ·)

section Narrowing

variable {engine : Engine} {constructs : engine.Constructs} {plain narrow : Bundle}
variable {pattern text : String} {ignoreCase : Bool}

theorem selectsExactly_of_seeks (conforms : engine.Conforms constructs) {bundle : Bundle}
    {words : Bool} (seeks : Seeks bundle pattern text ignoreCase words) :
    SelectsExactly engine constructs bundle pattern text ignoreCase words where
  obeys := checkRules_selectCommand_iff.2 ⟨pattern, text, ignoreCase, words, seeks⟩
  refuses _ refused := refuses_of_build seeks refused
  selects expression built := by
    have selects := selects_of_build seeks built
    rwa [filter_isMatch conforms] at selects

theorem refuses_of_plain (conforms : engine.Conforms constructs)
    (seeksPlain : Seeks plain pattern text ignoreCase false)
    (seeksNarrow : Seeks narrow pattern text ignoreCase true)
    (leaves : ¬ engine.TakesParenthesis pattern ignoreCase)
    (refused : ∃ reason, Refuses engine plain pattern reason) :
    ∃ reason, Refuses engine narrow pattern reason := by
  cases built : engine.build (wholeWords pattern) ignoreCase with
  | error refusal => exact ⟨_, refuses_of_build seeksNarrow built⟩
  | ok expression =>
      obtain ⟨inner, innerBuilt⟩ := conforms.build_of_words leaves built
      obtain ⟨reason, refused⟩ := refused
      exact absurd refused (selects_of_build seeksPlain innerBuilt).not_refuses

open Classical in
theorem narrowed_eq (conforms : engine.Conforms constructs)
    (seeksPlain : Seeks plain pattern text ignoreCase false)
    (seeksNarrow : Seeks narrow pattern text ignoreCase true) {selected narrowed : List String}
    (selects : Selects engine plain (Text.lines text) selected)
    (narrows : Selects engine narrow (Text.lines text) narrowed) :
    ∃ expression, engine.build pattern ignoreCase = .ok expression ∧
      selected = (Text.lines text).filter (constructs.Occurs expression ·) ∧
      narrowed = (Text.lines text).filter (constructs.OccursAsWords expression ·) := by
  obtain ⟨expression, built, selectedEq⟩ := exists_build_of_selects seeksPlain selects
  obtain ⟨words, wordsBuilt, narrowedEq⟩ := exists_build_of_selects seeksNarrow narrows
  have built : engine.build pattern ignoreCase = .ok expression := built
  obtain rfl := conforms.reads built wordsBuilt
  rw [filter_isMatch conforms] at selectedEq narrowedEq
  refine ⟨expression, built, selectedEq, ?_⟩
  simpa only [conforms.occurs_words_iff] using narrowedEq

open Classical in
theorem sublist_of_narrowed (conforms : engine.Conforms constructs)
    (seeksPlain : Seeks plain pattern text ignoreCase false)
    (seeksNarrow : Seeks narrow pattern text ignoreCase true) {selected narrowed : List String}
    (selects : Selects engine plain (Text.lines text) selected)
    (narrows : Selects engine narrow (Text.lines text) narrowed) : narrowed.Sublist selected := by
  obtain ⟨_, -, rfl, rfl⟩ := narrowed_eq conforms seeksPlain seeksNarrow selects narrows
  refine List.monotone_filter_right _ fun line occurs => ?_
  rw [decide_eq_true_iff] at occurs ⊢
  exact occurs.occurs

/-- `grep` refuses a pattern or selects exactly the lines in which it occurs, each as often as it is
there.  With `-w` it selects some of the lines that it selects without, and it refuses each pattern
that it refuses without, unless the pattern takes a parenthesis. -/
theorem whole_words_narrow_selection (conforms : engine.Conforms constructs)
    (seeksPlain : Seeks plain pattern text ignoreCase false)
    (seeksNarrow : Seeks narrow pattern text ignoreCase true) :
    Narrows engine constructs plain narrow pattern text ignoreCase where
  plainExactly := selectsExactly_of_seeks conforms seeksPlain
  narrowExactly := selectsExactly_of_seeks conforms seeksNarrow
  refuses := refuses_of_plain conforms seeksPlain seeksNarrow
  sublist _ _ selects narrows := sublist_of_narrowed conforms seeksPlain seeksNarrow selects narrows
  edges selected narrowed selects narrows := by
    obtain ⟨expression, built, -, narrowedEq⟩ :=
      narrowed_eq conforms seeksPlain seeksNarrow selects narrows
    exact ⟨expression, built, narrowedEq⟩

end Narrowing

/-- The arguments of a selection, with whole words or not. -/
def seeking (pattern text : String) (words : Bool) : Bundle where
  flags := .ofNames (if words then ["w"] else [])
  arguments := [("pattern", .plainText pattern), ("text", .plainText text)]

theorem seeks_seeking (pattern text : String) (words : Bool) :
    Seeks (seeking pattern text words) pattern text false words where
  pattern := rfl
  text := rfl
  ignoreCase := by cases words <;> rfl
  words := by cases words <;> rfl

/-- Of two lines, one has a word that the pattern matches and the other has only a part of one.  A
parenthesis that opens a group and leaves it open is refused with whole words too. -/
theorem narrows_lines_and_refuses_open_parenthesis :
    Engine.standard.Conforms Engine.standardConstructs ∧
      Text.lines "hello\nshell" = ["hello", "shell"] ∧
      Selects .standard (seeking "ell|hello" "hello\nshell" false) ["hello", "shell"]
        ["hello", "shell"] ∧
      Selects .standard (seeking "ell|hello" "hello\nshell" true) ["hello", "shell"] ["hello"] ∧
      ["hello"].Sublist ["hello", "shell"] ∧
      ∃ reason, Refuses .standard (seeking "(" "a" true) "(" reason := by
  have conforms := Engine.conforms_standard
  have narrowed (pattern text : String) := whole_words_narrow_selection conforms
    (seeks_seeking pattern text false) (seeks_seeking pattern text true)
  have linesEq : Text.lines "hello\nshell" = ["hello", "shell"] := by decide +kernel
  have plain : Selects .standard (seeking "ell|hello" "hello\nshell" false)
      (Text.lines "hello\nshell") ["hello", "shell"] :=
    selects_of_map_eq_ok (seeks_seeking _ _ false) (by decide +kernel)
  have narrow : Selects .standard (seeking "ell|hello" "hello\nshell" true)
      (Text.lines "hello\nshell") ["hello"] :=
    selects_of_map_eq_ok (seeks_seeking _ _ true) (by decide +kernel)
  have sublist := (narrowed "ell|hello" "hello\nshell").sublist _ _ plain narrow
  rw [linesEq] at plain narrow
  refine ⟨conforms, linesEq, plain, narrow, sublist, ?_⟩
  have invalid : Regex.parse (sought false "(") false = .error .groupUnclosed := by decide +kernel
  have refused := (narrowed "(" "a").plainExactly.refuses _ (Engine.build_standard_of_error invalid)
  refine (narrowed "(" "a").refuses ?_ ⟨_, refused⟩
  rintro (special | ⟨front, behind, split, -⟩)
  · exact absurd special (by decide +kernel)
  · -- one character is no parenthesis that closes
    have member : ')' ∈ "(".toList := by
      rw [split]
      simp
    exact absurd member (by decide +kernel)

/-- Two parentheses that close a group and open another one are refused, but with whole words they
are not. -/
theorem whole_words_accept_refused_pattern :
    (∃ reason, Refuses .standard (seeking ")(" "a" false) ")(" reason) ∧
      (∀ reason, ¬ Refuses .standard (seeking ")(" "a" true) ")(" reason) ∧
      Selects .standard (seeking ")(" "a" true) ["a"] ["a"] := by
  have invalid : Regex.parse (sought false ")(") false = .error .groupUnopened := by
    decide +kernel
  have linesEq : Text.lines "a" = ["a"] := by decide +kernel
  have selects : Selects .standard (seeking ")(" "a" true) (Text.lines "a") ["a"] :=
    selects_of_map_eq_ok (seeks_seeking _ _ true) (by decide +kernel)
  rw [linesEq] at selects
  exact ⟨⟨_, refuses_of_build (seeks_seeking ")(" "a" false)
    (Engine.build_standard_of_error invalid)⟩, fun _ => selects.not_refuses, selects⟩

end Builtin
end CommandShell
