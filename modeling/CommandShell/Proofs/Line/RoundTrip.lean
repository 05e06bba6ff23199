import CommandShell.Proofs.Session.Reading

/-!
# Written lines are read back

A bundle is writable if its flags are not empty, its arguments have different names,
and each value is an atomic one or a list of at least two of them.  Its line is read
back as that bundle, and no other bundle can be built without `^`.
-/

namespace CommandShell
namespace Bundle

structure Writable (bundle : Bundle) : Prop where
  flags : ∀ name, bundle.hasFlag name = true → name ≠ ""
  values : ∀ argument ∈ bundle.arguments, argument.2.Writable
  names : (bundle.arguments.map (·.1)).Nodup

/-- Entries that contain every flag of a bundle and, in order, its arguments.  Flags
may stand anywhere. -/
structure Arranges (entries : List Entry) (bundle : Bundle) : Prop where
  flags : ∀ name, .flag name ∈ entries ↔ bundle.hasFlag name = true
  arguments : entries.filterMap Entry.argument? = bundle.arguments

variable {previous : Option Value} {bundle result : Bundle} {entries : List Entry}

section Arranging

theorem arguments_foldl (entries : List Entry) (bundle : Bundle) :
    (entries.foldl Entry.addTo bundle).arguments =
      bundle.arguments ++ entries.filterMap Entry.argument? := by
  induction entries generalizing bundle with
  | nil => exact (List.append_nil _).symm
  | cons entry entries ih =>
      rw [List.foldl_cons, ih]
      cases entry with
      | flag name => rfl
      | argument name value => exact List.append_assoc ..

theorem hasFlag_foldl (entries : List Entry) (bundle : Bundle) (flag : String) :
    (entries.foldl Entry.addTo bundle).hasFlag flag = true ↔
      bundle.hasFlag flag = true ∨ .flag flag ∈ entries := by
  induction entries generalizing bundle with
  | nil => simp
  | cons entry entries ih =>
      rw [List.foldl_cons, ih]
      cases entry with
      | flag name => simp [Entry.addTo, or_assoc, or_left_comm]
      | argument name value => simp [Entry.addTo]

theorem Arranges.foldl_eq (arranges : Arranges entries bundle) :
    entries.foldl Entry.addTo {} = bundle := by
  refine eq_of_hasFlag (fun name => ?_) ?_
  · rw [hasFlag_foldl, arranges.flags]
    have noFlag : Bundle.hasFlag {} name = false := rfl
    simp [noFlag]
  · rw [arguments_foldl, arranges.arguments]
    rfl

theorem Arranges.fit (arranges : Arranges entries bundle) (writable : bundle.Writable) :
    Fit {} entries where
  flags name member := writable.flags name ((arranges.flags name).1 member)
  values := by
    rw [arranges.arguments]
    exact writable.values
  names := by
    rw [arranges.arguments]
    exact writable.names

theorem mem_flags_names (bundle : Bundle) (name : String) :
    name ∈ bundle.flags.names ↔ bundle.hasFlag name = true := by
  rw [hasFlag, NameMap.contains, Option.isSome_iff_exists, NameMap.names, List.mem_map]
  constructor
  · rintro ⟨entry, member, rfl⟩
    exact ⟨entry.2, NameMap.mem_toList_iff.1 member⟩
  · rintro ⟨set, found⟩
    exact ⟨(name, set), NameMap.mem_toList_iff.2 found, rfl⟩

/-- The flags of a bundle and then its arguments. -/
def toEntries (bundle : Bundle) : List Entry :=
  bundle.flags.names.map .flag ++
    bundle.arguments.map fun argument => .argument argument.1 argument.2

theorem arranges_toEntries (bundle : Bundle) : Arranges bundle.toEntries bundle where
  flags name := by simp [toEntries, mem_flags_names]
  arguments := by
    have noArguments : bundle.flags.names.filterMap (Entry.argument? ∘ .flag) = [] :=
      List.filterMap_eq_nil_iff.2 fun _ _ => rfl
    have argumentsEq : bundle.arguments.filterMap (Entry.argument? ∘
        fun argument => .argument argument.1 argument.2) = bundle.arguments :=
      List.filterMap_some
    rw [toEntries, List.filterMap_append, List.filterMap_map, List.filterMap_map,
      noArguments, argumentsEq, List.nil_append]

end Arranging

section Built

theorem atomic_of_denote? {form : ValueForm} {value : Value}
    (plain : .previousOutput ∉ form.tokens) (denotes : form.denote? previous = some value) :
    value.Atomic := by
  cases form with
  | previous => simp [ValueForm.tokens] at plain
  | raw negative first more =>
      cases denotes
      exact Value.atomic_ofRaw _

theorem atomic_of_mapM {forms : List ValueForm} {values : List Value}
    (plain : .previousOutput ∉ separated forms)
    (denote : forms.mapM (·.denote? previous) = some values) :
    ∀ value ∈ values, value.Atomic := by
  induction forms generalizing values with
  | nil =>
      cases denote
      simp
  | cons form forms ih =>
      rw [separated_cons, List.mem_cons, List.mem_append, not_or, not_or] at plain
      rw [List.mapM_cons] at denote
      obtain ⟨value, valueEq, denote⟩ := Option.bind_eq_some_iff.1 denote
      obtain ⟨more, moreEq, ⟨⟩⟩ := Option.bind_eq_some_iff.1 denote
      exact List.forall_mem_cons.2
        ⟨atomic_of_denote? plain.2.1 valueEq, ih plain.2.2 moreEq⟩

theorem writable_gather {first : Value} {more : List Value} (atomic : first.Atomic)
    (moreAtomic : ∀ value ∈ more, value.Atomic) : (gather first more).Writable := by
  cases more with
  | nil => exact .atomic atomic
  | cons second more =>
      exact .list (by simp) (List.forall_mem_cons.2 ⟨atomic, moreAtomic⟩)

/-- An item without `^` keeps a bundle writable. -/
theorem Writable.add? (writable : bundle.Writable) {item : ItemForm}
    (plain : .previousOutput ∉ item.tokens)
    (added : ItemForm.add? previous bundle item = some result) : result.Writable := by
  cases item with
  | flag doubled name =>
      obtain ⟨nonempty, rfl⟩ := add?_flag_eq_some_iff.1 added
      refine ⟨fun flag set => ?_, writable.values, writable.names⟩
      rcases (hasFlag_withFlag name flag).1 set with rfl | set
      · simpa using nonempty
      · exact writable.flags flag set
  | keyed name first more =>
      obtain ⟨value, values, valueEq, valuesEq, unused, rfl⟩ :=
        add?_keyed_eq_some_iff.1 added
      simp only [ItemForm.tokens, List.mem_cons, List.mem_append, not_or] at plain
      have valueWritable : (gather value values).Writable :=
        writable_gather (atomic_of_denote? plain.2.2.1 valueEq)
          (atomic_of_mapM plain.2.2.2 valuesEq)
      refine ⟨writable.flags, fun argument member => ?_, ?_⟩
      · rcases List.mem_append.1 member with member | member
        · exact writable.values argument member
        · rw [List.mem_singleton] at member
          exact member ▸ valueWritable
      · rw [hasArgument_eq_false_iff] at unused
        rw [withArgument, List.map_append, List.nodup_append]
        refine ⟨writable.names, by simp, ?_⟩
        simp only [List.map_cons, List.map_nil, List.mem_singleton]
        rintro other listed _ rfl rfl
        exact unused listed

theorem Writable.foldlM {items : List ItemForm} (writable : bundle.Writable)
    (plain : .previousOutput ∉ items.flatMap ItemForm.tokens)
    (adds : items.foldlM (ItemForm.add? previous) bundle = some result) :
    result.Writable := by
  induction items generalizing bundle with
  | nil =>
      cases adds
      exact writable
  | cons item items ih =>
      rw [List.flatMap_cons, List.mem_append, not_or] at plain
      rw [List.foldlM_cons] at adds
      obtain ⟨extended, added, adds⟩ := Option.bind_eq_some_iff.1 adds
      exact ih (writable.add? plain.1 added) plain.2 adds

theorem writable_of_ofTokens {tokens : List Token} (plain : .previousOutput ∉ tokens)
    (built : ofTokens previous tokens = .ok bundle) : bundle.Writable := by
  obtain ⟨items, rfl, adds⟩ := readItems_eq_ok_iff.1 built
  have empty : Bundle.Writable {} := ⟨nofun, nofun, List.nodup_nil⟩
  exact empty.foldlM plain adds

theorem ofTokens_toEntries (writable : bundle.Writable) :
    ofTokens previous (entryTokens bundle.toEntries) = .ok bundle := by
  have arranges := arranges_toEntries bundle
  rw [ofTokens_entryTokens (arranges.fit writable), arranges.foldl_eq]

end Built

end Bundle

/-- The line of a command name and a writable bundle is read back as exactly them,
whatever macros and previous output there are and wherever the flags stand.  The
writable bundles are just those that can be built without `^`. -/
theorem readLine_writeLine (macros : MacroTable) (previous : Option Value) :
    (∀ name bundle, CommandName.WellFormed name → Bundle.Writable bundle →
      (∃ entries, Bundle.Arranges entries bundle) ∧
      ∀ entries, Bundle.Arranges entries bundle →
        readLine macros previous (writeLine name entries) = .ok (name, bundle)) ∧
    ∀ bundle, Bundle.Writable bundle ↔ ∃ tokens,
      Token.previousOutput ∉ tokens ∧ Bundle.ofTokens previous tokens = .ok bundle := by
  constructor
  · intro name bundle wellFormed writable
    refine ⟨⟨_, bundle.arranges_toEntries⟩, fun entries arranges => ?_⟩
    have fit := arranges.fit writable
    rw [readLine_writeLine_of_fit macros wellFormed fit, arranges.foldl_eq]
  · intro bundle
    constructor
    · intro writable
      refine ⟨entryTokens bundle.toEntries, fun member => ?_,
        Bundle.ofTokens_toEntries writable⟩
      exact (plain_of_mem_entryTokens member).2 rfl
    · rintro ⟨tokens, plain, built⟩
      exact Bundle.writable_of_ofTokens plain built

def oddName : CommandName := .qualified "m.x" "-7"

def oddBundle : Bundle where
  flags := ((∅ : NameSet).insert "^" ()).insert "-x" ()
  arguments := [("", .integer Int64.minValue),
    ("a.b=", .list [.plainText "+", .integer 7, .plainText " ;\"\\"])]

def oddEntries : List Entry :=
  [.flag "^", .argument "" (.integer Int64.minValue), .flag "-x",
    .argument "a.b=" (.list [.plainText "+", .integer 7, .plainText " ;\"\\"])]

/-- No odd word of a line is misread. -/
theorem readLine_writeLine_of_odd_words :
    writeLine oddName oddEntries =
      "\"m.x\".\"-7\" -\"^\" \"\"=\"-9223372036854775808\" -\"-x\" " ++
        "\"a.b=\"=\"+\",\"7\",\" ;\\\"\\\\\"" ∧
    oddName.WellFormed ∧ oddBundle.Writable ∧ Bundle.Arranges oddEntries oddBundle ∧
      readLine ∅ none (writeLine oddName oddEntries) = .ok (oddName, oddBundle) := by
  have wellFormed : oddName.WellFormed := ⟨by decide, by decide⟩
  have writable : oddBundle.Writable := by
    refine ⟨?_, ?_, by decide⟩
    · rintro name set rfl
      cases set
    · intro argument member
      simp only [oddBundle, List.mem_cons, List.not_mem_nil, or_false] at member
      rcases member with rfl | rfl
      · exact .atomic (.integer _)
      · refine .list (by decide) ?_
        simp only [List.forall_mem_cons]
        exact ⟨.text rfl, .integer _, .text rfl, nofun⟩
  have arranges : Bundle.Arranges oddEntries oddBundle := by
    have noFlag (name : String) : (∅ : NameSet).find? name = none := rfl
    refine ⟨fun name => ?_, rfl⟩
    by_cases dash : name = "-x" <;> by_cases caret : name = "^" <;>
      simp [oddEntries, oddBundle, Bundle.hasFlag, NameMap.contains, noFlag, dash, caret]
  refine ⟨by decide +kernel, wellFormed, writable, arranges, ?_⟩
  exact ((readLine_writeLine ∅ none).1 oddName oddBundle wellFormed writable).2
    oddEntries arranges

/-- A session reads the line of a command name and a writable bundle as the
invocation of that command with that bundle, if the name resolves and the rules
admit it. -/
theorem Session.read_writeLine (session : Session) {name : CommandName}
    {bundle : Bundle} {entries : List Entry} (wellFormed : name.WellFormed)
    (writable : bundle.Writable) (arranges : Bundle.Arranges entries bundle) :
    session.read (writeLine name entries) = (do
      let (owner, command) ← session.registry.resolve name
      checkRules command.rules bundle
      return some { owner, command, bundle }) := by
  have adds : (entries.map Entry.form).foldlM (Bundle.ItemForm.add? session.previous) {} =
      some bundle := by
    rw [foldlM_add? (arranges.fit writable), arranges.foldl_eq]
  exact session.read_items _ (tokenize_writeLine name entries) wellFormed adds

end CommandShell
