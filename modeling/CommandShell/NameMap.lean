/-!
# Finite maps from names

A `NameMap` is a list of entries in strictly ascending order of their names.
The order is part of the type, so a map has one representation only: two maps
that answer every look-up alike are equal (`NameMap.ext_find?`).  Modules,
commands, macros and libraries are all kept in such maps, and every listing of
them is therefore in ascending name order.
-/

namespace CommandShell

/-- A finite map whose entries are listed in ascending name order. -/
structure NameMap (β : Type) where
  entries : List (String × β)
  ascending : entries.Pairwise fun first second => first.1 < second.1
  deriving Repr

namespace NameMap

variable {β γ : Type}

/-- The value of the first entry called `name`. -/
def lookup (name : String) : List (String × β) → Option β
  | [] => none
  | entry :: rest => if entry.1 = name then some entry.2 else lookup name rest

/-- Put an entry in its place, replacing one of the same name. -/
def place (name : String) (value : β) : List (String × β) → List (String × β)
  | [] => [(name, value)]
  | entry :: rest =>
      if name < entry.1 then (name, value) :: entry :: rest
      else if name = entry.1 then (name, value) :: rest
      else entry :: place name value rest

theorem mem_place {name : String} {value : β} {entries : List (String × β)}
    {entry : String × β} (mem : entry ∈ place name value entries) :
    entry = (name, value) ∨ entry ∈ entries := by
  induction entries with
  | nil => simpa [place] using mem
  | cons first rest ih =>
      unfold place at mem
      split at mem
      · simpa using mem
      · split at mem
        · rcases List.mem_cons.1 mem with rfl | mem
          · exact .inl rfl
          · exact .inr (List.mem_cons_of_mem _ mem)
        · rcases List.mem_cons.1 mem with rfl | mem
          · exact .inr (List.mem_cons_self ..)
          · exact (ih mem).imp_right (List.mem_cons_of_mem _)

theorem ascending_place (name : String) (value : β)
    {entries : List (String × β)}
    (ascending : entries.Pairwise fun first second => first.1 < second.1) :
    (place name value entries).Pairwise
      fun first second => first.1 < second.1 := by
  induction entries with
  | nil => simp [place]
  | cons first rest ih =>
      obtain ⟨below, restAscending⟩ := List.pairwise_cons.1 ascending
      unfold place
      split
      · rename_i smaller
        refine List.pairwise_cons.2 ⟨fun other mem => ?_, ascending⟩
        rcases List.mem_cons.1 mem with rfl | mem
        · exact smaller
        · exact String.lt_trans smaller (below other mem)
      · split
        · rename_i equal
          subst equal
          exact List.pairwise_cons.2 ⟨below, restAscending⟩
        · rename_i notSmaller notEqual
          refine List.pairwise_cons.2 ⟨fun other mem => ?_, ih restAscending⟩
          rcases mem_place mem with rfl | mem
          · exact String.not_le.1 fun le =>
              notEqual (String.le_antisymm le (String.not_lt.1 notSmaller))
          · exact below other mem

def empty : NameMap β := ⟨[], .nil⟩

instance : EmptyCollection (NameMap β) := ⟨empty⟩

instance : Inhabited (NameMap β) := ⟨empty⟩

instance [DecidableEq β] : DecidableEq (NameMap β) := fun first second =>
  if same : first.entries = second.entries then
    .isTrue (by cases first; cases second; cases same; rfl)
  else
    .isFalse fun equal => same (equal ▸ rfl)

/-- The value stored under a name. -/
def find? (map : NameMap β) (name : String) : Option β :=
  lookup name map.entries

def contains (map : NameMap β) (name : String) : Bool :=
  (map.find? name).isSome

/-- Store a value under a name, replacing an earlier one. -/
def insert (map : NameMap β) (name : String) (value : β) : NameMap β :=
  ⟨place name value map.entries, ascending_place name value map.ascending⟩

/-- Remove a name and its value. -/
def erase (map : NameMap β) (name : String) : NameMap β :=
  ⟨map.entries.filter fun entry => entry.1 ≠ name,
    map.ascending.sublist List.filter_sublist⟩

def map (f : β → γ) (self : NameMap β) : NameMap γ :=
  ⟨self.entries.map fun entry => (entry.1, f entry.2),
    List.pairwise_map.2 self.ascending⟩

/-- Store the pairs one after the other; of equal names the last wins. -/
def ofList (pairs : List (String × β)) : NameMap β :=
  pairs.foldl (fun map pair => map.insert pair.1 pair.2) empty

/-- The pairs in ascending name order. -/
def toList (map : NameMap β) : List (String × β) := map.entries

def names (map : NameMap β) : List String := map.entries.map (·.1)

def values (map : NameMap β) : List β := map.entries.map (·.2)

def size (map : NameMap β) : Nat := map.entries.length

def isEmpty (map : NameMap β) : Bool := map.entries.isEmpty

theorem lookup_place (name other : String) (value : β)
    (entries : List (String × β)) :
    lookup other (place name value entries) =
      if other = name then some value else lookup other entries := by
  induction entries with
  | nil => simp [place, lookup, eq_comm]
  | cons first rest ih => grind [place, lookup]

@[simp]
theorem find?_empty (name : String) :
    (empty : NameMap β).find? name = none := rfl

@[simp]
theorem contains_empty (name : String) :
    (∅ : NameMap β).contains name = false := rfl

/-- Storing changes the look-up of one name only. -/
@[simp]
theorem find?_insert (map : NameMap β) (name other : String) (value : β) :
    (map.insert name value).find? other =
      if other = name then some value else map.find? other :=
  lookup_place name other value map.entries

theorem lookup_filter_ne (name other : String) (entries : List (String × β)) :
    lookup other (entries.filter fun entry => entry.1 ≠ name) =
      if other = name then none else lookup other entries := by
  induction entries with
  | nil => simp [lookup]
  | cons first rest ih => grind [lookup]

/-- Removing changes the look-up of one name only. -/
@[simp]
theorem find?_erase (map : NameMap β) (name other : String) :
    (map.erase name).find? other =
      if other = name then none else map.find? other :=
  lookup_filter_ne name other map.entries

theorem lookup_eq_some_of_mem {entries : List (String × β)}
    (ascending : entries.Pairwise fun first second => first.1 < second.1)
    {name : String} {value : β} (mem : (name, value) ∈ entries) :
    lookup name entries = some value := by
  induction entries with
  | nil => cases mem
  | cons first rest ih =>
      obtain ⟨below, restAscending⟩ := List.pairwise_cons.1 ascending
      rcases List.mem_cons.1 mem with rfl | mem
      · simp [lookup]
      · have smaller : first.1 < name := below _ mem
        have different : first.1 ≠ name := fun equal =>
          String.lt_irrefl _ (equal ▸ smaller)
        simp [lookup, different, ih restAscending mem]

theorem mem_of_lookup_eq_some {entries : List (String × β)}
    {name : String} {value : β} (found : lookup name entries = some value) :
    (name, value) ∈ entries := by
  induction entries with
  | nil => simp [lookup] at found
  | cons first rest ih =>
      unfold lookup at found
      split at found
      · rename_i equal
        cases found
        cases equal
        exact List.mem_cons_self ..
      · exact List.mem_cons_of_mem _ (ih found)

/-- A pair is listed exactly when looking up its name yields its value. -/
theorem mem_toList_iff {map : NameMap β} {name : String} {value : β} :
    (name, value) ∈ map.toList ↔ map.find? name = some value :=
  ⟨lookup_eq_some_of_mem map.ascending, mem_of_lookup_eq_some⟩

theorem mem_values_of_find? {map : NameMap β} {name : String} {value : β}
    (found : map.find? name = some value) : value ∈ map.values :=
  List.mem_map.2 ⟨(name, value), mem_toList_iff.2 found, rfl⟩

theorem exists_find?_of_mem_values {map : NameMap β} {value : β} (listed : value ∈ map.values) :
    ∃ name, map.find? name = some value := by
  obtain ⟨⟨name, _⟩, entry, rfl⟩ := List.mem_map.1 listed
  exact ⟨name, mem_toList_iff.1 entry⟩

/-- A strictly ascending list is determined by its members. -/
theorem eq_of_mem_iff {first second : List (String × β)}
    (firstAscending : first.Pairwise fun a b => a.1 < b.1)
    (secondAscending : second.Pairwise fun a b => a.1 < b.1)
    (same : ∀ entry, entry ∈ first ↔ entry ∈ second) : first = second := by
  induction first generalizing second with
  | nil =>
      cases second with
      | nil => rfl
      | cons entry rest =>
          have mem := (same entry).2 (List.mem_cons_self ..)
          cases mem
  | cons a restA ih =>
      cases second with
      | nil => exact absurd ((same a).1 (List.mem_cons_self ..)) (by simp)
      | cons b restB =>
          obtain ⟨belowA, ascendingA⟩ := List.pairwise_cons.1 firstAscending
          obtain ⟨belowB, ascendingB⟩ := List.pairwise_cons.1 secondAscending
          have headEq : a = b := by
            rcases List.mem_cons.1 ((same a).1 (List.mem_cons_self ..)) with
              equal | memA
            · exact equal
            · rcases List.mem_cons.1 ((same b).2 (List.mem_cons_self ..)) with
                equal | memB
              · exact equal.symm
              · exact absurd (String.lt_trans (belowA _ memB) (belowB _ memA))
                  (String.lt_irrefl _)
          subst headEq
          have irreflexive : ∀ entry ∈ restA, entry ≠ a := fun entry mem equal =>
            String.lt_irrefl _ (equal ▸ belowA entry mem)
          have irreflexive' : ∀ entry ∈ restB, entry ≠ a := fun entry mem equal =>
            String.lt_irrefl _ (equal ▸ belowB entry mem)
          have restEq : restA = restB := ih ascendingA ascendingB fun entry =>
            ⟨fun mem => ((List.mem_cons.1
                ((same entry).1 (List.mem_cons_of_mem _ mem))).resolve_left
                  (irreflexive entry mem)),
              fun mem => ((List.mem_cons.1
                ((same entry).2 (List.mem_cons_of_mem _ mem))).resolve_left
                  (irreflexive' entry mem))⟩
          rw [restEq]

/-- Maps that answer every look-up alike are equal. -/
theorem ext_find? {first second : NameMap β}
    (same : ∀ name, first.find? name = second.find? name) : first = second := by
  have entriesEq : first.entries = second.entries :=
    eq_of_mem_iff first.ascending second.ascending fun entry => by
      have left : entry ∈ first.toList ↔ first.find? entry.1 = some entry.2 :=
        mem_toList_iff
      have right : entry ∈ second.toList ↔
          second.find? entry.1 = some entry.2 := mem_toList_iff
      rw [same] at left
      exact left.trans right.symm
  cases first
  cases second
  cases entriesEq
  rfl

theorem nodup_names (map : NameMap β) : (map.toList.map (·.1)).Nodup := by
  refine List.pairwise_map.2 (map.ascending.imp fun below same => ?_)
  exact String.lt_irrefl _ (same ▸ below)

section Updates

variable {apply : NameMap β → γ → NameMap β} {key : γ → String} {value : γ → Option β}

/-- Updates do not change the look-up of a name that none of them concerns. -/
theorem find?_foldl_of_not_mem
    (applies : ∀ map update name, (apply map update).find? name =
      if name = key update then value update else map.find? name)
    {updates : List γ} {map : NameMap β} {name : String}
    (unchanged : name ∉ updates.map key) :
    (updates.foldl apply map).find? name = map.find? name := by
  induction updates generalizing map with
  | nil => rfl
  | cons update updates ih =>
      rw [List.map_cons, List.mem_cons, not_or] at unchanged
      rw [List.foldl_cons, ih unchanged.2, applies, if_neg unchanged.1]

/-- Each of several updates that concern different names shows in the end. -/
theorem find?_foldl_of_mem
    (applies : ∀ map update name, (apply map update).find? name =
      if name = key update then value update else map.find? name)
    {updates : List γ} {map : NameMap β} {update : γ}
    (distinct : (updates.map key).Nodup) (listed : update ∈ updates) :
    (updates.foldl apply map).find? (key update) = value update := by
  induction updates generalizing map with
  | nil => cases listed
  | cons first updates ih =>
      obtain ⟨unchanged, distinct⟩ := List.nodup_cons.1 distinct
      rw [List.foldl_cons]
      rcases List.mem_cons.1 listed with rfl | listed
      · rw [find?_foldl_of_not_mem applies unchanged, applies, if_pos rfl]
      · exact ih distinct listed

end Updates

/-- The pairs of a map make up the map, in whatever order they are stored. -/
theorem ofList_of_perm {pairs : List (String × β)} {map : NameMap β}
    (perm : pairs.Perm map.toList) : ofList pairs = map := by
  have distinct : (pairs.map (·.1)).Nodup := (perm.map _).nodup_iff.2 map.nodup_names
  have applies (map : NameMap β) (pair : String × β) (name : String) :
      (map.insert pair.1 pair.2).find? name =
        if name = pair.1 then some pair.2 else map.find? name := find?_insert ..
  refine ext_find? fun name => ?_
  cases found : map.find? name with
  | some value =>
      exact find?_foldl_of_mem applies distinct (perm.mem_iff.2 (mem_toList_iff.2 found))
  | none =>
      refine find?_foldl_of_not_mem applies fun listed => ?_
      obtain ⟨⟨_, value⟩, member, rfl⟩ := List.mem_map.1 listed
      cases (mem_toList_iff.1 (perm.mem_iff.1 member)).symm.trans found

theorem contains_eq_false_iff {map : NameMap β} {name : String} :
    map.contains name = false ↔ map.find? name = none := by
  rw [contains, Option.isSome_eq_false_iff, Option.isNone_iff_eq_none]

/-- Storing a value under a free name leaves what was stored before. -/
theorem find?_insert_of_free {map : NameMap β} {name other : String} {value stored : β}
    (free : map.contains name = false) (found : map.find? other = some stored) :
    (map.insert name value).find? other = some stored := by
  rw [find?_insert, if_neg, found]
  rintro rfl
  cases (contains_eq_false_iff.1 free).symm.trans found

/-- The entries in front of one are those with smaller names. -/
theorem lookup_front {map : NameMap β} {front rest : List (String × β)} {entry : String × β}
    (split : map.toList = front ++ entry :: rest) (name : String) :
    lookup name front = if name < entry.1 then map.find? name else none := by
  have ascending : (front ++ entry :: rest).Pairwise fun first second => first.1 < second.1 :=
    split ▸ map.ascending
  obtain ⟨frontAscending, restAscending, across⟩ := List.pairwise_append.1 ascending
  obtain ⟨above, -⟩ := List.pairwise_cons.1 restAscending
  cases listed : lookup name front with
  | some value =>
      have member := mem_of_lookup_eq_some listed
      have smaller : name < entry.1 := across _ member entry (List.mem_cons_self ..)
      have found : map.find? name = some value :=
        mem_toList_iff.1 (split ▸ List.mem_append_left _ member)
      rw [if_pos smaller, found]
  | none =>
      split
      · next smaller =>
          refine Eq.symm (Option.eq_none_iff_forall_not_mem.2 fun value found => ?_)
          have member := mem_toList_iff.2 found
          rw [split, List.mem_append, List.mem_cons] at member
          rcases member with inFront | rfl | behind
          · cases listed.symm.trans (lookup_eq_some_of_mem frontAscending inFront)
          · exact String.lt_irrefl _ smaller
          · exact String.lt_irrefl _ (String.lt_trans smaller (above _ behind))
      · rfl

section Mapping

variable (f : β → γ) (self : NameMap β) (name : String)

theorem lookup_map (entries : List (String × β)) :
    lookup name (entries.map fun entry => (entry.1, f entry.2)) =
      (lookup name entries).map f := by
  induction entries with
  | nil => rfl
  | cons entry entries ih =>
      simp only [List.map_cons, lookup, ih]
      split <;> rfl

@[simp]
theorem find?_map : (self.map f).find? name = (self.find? name).map f :=
  lookup_map f name self.entries

@[simp]
theorem contains_map : (self.map f).contains name = self.contains name := by
  rw [contains, contains, find?_map, Option.isSome_map]

@[simp]
theorem values_map : (self.map f).values = self.values.map f := by
  simp [values, map]

theorem map_insert (value : β) :
    (self.insert name value).map f = (self.map f).insert name (f value) := by
  refine ext_find? fun other => ?_
  simp only [find?_map, find?_insert]
  split <;> rfl

theorem map_erase : (self.erase name).map f = (self.map f).erase name := by
  refine ext_find? fun other => ?_
  simp only [find?_map, find?_erase]
  split <;> rfl

end Mapping

/-- Values are added under names of their own that were free, and everything else stays
in its place. -/
structure Includes (name : β → String) (before : NameMap β) (values : List β)
    (after : NameMap β) : Prop where
  fresh : ∀ value ∈ values, before.contains (name value) = false
  distinct : (values.map name).Nodup
  found : ∀ value ∈ values, after.find? (name value) = some value
  kept : ∀ other, other ∉ values.map name → after.find? other = before.find? other

namespace Includes

variable {name : β → String} {before after : NameMap β} {value : β} {values : List β}

theorem nil (name : β → String) (map : NameMap β) : Includes name map [] map where
  fresh := nofun
  distinct := List.nodup_nil
  found := nofun
  kept _ _ := rfl

/-- The first value is added to a map, and the others to what that gives. -/
theorem cons (free : before.contains (name value) = false)
    (later : Includes name (before.insert (name value) value) values after) :
    Includes name before (value :: values) after := by
  have notLater : name value ∉ values.map name := by
    intro listed
    obtain ⟨twin, member, same⟩ := List.mem_map.1 listed
    have taken := contains_eq_false_iff.1 (later.fresh twin member)
    rw [find?_insert, if_pos same] at taken
    cases taken
  constructor
  · refine List.forall_mem_cons.2 ⟨free, fun other member => ?_⟩
    have different : name other ≠ name value := fun same =>
      notLater (same ▸ List.mem_map_of_mem member)
    have otherFree := contains_eq_false_iff.1 (later.fresh other member)
    rw [find?_insert, if_neg different] at otherFree
    exact contains_eq_false_iff.2 otherFree
  · exact List.nodup_cons.2 ⟨notLater, later.distinct⟩
  · refine List.forall_mem_cons.2 ⟨?_, later.found⟩
    rw [later.kept _ notLater, find?_insert, if_pos rfl]
  · intro other unlisted
    rw [List.map_cons, List.mem_cons, not_or] at unlisted
    rw [later.kept other unlisted.2, find?_insert, if_neg unlisted.1]

theorem contains_iff (includes : Includes name before values after) (key : String) :
    after.contains key = true ↔ before.contains key = true ∨ key ∈ values.map name := by
  by_cases listed : key ∈ values.map name
  · obtain ⟨value, member, rfl⟩ := List.mem_map.1 listed
    simp [contains, includes.found value member, listed]
  · simp [contains, includes.kept key listed, listed]

/-- What is added to an empty map is all that is in it. -/
theorem find?_eq_some_iff (includes : Includes name ∅ values after) (key : String) (value : β) :
    after.find? key = some value ↔ value ∈ values ∧ name value = key := by
  constructor
  · intro found
    by_cases listed : key ∈ values.map name
    · obtain ⟨twin, member, rfl⟩ := List.mem_map.1 listed
      cases (includes.found twin member).symm.trans found
      exact ⟨member, rfl⟩
    · cases (includes.kept key listed).symm.trans found
  · rintro ⟨member, rfl⟩
    exact includes.found value member

end Includes

end NameMap

/-- A finite set of names, listed in ascending order. -/
abbrev NameSet := NameMap Unit

namespace NameSet

def ofNames (names : List String) : NameSet :=
  NameMap.ofList (names.map fun name => (name, ()))

end NameSet

end CommandShell
