import SyscallPolicy.Proofs.Toml.Spelling

/-!
# Tables of keys

What a table in the making has room for, and what it holds in the end.  Adding a pair
changes the entry of its first part and no other one (`lookup_addPair`).  So a table that has
room for a key keeps it while keys that are apart from it are added (`hasRoom_addPair`), and
keys that are apart make a table (`tableOf?_of_apart`).
-/

namespace SyscallPolicy.Toml

variable {entries entries' : Entries} {pair : Pair} {name : String}

/-! ## One entry -/

theorem lookup_cons_ite {α : Type} (name key : String) (value : α) (rest : List (String × α)) :
    ((key, value) :: rest).lookup name = if name = key then some value else rest.lookup name := by
  rw [List.lookup_cons]
  split_ifs with heq
  · rw [beq_iff_eq.mpr heq]
  · rw [beq_false_of_ne heq]

/-- What a change of one entry does: it hangs on this entry alone, and the others stay. -/
theorem alter_cases {change : Option Node → Option Node}
    (haltered : alter name change entries = some entries') :
    ∃ node, change (entries.lookup name) = some node ∧ entries'.lookup name = some node ∧
      ∀ other, other ≠ name → entries'.lookup other = entries.lookup other := by
  induction entries generalizing entries' with
  | nil =>
    obtain ⟨node, hchange, rfl⟩ := Option.map_eq_some_iff.mp haltered
    exact ⟨node, hchange, by simp, fun other hother => by simp [lookup_cons_ite, hother]⟩
  | cons entry rest ih =>
    obtain ⟨key, node⟩ := entry
    rw [alter] at haltered
    split_ifs at haltered with heq
    · subst heq
      obtain ⟨changed, hchange, rfl⟩ := Option.map_eq_some_iff.mp haltered
      refine ⟨changed, by simpa using hchange, by simp, fun other hother => ?_⟩
      simp only [lookup_cons_ite, hother, if_false]
    · obtain ⟨altered, hrest, rfl⟩ := Option.map_eq_some_iff.mp haltered
      obtain ⟨changed, hchange, hname, hothers⟩ := ih hrest
      have hne : name ≠ key := Ne.symm heq
      refine ⟨changed, by rwa [lookup_cons_ite, if_neg hne],
        by rwa [lookup_cons_ite, if_neg hne], fun other hother => ?_⟩
      rw [lookup_cons_ite, lookup_cons_ite, hothers other hother]

/-- An entry that can be changed is. -/
theorem exists_alter {change : Option Node → Option Node} {node : Node}
    (hchange : change (entries.lookup name) = some node) :
    ∃ entries', alter name change entries = some entries' := by
  induction entries with
  | nil => exact ⟨[(name, node)], by simpa [alter] using hchange⟩
  | cons entry rest ih =>
    obtain ⟨key, old⟩ := entry
    rw [alter]
    split_ifs with heq
    · subst heq
      exact ⟨(key, node) :: rest, by simpa using hchange⟩
    · rw [lookup_cons_ite, if_neg (Ne.symm heq)] at hchange
      obtain ⟨altered, haltered⟩ := ih hchange
      exact ⟨(key, old) :: altered, by rw [haltered]; rfl⟩

/-- A new entry stands behind the others. -/
theorem alter_new {change : Option Node → Option Node} {node : Node}
    (hnew : ∀ entry ∈ entries, entry.1 ≠ name) (hchange : change none = some node) :
    alter name change entries = some (entries ++ [(name, node)]) := by
  induction entries with
  | nil => simp [alter, hchange]
  | cons entry rest ih =>
    rw [List.forall_mem_cons] at hnew
    rw [alter, if_neg hnew.1, ih hnew.2]
    rfl

/-- The value of an entry. -/
theorem lookup_entryValues (entries : Entries) (name : String) :
    (entryValues entries).lookup name = (entries.lookup name).map Node.value := by
  induction entries with
  | nil => rfl
  | cons entry rest ih =>
    obtain ⟨key, node⟩ := entry
    rw [entryValues, List.lookup_cons, List.lookup_cons, ih]
    cases name == key <;> rfl

/-! ## Keys and their values -/

/-- What gives a new entry its value. -/
def put (value : Toml) : Option Node → Option Node
  | none => some (.leaf value)
  | some _ => none

/-- A key without points sets its entry, which is new. -/
theorem addPair_plain (entries : Entries) (key : String) (value : Toml) :
    addPair entries ⟨[], key, value⟩ = alter key (put value) entries := by
  simp only [addPair, descend, ne_eq, not_true_eq_false, false_and, if_false]
  congr 1

/-- A key with points changes the entry of its first part: it makes a table there, or adds
to a table that such keys have made. -/
theorem addPair_cons (first : String) (path : List String) (key : String) (value : Toml) :
    ∃ change : Option Node → Option Node,
      (∀ entries, addPair entries ⟨first :: path, key, value⟩ = alter first change entries) ∧
      change none = (addPair [] ⟨path, key, value⟩).map (.table .dotted) ∧
      ∀ inner, change (some (.table .dotted inner)) =
        (addPair inner ⟨path, key, value⟩).map (.table .dotted) := by
  refine ⟨_, fun entries => by rw [addPair, descend], ?_, fun inner => ?_⟩
  all_goals cases path <;> simp [addPair, descend]

/-- What adding a pair does: only the entry of its first part changes. -/
theorem lookup_addPair (hadded : addPair entries pair = some entries')
    (hname : name ≠ pair.first) : entries'.lookup name = entries.lookup name := by
  obtain ⟨path, key, value⟩ := pair
  cases path with
  | nil =>
    rw [addPair_plain] at hadded
    obtain ⟨-, -, -, hothers⟩ := alter_cases hadded
    exact hothers name hname
  | cons first path =>
    obtain ⟨change, hchange, -, -⟩ := addPair_cons first path key value
    rw [hchange] at hadded
    obtain ⟨-, -, -, hothers⟩ := alter_cases hadded
    exact hothers name hname

theorem lookup_addPairs {pairs : List Pair} (hadded : addPairs pairs entries = some entries')
    (hname : ∀ pair ∈ pairs, pair.first ≠ name) :
    entries'.lookup name = entries.lookup name := by
  induction pairs generalizing entries with
  | nil =>
    obtain rfl : entries = entries' := by simpa [addPairs] using hadded
    rfl
  | cons pair rest ih =>
    rw [List.forall_mem_cons] at hname
    rw [addPairs, List.foldlM_cons] at hadded
    obtain ⟨next, hnext, hrest⟩ := Option.bind_eq_some_iff.mp hadded
    rw [ih hrest hname.2, lookup_addPair hnext hname.1.symm]

/-- Whether a table has room for a key: the entry of the first part is missing, or it is a
table made by keys with points, and has room for the rest. -/
def HasRoom (entries : Entries) : List String → Prop
  | [] => False
  | [key] => entries.lookup key = none
  | first :: rest => entries.lookup first = none ∨
      ∃ inner, entries.lookup first = some (.table .dotted inner) ∧ HasRoom inner rest

theorem hasRoom_nil {parts : List String} (hparts : parts ≠ []) : HasRoom [] parts := by
  match parts with
  | [_] => rfl
  | _ :: _ :: _ => exact .inl rfl

/-- Room hangs on the entry of the first part alone. -/
theorem hasRoom_congr {first : String} (hlookup : entries'.lookup first = entries.lookup first)
    (rest : List String) : HasRoom entries' (first :: rest) ↔ HasRoom entries (first :: rest) := by
  cases rest <;> simp only [HasRoom, hlookup]

theorem hasRoom_cons {first : String} {rest : List String} (hrest : rest ≠ []) :
    HasRoom entries (first :: rest) ↔ entries.lookup first = none ∨
      ∃ inner, entries.lookup first = some (.table .dotted inner) ∧ HasRoom inner rest := by
  obtain ⟨second, rest, rfl⟩ := List.exists_cons_of_ne_nil hrest
  rfl

theorem Pair.parts_cons (first : String) (path : List String) (key : String) (value : Toml) :
    (Pair.mk (first :: path) key value).parts = first :: (Pair.mk path key value).parts := rfl

theorem Pair.exists_parts_cons (pair : Pair) : ∃ rest, pair.parts = pair.first :: rest := by
  obtain ⟨_ | ⟨first, path⟩, key, value⟩ := pair
  · exact ⟨[], rfl⟩
  · exact ⟨path ++ [key], rfl⟩

theorem Pair.parts_ne_nil (pair : Pair) : pair.parts ≠ [] := by simp [Pair.parts]

theorem hasRoom_of_lookup_eq_none (hnone : entries.lookup pair.first = none) :
    HasRoom entries pair.parts := by
  obtain ⟨rest, hparts⟩ := pair.exists_parts_cons
  rw [hparts]
  cases rest with
  | nil => exact hnone
  | cons => exact .inl hnone

/-- A pair is added where there is room for its key. -/
theorem exists_addPair (hroom : HasRoom entries pair.parts) :
    ∃ entries', addPair entries pair = some entries' := by
  obtain ⟨path, key, value⟩ := pair
  induction path generalizing entries with
  | nil =>
    have hnone : entries.lookup key = none := hroom
    rw [addPair_plain]
    exact exists_alter (by rw [hnone]; rfl)
  | cons first path ih =>
    obtain ⟨change, hchange, hnew, hinner⟩ := addPair_cons first path key value
    have hparts : (Pair.mk path key value).parts ≠ [] := Pair.parts_ne_nil _
    rw [hchange]
    obtain hnone | ⟨inner, htable, hroom⟩ := (hasRoom_cons hparts).mp hroom
    · obtain ⟨made, hmade⟩ := ih (hasRoom_nil hparts)
      exact exists_alter (by rw [hnone, hnew, hmade]; rfl)
    · obtain ⟨made, hmade⟩ := ih hroom
      exact exists_alter (by rw [htable, hinner, hmade]; rfl)

/-- A table keeps its room for a key when a pair with a key apart from it is added. -/
theorem hasRoom_addPair {parts : List String} (hadded : addPair entries pair = some entries')
    (happart : ¬ pair.parts <+: parts ∧ ¬ parts <+: pair.parts) (hroom : HasRoom entries parts) :
    HasRoom entries' parts := by
  obtain ⟨path, key, value⟩ := pair
  induction path generalizing entries entries' parts with
  | nil =>
    obtain _ | ⟨first, rest⟩ := parts
    · exact hroom.elim
    have hfirst : first ≠ key := by
      rintro rfl
      exact happart.1 ⟨rest, rfl⟩
    exact (hasRoom_congr (lookup_addPair hadded hfirst) rest).mpr hroom
  | cons first path ih =>
    obtain _ | ⟨other, rest⟩ := parts
    · exact hroom.elim
    by_cases hother : other = first
    swap
    · exact (hasRoom_congr (lookup_addPair hadded hother) rest).mpr hroom
    subst hother
    -- Both keys lead into the table of this entry, where what is left of them is apart.
    obtain ⟨change, hchange, hnew, hinner⟩ := addPair_cons other path key value
    rw [hchange] at hadded
    obtain ⟨node, hnode, hlookup, -⟩ := alter_cases hadded
    have hrest : rest ≠ [] := by
      rintro rfl
      exact happart.2 ⟨_, rfl⟩
    have hinside : ¬ (Pair.mk path key value).parts <+: rest ∧
        ¬ rest <+: (Pair.mk path key value).parts := by
      simpa only [Pair.parts_cons, List.prefix_cons_inj] using happart
    rw [hasRoom_cons hrest] at hroom ⊢
    obtain hnone | ⟨inner, htable, hroom⟩ := hroom
    · rw [hnone, hnew] at hnode
      obtain ⟨made, hmade, rfl⟩ := Option.map_eq_some_iff.mp hnode
      exact .inr ⟨made, hlookup, ih (hasRoom_nil hrest) hmade hinside⟩
    · rw [htable, hinner] at hnode
      obtain ⟨made, hmade, rfl⟩ := Option.map_eq_some_iff.mp hnode
      exact .inr ⟨made, hlookup, ih hroom hmade hinside⟩

/-- Keys that are apart make entries: a key without points has its value there. -/
theorem exists_addPairs {pairs : List Pair} (happart : AreApart pairs)
    (hroom : ∀ pair ∈ pairs, HasRoom entries pair.parts) :
    ∃ entries', addPairs pairs entries = some entries' ∧
      ∀ pair ∈ pairs, pair.path = [] → entries'.lookup pair.key = some (.leaf pair.value) := by
  induction pairs generalizing entries with
  | nil => exact ⟨entries, rfl, by simp⟩
  | cons pair rest ih =>
    obtain ⟨happart, hothers⟩ := List.pairwise_cons.mp happart
    rw [List.forall_mem_cons] at hroom
    obtain ⟨added, hadded⟩ := exists_addPair hroom.1
    obtain ⟨entries', hrest, hplain⟩ := ih hothers fun other hother =>
      hasRoom_addPair hadded (happart other hother) (hroom.2 other hother)
    refine ⟨entries', by rw [addPairs, List.foldlM_cons, hadded]; exact hrest,
      List.forall_mem_cons.mpr ⟨fun hpath => ?_, hplain⟩⟩
    -- The pair has its value now, and the others leave its entry alone.
    obtain ⟨path, key, value⟩ := pair
    obtain rfl : path = [] := hpath
    have hframe : ∀ other ∈ rest, other.first ≠ key := by
      rintro other hother rfl
      obtain ⟨more, hmore⟩ := other.exists_parts_cons
      exact (happart other hother).1 ⟨more, hmore.symm⟩
    rw [addPair_plain] at hadded
    obtain ⟨node, hnode, hlookup, -⟩ := alter_cases hadded
    rw [show entries.lookup key = none from hroom.1] at hnode
    rw [lookup_addPairs hrest hframe, hlookup]
    exact hnode.symm

/-- Entries are the table of their pairs. -/
theorem tableOf?_of_addPairs {pairs : List Pair} (hadded : addPairs pairs [] = some entries) :
    tableOf? pairs [] = some (.table (entryValues entries)) := by
  simp [tableOf?, hadded]

theorem tableOf_of_addPairs {pairs : List Pair} (hadded : addPairs pairs [] = some entries) :
    tableOf pairs = .table (entryValues entries) := by
  rw [tableOf, tableOf?_of_addPairs hadded, Option.getD_some]

/-- Keys that are apart make a table. -/
theorem tableOf?_of_apart {pairs : List Pair} (happart : AreApart pairs) :
    tableOf? pairs [] = some (tableOf pairs) := by
  obtain ⟨entries, hadded, -⟩ :=
    exists_addPairs happart fun pair _ => hasRoom_nil pair.parts_ne_nil
  rw [tableOf?_of_addPairs hadded, tableOf_of_addPairs hadded]

/-- The pair of an entry: its key has no points. -/
def Pair.ofEntry (entry : String × Toml) : Pair :=
  ⟨[], entry.1, entry.2⟩

/-- Different keys without points are apart. -/
theorem areApart_ofEntry {values : List (String × Toml)} (hdistinct : (values.map Prod.fst).Nodup) :
    AreApart (values.map Pair.ofEntry) := by
  rw [AreApart, List.pairwise_map]
  refine (List.pairwise_map.mp hdistinct).imp fun {entry other} hne => ?_
  simp [Pair.ofEntry, Pair.parts, hne, Ne.symm hne]

theorem entryValues_append_leaf (entries : Entries) (values : List (String × Toml)) :
    entryValues (entries ++ values.map fun entry => (entry.1, .leaf entry.2)) =
      entryValues entries ++ values := by
  induction entries with
  | nil =>
    induction values with
    | nil => rfl
    | cons entry rest ih => simpa [entryValues, Node.value] using ih
  | cons entry rest ih => simp [entryValues, ih]

/-- Different keys without points get their entries in order, behind those that are there. -/
theorem addPairs_ofEntry {values : List (String × Toml)}
    (hdistinct : (values.map Prod.fst).Nodup)
    (hnew : ∀ value ∈ values, ∀ entry ∈ entries, entry.1 ≠ value.1) :
    addPairs (values.map Pair.ofEntry) entries =
      some (entries ++ values.map fun entry => (entry.1, .leaf entry.2)) := by
  induction values generalizing entries with
  | nil => simp [addPairs]
  | cons value rest ih =>
    rw [List.forall_mem_cons] at hnew
    rw [List.map_cons, List.nodup_cons] at hdistinct
    have hadded : addPair entries (.ofEntry value) =
        some (entries ++ [(value.1, .leaf value.2)]) := by
      rw [Pair.ofEntry, addPair_plain]
      exact alter_new hnew.1 rfl
    have hnext : ∀ other ∈ rest, ∀ entry ∈ entries ++ [(value.1, Node.leaf value.2)],
        entry.1 ≠ other.1 := by
      intro other hother entry hentry
      obtain hentry | hentry := List.mem_append.mp hentry
      · exact hnew.2 other hother entry hentry
      · obtain rfl := List.mem_singleton.mp hentry
        exact fun heq => hdistinct.1 (List.mem_map.mpr ⟨other, hother, heq.symm⟩)
    rw [List.map_cons, addPairs, List.foldlM_cons, hadded]
    exact (ih hdistinct.2 hnext).trans (by simp)

/-- The table of keys without points is made of their entries, in their order. -/
theorem tableOf_ofEntry {values : List (String × Toml)} (hdistinct : (values.map Prod.fst).Nodup) :
    tableOf (values.map Pair.ofEntry) = .table values := by
  rw [tableOf_of_addPairs (addPairs_ofEntry hdistinct (by simp)), entryValues_append_leaf]
  rfl

end SyscallPolicy.Toml
