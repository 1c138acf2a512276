import SyscallPolicy.Proofs.Toml.Tree

/-!
# Tables of sections

What becomes of the sections of a document that are tables of their own, whatever else the
document holds.  A section hangs on the entry of its first part alone
(`exists_addSection_eq`).  So the document is read like the one without such a section, up to
its header; from there on two runs go side by side, and the first stays ahead of the second by
what the section has added (`IsAhead`).  Taking the sections out one by one gives the tables
of all of them (`exists_tableOf?_sections`).
-/

namespace SyscallPolicy.Toml

variable {entries entries' : Entries} {pair : Pair} {name : String}
  {part : Section} {names : List String} {parts : List Section}

/-- A section changes the entry of its first part, and looks at no other one. -/
theorem exists_addSection_eq (part : Section) : ∃ change : Option Node → Option Node,
    ∀ entries, addSection entries part = alter part.first change entries := by
  obtain ⟨isArray, path, key, pairs⟩ := part
  cases path with
  | nil => exact ⟨complete ⟨isArray, [], key, pairs⟩, fun entries => rfl⟩
  | cons first path => exact ⟨_, fun entries => by rw [addSection, descend, Section.first]; rfl⟩

/-- What the section does to the entry of its first part, if it is a section below it: it
stands in the table there as a section of its own. -/
theorem addSection_below {first : String} (hfirst : part.path.head? = some first) :
    ∃ change : Option Node → Option Node,
      (∀ entries, addSection entries part = alter first change entries) ∧
      change none = (addSection [] part.below).map (.table .passed) ∧
      ∀ origin inner, change (some (.table origin inner)) =
        (addSection inner part.below).map (.table origin) := by
  obtain ⟨isArray, path, key, pairs⟩ := part
  obtain ⟨path, rfl⟩ := List.head?_eq_some_iff.mp hfirst
  have hcomplete : complete ⟨isArray, first :: path, key, pairs⟩ =
      complete ⟨isArray, path, key, pairs⟩ := rfl
  refine ⟨_, fun entries => by rw [addSection, descend], ?_, fun origin inner => ?_⟩
  all_goals
    cases path
    all_goals simp only [addSection, Section.below, List.tail_cons, descend, hcomplete,
      reduceCtorEq, false_and, if_false]

/-- A section makes the same of entries that agree where it stands.  It leaves those alone
that may not agree. -/
theorem exists_addSection_of_same {others others' : Entries}
    (hsame : ∀ name, name ∉ names → entries.lookup name = others.lookup name)
    (hother : part.first ∉ names) (hadded : addSection others part = some others') :
    ∃ entries', addSection entries part = some entries' ∧
      (∀ name, name ∉ names → entries'.lookup name = others'.lookup name) ∧
      ∀ name ∈ names, entries'.lookup name = entries.lookup name := by
  obtain ⟨change, hchange⟩ := exists_addSection_eq part
  rw [hchange] at hadded
  obtain ⟨node, hnode, hlookup, hframe⟩ := alter_cases hadded
  rw [← hsame _ hother] at hnode
  obtain ⟨entries', haltered⟩ := exists_alter hnode
  obtain ⟨node', hnode', hlookup', hframe'⟩ := alter_cases haltered
  obtain rfl : node = node' := Option.some.inj (hnode.symm.trans hnode')
  refine ⟨entries', by rw [hchange, haltered], fun name hname => ?_, fun name hname => ?_⟩
  · by_cases heq : name = part.first
    · rw [heq, hlookup, hlookup']
    · rw [hframe' name heq, hframe name heq, hsame name hname]
  · exact hframe' name (by rintro rfl; exact hother hname)

/-! ## A table that only sections below it have made -/

/-- What entries a node holds that was passed at most: none, if it is missing. -/
def PassedEntries (node : Option Node) (inner : Entries) : Prop :=
  (node = none ∧ inner = []) ∨ node = some (.table .passed inner)

/-- A section below a table that was passed at most is added inside. -/
theorem exists_addSection_inside {inner : Entries}
    (hpassed : PassedEntries (entries.lookup name) inner)
    (hfirst : part.path.head? = some name) (hadded : addSection entries part = some entries') :
    ∃ inner', addSection inner part.below = some inner' ∧
      entries'.lookup name = some (.table .passed inner') := by
  obtain ⟨change, hchange, hnone, hsome⟩ := addSection_below hfirst
  rw [hchange] at hadded
  obtain ⟨node, hnode, hlookup, -⟩ := alter_cases hadded
  have hboth : change (entries.lookup name) =
      (addSection inner part.below).map (.table .passed) := by
    rcases hpassed with ⟨hentry, rfl⟩ | hentry
    · rw [hentry, hnone]
    · rw [hentry, hsome]
  rw [hboth] at hnode
  obtain ⟨inner', hinner', rfl⟩ := Option.map_eq_some_iff.mp hnode
  exact ⟨inner', hinner', hlookup⟩

/-- What adding a section does: only the entry of its first part changes. -/
theorem lookup_addSection (hadded : addSection entries part = some entries')
    (hname : name ≠ part.first) : entries'.lookup name = entries.lookup name := by
  obtain ⟨change, hchange⟩ := exists_addSection_eq part
  rw [hchange] at hadded
  obtain ⟨-, -, -, hothers⟩ := alter_cases hadded
  exact hothers name hname

/-- A section that is not called like a table may stand below it. -/
theorem Section.head?_of_not_isNamed (hnamed : ¬ part.IsNamed name) (hname : name = part.first) :
    part.path.head? = some name := by
  obtain ⟨isArray, _ | ⟨first, path⟩, key, pairs⟩ := part
  · exact absurd ⟨rfl, hname.symm⟩ hnamed
  · exact congrArg some hname.symm

/-- Sections that are not called like a table leave it at most passed, with what stands below
it inside. -/
theorem exists_passedEntries {below : List String} {inner : Entries}
    (hpassed : PassedEntries (entries.lookup name) inner)
    (habsent : ∀ key, key ∉ below → inner.lookup key = none)
    (hnamed : ∀ part ∈ parts, ¬ part.IsNamed name)
    (hbelow : ∀ part ∈ parts, part.path.head? = some name → part.below.first ∈ below)
    (hadded : parts.foldlM addSection entries = some entries') :
    ∃ inner', PassedEntries (entries'.lookup name) inner' ∧
      ∀ key, key ∉ below → inner'.lookup key = none := by
  induction parts generalizing entries inner with
  | nil =>
    obtain rfl : entries = entries' := by simpa using hadded
    exact ⟨inner, hpassed, habsent⟩
  | cons part rest ih =>
    rw [List.forall_mem_cons] at hnamed hbelow
    rw [List.foldlM_cons] at hadded
    obtain ⟨next, hnext, hrest⟩ := Option.bind_eq_some_iff.mp hadded
    by_cases hname : name = part.first
    · have hfirst := Section.head?_of_not_isNamed hnamed.1 hname
      obtain ⟨inside, hinside, hlookup⟩ := exists_addSection_inside hpassed hfirst hnext
      refine ih (.inr hlookup) (fun key hkey => ?_) hnamed.2 hbelow.2 hrest
      have hne : key ≠ part.below.first := by
        rintro rfl
        exact hkey (hbelow.1 hfirst)
      rw [lookup_addSection hinside hne, habsent key hkey]
    · rw [← lookup_addSection hnext hname] at hpassed
      exact ih hpassed habsent hnamed.2 hbelow.2 hrest

/-! ## A table with a header of its own -/

/-- Two runs over sections, of which the first has added the section of a name and the second
has not.  They agree on the other names.  In the first, the name has a table with what the
second holds there and, under these keys, what the section has added. -/
structure IsAhead (name : String) (keys : List String) (added entries others : Entries) : Prop where
  outside : ∀ other, other ≠ name → entries.lookup other = others.lookup other
  inside : ∃ inner below, entries.lookup name = some (.table .header inner) ∧
    PassedEntries (others.lookup name) below ∧
    (∀ key, key ∉ keys → inner.lookup key = below.lookup key) ∧
    ∀ key ∈ keys, inner.lookup key = added.lookup key

/-- A step of the second run is a step of the first, too. -/
theorem IsAhead.exists_addSection {keys : List String} {added others others' : Entries}
    (hahead : IsAhead name keys added entries others) (hnamed : ¬ part.IsNamed name)
    (hbelow : part.path.head? = some name → part.below.first ∉ keys)
    (hadded : addSection others part = some others') :
    ∃ entries', addSection entries part = some entries' ∧
      IsAhead name keys added entries' others' := by
  obtain ⟨inner, below, hlookup, hpassed, hsame, hkeys⟩ := hahead.inside
  by_cases hname : name = part.first
  · have hfirst := Section.head?_of_not_isNamed hnamed hname
    obtain ⟨below', hbelow', hothers'⟩ := exists_addSection_inside hpassed hfirst hadded
    obtain ⟨inner', hinner', hsame', hkept⟩ :=
      exists_addSection_of_same hsame (hbelow hfirst) hbelow'
    obtain ⟨change, hchange, -, hsome⟩ := addSection_below hfirst
    have hchanged : change (entries.lookup name) = some (.table .header inner') := by
      rw [hlookup, hsome, hinner']
      rfl
    obtain ⟨entries', hentries'⟩ := exists_alter hchanged
    obtain ⟨node, hnode, hlookup', hframe⟩ := alter_cases hentries'
    obtain rfl := Option.some.inj (hchanged.symm.trans hnode)
    refine ⟨entries', by rw [hchange, hentries'], fun other hother => ?_, inner', below', hlookup',
      .inr hothers', hsame', fun key hkey => (hkept key hkey).trans (hkeys key hkey)⟩
    rw [hframe other hother, hahead.outside other hother,
      lookup_addSection hadded (by rwa [← hname])]
  · have hsame' : ∀ other, other ∉ [name] → entries.lookup other = others.lookup other :=
      fun other hother => hahead.outside other (by simpa using hother)
    obtain ⟨entries', hentries', houtside, hkept⟩ :=
      exists_addSection_of_same hsame' (by simpa using Ne.symm hname) hadded
    refine ⟨entries', hentries', fun other hother => houtside other (by simpa using hother),
      inner, below, ?_, ?_, hsame, hkeys⟩
    · rw [hkept name (by simp), hlookup]
    · rwa [lookup_addSection hadded hname]

/-- The rest of the second run is one of the first, too. -/
theorem IsAhead.exists_addSections {keys : List String} {added others others' : Entries}
    (hahead : IsAhead name keys added entries others) (hnamed : ∀ part ∈ parts, ¬ part.IsNamed name)
    (hbelow : ∀ part ∈ parts, part.path.head? = some name → part.below.first ∉ keys)
    (hadded : parts.foldlM addSection others = some others') :
    ∃ entries', parts.foldlM addSection entries = some entries' ∧
      IsAhead name keys added entries' others' := by
  induction parts generalizing entries others with
  | nil =>
    obtain rfl : others = others' := by simpa using hadded
    exact ⟨entries, rfl, hahead⟩
  | cons part rest ih =>
    rw [List.forall_mem_cons] at hnamed hbelow
    rw [List.foldlM_cons] at hadded
    obtain ⟨next, hnext, hrest⟩ := Option.bind_eq_some_iff.mp hadded
    obtain ⟨middle, hmiddle, hahead⟩ := hahead.exists_addSection hnamed.1 hbelow.1 hnext
    obtain ⟨entries', hentries', hahead⟩ := ih hahead hnamed.2 hbelow.2 hrest
    exact ⟨entries', by rw [List.foldlM_cons, hmiddle]; exact hentries', hahead⟩

/-- A section with a name of its own puts one run ahead of the other. -/
theorem exists_isAhead {below : List String} {inner : Entries} (hnamed : part.IsNamed name)
    (hsingle : part.isArray = false) (happart : AreApart part.pairs)
    (hpassed : PassedEntries (entries.lookup name) inner)
    (habsent : ∀ key, key ∉ below → inner.lookup key = none)
    (hbelow : ∀ pair ∈ part.pairs, pair.first ∉ below) :
    ∃ entries' added, addSection entries part = some entries' ∧
      addPairs part.pairs inner = some added ∧
      (∀ pair ∈ part.pairs, pair.path = [] → added.lookup pair.key = some (.leaf pair.value)) ∧
      IsAhead name (part.pairs.map Pair.first) added entries' entries := by
  obtain ⟨isArray, path, key, pairs⟩ := part
  obtain rfl : isArray = false := hsingle
  obtain ⟨rfl, rfl⟩ : path = [] ∧ key = name := hnamed
  obtain ⟨added, hadded, hplain⟩ := exists_addPairs happart fun pair hpair =>
    hasRoom_of_lookup_eq_none (habsent pair.first (hbelow pair hpair))
  have hcomplete : complete ⟨false, [], key, pairs⟩ (entries.lookup key) =
      some (.table .header added) := by
    rcases hpassed with ⟨hentry, rfl⟩ | hentry
    · rw [hentry, complete, hadded]
      rfl
    · rw [hentry, complete, hadded]
      rfl
  obtain ⟨entries', haltered⟩ := exists_alter hcomplete
  obtain ⟨node, hnode, hlookup, hframe⟩ := alter_cases haltered
  obtain rfl := Option.some.inj (hcomplete.symm.trans hnode)
  refine ⟨entries', added, haltered, hadded, hplain, hframe, added, inner, hlookup, hpassed, ?_,
    fun _ _ => rfl⟩
  intro other hother
  refine lookup_addPairs hadded fun pair hpair heq => hother ?_
  exact List.mem_map.mpr ⟨pair, hpair, heq⟩

/-! ## All tables of their own -/

/-- Whether a table holds what pairs set in it, and nothing else but what stands below it. -/
structure HoldsPairs (pairs : List Pair) (below : List String) (inner : Entries) : Prop where
  plain : ∀ pair ∈ pairs, pair.path = [] → inner.lookup pair.key = some (.leaf pair.value)
  absent : ∀ key, key ∉ below → (∀ pair ∈ pairs, pair.first ≠ key) → inner.lookup key = none

theorem PassedEntries.unique {node : Option Node} {inner inner' : Entries}
    (h : PassedEntries node inner) (h' : PassedEntries node inner') : inner = inner' := by
  rcases h with ⟨rfl, rfl⟩ | rfl
  · rcases h' with ⟨-, rfl⟩ | h'
    · rfl
    · cases h'
  · rcases h' with ⟨h', -⟩ | h'
    · cases h'
    · cases h'
      rfl

theorem mem_namesBelow (hpart : part ∈ parts) (hfirst : part.path.head? = some name) :
    part.below.first ∈ namesBelow name parts :=
  List.mem_map.mpr ⟨part, List.mem_filter.mpr ⟨hpart, by simpa using hfirst⟩, rfl⟩

/-- Sections without a header for a name leave it at most passed. -/
theorem exists_passedEntries_of_new (hnew : entries.lookup name = none)
    (hnamed : ∀ part ∈ parts, ¬ part.IsNamed name) {below : List String}
    (hbelow : ∀ key ∈ namesBelow name parts, key ∈ below)
    (hadded : parts.foldlM addSection entries = some entries') :
    ∃ inner, PassedEntries (entries'.lookup name) inner ∧
      ∀ key, key ∉ below → inner.lookup key = none :=
  exists_passedEntries (.inl ⟨hnew, rfl⟩) (fun _ _ => rfl) hnamed
    (fun _ hpart hfirst => hbelow _ (mem_namesBelow hpart hfirst)) hadded

/-- A section with a name of its own makes its table among the others, which make what they
make without it. -/
theorem exists_addSections_named {before after : List Section} {others' : Entries}
    (hnew : entries.lookup name = none)
    (hnamed : part.IsNamed name) (hsingle : part.isArray = false) (happart : AreApart part.pairs)
    (hothers : ∀ other ∈ before ++ after, ¬ other.IsNamed name)
    (hbelow : ∀ pair ∈ part.pairs, pair.first ∉ namesBelow name (before ++ after))
    (hadded : (before ++ after).foldlM addSection entries = some others') :
    ∃ entries' inner, (before ++ part :: after).foldlM addSection entries = some entries' ∧
      (∀ other, other ≠ name → entries'.lookup other = others'.lookup other) ∧
      entries'.lookup name = some (.table .header inner) ∧
      HoldsPairs part.pairs (namesBelow name (before ++ after)) inner := by
  obtain ⟨last, hlast, hfree⟩ :=
    exists_passedEntries_of_new hnew hothers (fun _ hkey => hkey) hadded
  rw [List.foldlM_append] at hadded
  obtain ⟨middle, hmiddle, hadded⟩ := Option.bind_eq_some_iff.mp hadded
  have hsub : ∀ key ∈ namesBelow name before, key ∈ namesBelow name (before ++ after) := by
    intro key hkey
    simp only [namesBelow, List.filter_append, List.map_append]
    exact List.mem_append_left _ hkey
  obtain ⟨first, hfirst, habsent⟩ := exists_passedEntries_of_new hnew
    (fun other hother => hothers other (List.mem_append_left _ hother)) hsub hmiddle
  obtain ⟨next, added, hnext, -, hplain, hahead⟩ :=
    exists_isAhead hnamed hsingle happart hfirst habsent hbelow
  obtain ⟨entries', hentries', houtside, inner, below, hlookup, hpassed, hsame, hkeys⟩ :=
    hahead.exists_addSections (fun other hother => hothers other (List.mem_append_right _ hother))
      (fun other hother hhead hmem => by
        obtain ⟨pair, hpair, heq⟩ := List.mem_map.mp hmem
        exact hbelow pair hpair (heq ▸ mem_namesBelow (List.mem_append_right _ hother) hhead))
      hadded
  obtain rfl := hpassed.unique hlast
  refine ⟨entries', inner, ?_, houtside, hlookup, fun pair hpair hpath => ?_,
    fun key hkey hne => ?_⟩
  · rw [List.foldlM_append, hmiddle, Option.bind_eq_bind, Option.bind_some, List.foldlM_cons, hnext]
    exact hentries'
  · have hmem : pair.key ∈ part.pairs.map Pair.first :=
      List.mem_map.mpr ⟨pair, hpair, by rw [Pair.first, hpath]; rfl⟩
    rw [hkeys pair.key hmem, hplain pair hpair hpath]
  · have hmem : key ∉ part.pairs.map Pair.first := by
      rintro hmem
      obtain ⟨pair, hpair, heq⟩ := List.mem_map.mp hmem
      exact hne pair hpair heq
    rw [hsame key hmem, hfree key hkey]

/-! The sections with one name do not matter for the table of another one. -/

section Others

variable {other : String}

theorem filter_isNamed_filter (hne : other ≠ name) (parts : List Section) :
    ((parts.filter fun part => ¬ part.IsNamed other).filter fun part => part.IsNamed name) =
      parts.filter fun part => part.IsNamed name := by
  rw [List.filter_filter]
  refine List.filter_congr fun part _ => ?_
  by_cases hnamed : part.IsNamed name
  · have hother : ¬ part.IsNamed other := fun h => hne (h.2.symm.trans hnamed.2)
    simp [hnamed, hother]
  · simp [hnamed]

theorem pairsOf_filter (hne : other ≠ name) (parts : List Section) :
    pairsOf name (parts.filter fun part => ¬ part.IsNamed other) = pairsOf name parts := by
  rw [pairsOf, pairsOf, filter_isNamed_filter hne]

theorem namesBelow_filter (name other : String) (parts : List Section) :
    namesBelow name (parts.filter fun part => ¬ part.IsNamed other) = namesBelow name parts := by
  rw [namesBelow, namesBelow, List.filter_filter]
  refine congrArg _ (List.filter_congr fun part _ => ?_)
  by_cases hfirst : part.path.head? = some name
  · have hother : ¬ part.IsNamed other := fun h => by simp [h.1] at hfirst
    simp [hfirst, hother]
  · simp [hfirst]

theorem IsTable.filter (hne : other ≠ name) (htable : IsTable name parts) :
    IsTable name (parts.filter fun part => ¬ part.IsNamed other) where
  once := by
    rw [filter_isNamed_filter hne]
    exact htable.once
  single part hpart := htable.single part (List.mem_filter.mp hpart).1
  apart := by
    rw [pairsOf_filter hne]
    exact htable.apart
  below_ne := by
    rw [pairsOf_filter hne, namesBelow_filter]
    exact htable.below_ne

end Others

/-- A section that alone has a name stands between others that do not have it. -/
theorem exists_around (hmine : (parts.filter fun part => part.IsNamed name) = [part]) :
    ∃ before after, parts = before ++ part :: after ∧ part.IsNamed name ∧
      (∀ other ∈ before ++ after, ¬ other.IsNamed name) ∧
      (parts.filter fun part => ¬ part.IsNamed name) = before ++ after := by
  obtain ⟨before, after, rfl, hbefore, hnamed, hafter⟩ := List.filter_eq_cons_iff.mp hmine
  have hothers : ∀ other ∈ before ++ after, ¬ other.IsNamed name := by
    rw [List.filter_eq_nil_iff] at hafter
    exact List.forall_mem_append.mpr ⟨by simpa using hbefore, by simpa using hafter⟩
  refine ⟨before, after, rfl, of_decide_eq_true hnamed, hothers, ?_⟩
  rw [List.filter_append, List.filter_cons_of_neg (by simpa using hnamed),
    ← List.filter_append, List.filter_eq_self.mpr (by simpa using hothers)]

/-- Whether an entry is a table with these entries, or missing when there are none. -/
def IsTableOf (node : Option Node) (inner : Entries) : Prop :=
  (node = none ∧ inner = []) ∨ ∃ origin, node = some (.table origin inner)

/-- Sections make the tables of all names that are their own. -/
theorem exists_addSections {others' : Entries} (hnodup : names.Nodup)
    (hnew : ∀ name ∈ names, entries.lookup name = none)
    (htables : ∀ name ∈ names, IsTable name parts)
    (hothers : (parts.filter fun part => ∀ name ∈ names, ¬ part.IsNamed name).foldlM addSection
      entries = some others') :
    ∃ entries', parts.foldlM addSection entries = some entries' ∧
      ∀ name ∈ names, ∃ inner, IsTableOf (entries'.lookup name) inner ∧
        HoldsPairs (pairsOf name parts) (namesBelow name parts) inner := by
  induction names generalizing parts with
  | nil =>
    rw [List.filter_eq_self.mpr (by simp)] at hothers
    exact ⟨others', hothers, by simp⟩
  | cons name names ih =>
    rw [List.forall_mem_cons] at hnew htables
    obtain ⟨hname, hnodup⟩ := List.nodup_cons.mp hnodup
    have hne : ∀ other ∈ names, name ≠ other := by
      rintro other hother rfl
      exact hname hother
    have hfilter : (parts.filter fun part => ∀ other ∈ name :: names, ¬ part.IsNamed other) =
        (parts.filter fun part => ¬ part.IsNamed name).filter
          fun part => ∀ other ∈ names, ¬ part.IsNamed other := by
      rw [List.filter_filter]
      refine List.filter_congr fun part _ => ?_
      simp [Bool.and_comm]
    obtain ⟨others, hadded, hholds⟩ := ih hnodup hnew.2
      (fun other hother => (htables.2 other hother).filter (hne other hother))
      (hfilter ▸ hothers)
    have hkept : ∀ other ∈ names, ∃ inner, IsTableOf (others.lookup other) inner ∧
        HoldsPairs (pairsOf other parts) (namesBelow other parts) inner := by
      intro other hother
      have hinner := hholds other hother
      rwa [pairsOf_filter (hne other hother), namesBelow_filter] at hinner
    -- The name has no header at all, or one that is put in among the other sections.
    cases hmine : parts.filter fun part => part.IsNamed name with
    | nil =>
      have hnamed : ∀ part ∈ parts, ¬ part.IsNamed name := by
        simpa using List.filter_eq_nil_iff.mp hmine
      rw [List.filter_eq_self.mpr (by simpa using hnamed)] at hadded
      obtain ⟨inner, hpassed, habsent⟩ :=
        exists_passedEntries_of_new hnew.1 hnamed (fun _ hkey => hkey) hadded
      refine ⟨others, hadded, List.forall_mem_cons.mpr ⟨⟨inner, ?_, ?_⟩, hkept⟩⟩
      · exact hpassed.imp_right fun hentry => ⟨_, hentry⟩
      · exact ⟨by simp [pairsOf, hmine], fun key hkey _ => habsent key hkey⟩
    | cons part more =>
      obtain rfl : more = [] := by simpa [hmine] using htables.1.once
      have hpairs : pairsOf name parts = part.pairs := by simp [pairsOf, hmine]
      have happart := htables.1.apart
      have hbelow := htables.1.below_ne
      have hnames := namesBelow_filter name name parts
      obtain ⟨before, after, hparts, hnamed, hothers, hrest⟩ := exists_around hmine
      have hsingle := htables.1.single part (by simp [hparts]) hnamed
      rw [hrest] at hadded hnames
      rw [hpairs] at happart hbelow
      rw [← hnames] at hbelow
      obtain ⟨entries', inner, hentries', houtside, hlookup, hinner⟩ :=
        exists_addSections_named hnew.1 hnamed hsingle happart hothers hbelow hadded
      rw [← hparts] at hentries'
      refine ⟨entries', hentries', List.forall_mem_cons.mpr ⟨⟨inner, .inr ⟨_, hlookup⟩, ?_⟩, ?_⟩⟩
      · rwa [hpairs, ← hnames]
      · intro other hother
        rw [houtside other (hne other hother).symm]
        exact hkept other hother

/-- The table of a document with tables of their own for these names: what each of them holds
is what the pairs behind its header set, and what stands below it. -/
theorem exists_tableOf?_sections {top : List Pair} (hnodup : names.Nodup)
    (hsections : AreSections names top parts) :
    ∃ values, tableOf? top parts = some (.table values) ∧
      ∀ name ∈ names, ∃ inner : List (String × Toml),
        (values.lookup name = some (.table inner) ∨ (values.lookup name = none ∧ inner = [])) ∧
        (∀ pair ∈ pairsOf name parts, pair.path = [] → inner.lookup pair.key = some pair.value) ∧
        ∀ key, key ∉ namesBelow name parts → (∀ pair ∈ pairsOf name parts, pair.first ≠ key) →
          inner.lookup key = none := by
  obtain ⟨document, hdocument⟩ := Option.isSome_iff_exists.mp hsections.others
  obtain ⟨entries, htop, hdocument⟩ := Option.bind_eq_some_iff.mp hdocument
  obtain ⟨others, hothers, -⟩ := Option.bind_eq_some_iff.mp hdocument
  have hnew : ∀ name ∈ names, entries.lookup name = none := by
    intro name hname
    exact lookup_addPairs htop fun pair hpair heq => hsections.top_ne pair hpair (heq ▸ hname)
  obtain ⟨entries', hparts, htables⟩ :=
    exists_addSections hnodup hnew hsections.tables hothers
  refine ⟨entryValues entries', by simp [tableOf?, htop, hparts], fun name hname => ?_⟩
  obtain ⟨inner, hentry, hplain, habsent⟩ := htables name hname
  refine ⟨entryValues inner, ?_, fun pair hpair hpath => ?_, fun key hkey hne => ?_⟩
  · rw [lookup_entryValues]
    rcases hentry with ⟨hentry, rfl⟩ | ⟨origin, hentry⟩
    · exact .inr ⟨by rw [hentry]; rfl, rfl⟩
    · exact .inl (by rw [hentry]; rfl)
  · rw [lookup_entryValues, hplain pair hpair hpath]
    rfl
  · rw [lookup_entryValues, habsent key hkey hne]
    rfl

end SyscallPolicy.Toml
