import SyscallPolicy.Profile.Spelling
import SyscallPolicy.Proofs.Json.Sound
import SyscallPolicy.Proofs.Profile.RoundTrip

/-!
# The documents that are read

`Profile.Spelling` says which documents stand for a profile by their shape
alone.  Here the reader is shown to accept these and no others, and to
return the profile that they stand for.

* A part of a document that stands for something is read, and what is read
  stands for it: an identifier (`Json.identifier?_eq_some_iff`), a list
  (`Json.listOf?_eq_some_iff`), a member that must occur
  (`Json.member?_eq_some_some_iff`), one that may be absent
  (`Json.holdsOr_iff`), and its place in an array (`Json.itemOr_iff`).
* From these follow the values of an action, an architecture, a rule
  (`Rule.ofJson?_eq_some_iff`) and a profile (`Profile.ofJson?_eq_some_iff`).
* With the JSON reader of `Proofs.Json.Sound` the same holds of texts
  (`Profile.ofText?_eq_some_iff`).
-/

namespace SyscallPolicy

open Json (Symbol textOf? member? listOf? unitVariant?)
open Profile (partOr)

/-! ## The parts of a document -/

namespace Json

theorem string?_eq_some_iff (value : Json) (content : String) :
    value.string? = some content ↔ value.Holds content := by
  refine ⟨fun hread => ?_, ?_⟩
  · cases value with
    | string symbols => exact .of hread
    | _ => cases hread
  · rintro ⟨htext⟩
    exact htext

theorem unitVariant?_eq_some_iff {value : Json} {identifier : String} :
    value.unitVariant? = some identifier ↔
      ∃ key, value = .object [(key, .null)] ∧ textOf? key = some identifier := by
  refine ⟨fun hread => ?_, ?_⟩
  · unfold unitVariant? at hread
    split at hread
    · exact ⟨_, rfl, hread⟩
    · cases hread
  · rintro ⟨key, rfl, htext⟩
    exact htext

theorem string?_eq_none_of_unitVariant? {value : Json} {identifier : String}
    (hread : value.unitVariant? = some identifier) : value.string? = none := by
  obtain ⟨key, rfl, -⟩ := unitVariant?_eq_some_iff.mp hread
  rfl

/-- An identifier is read from a string or from an object with one key. -/
theorem names_iff {value : Json} {identifier : String} :
    value.Names identifier ↔
      value.string? = some identifier ∨ value.unitVariant? = some identifier := by
  refine ⟨?_, ?_⟩
  · rintro (⟨htext⟩ | ⟨htext⟩)
    · exact Or.inl htext
    · exact Or.inr htext
  · rintro (hstring | hvariant)
    · obtain ⟨htext⟩ := (string?_eq_some_iff _ _).mp hstring
      exact .string htext
    · obtain ⟨key, rfl, htext⟩ := unitVariant?_eq_some_iff.mp hvariant
      exact .variant htext

theorem identifier?_eq_some_iff {value : Json} {identifier : String} :
    (value.string? <|> value.unitVariant?) = some identifier ↔ value.Names identifier := by
  rw [names_iff, Option.orElse_eq_orElse, Option.orElse_eq_or, Option.or_eq_some_iff]
  refine or_congr_right ⟨fun hread => hread.2, fun hread => ?_⟩
  exact ⟨string?_eq_none_of_unitVariant? hread, hread⟩

section Lists

variable {α : Type} {item? : Json → Option α} {spells : Json → α → Prop}
  (hitem : ∀ value x, item? value = some x ↔ spells value x)
include hitem

theorem mapM_eq_some_iff {items : List Json} {xs : List α} :
    items.mapM item? = some xs ↔ List.Forall₂ spells items xs := by
  induction items generalizing xs with
  | nil => simp [eq_comm]
  | cons item items ih =>
    rw [List.forall₂_cons_left_iff]
    simp only [List.mapM_cons, Option.bind_eq_bind, Option.bind_eq_some_iff, Option.pure_def,
      Option.some.injEq, hitem, ih]
    refine ⟨?_, ?_⟩
    · rintro ⟨x, hx, others, hothers, rfl⟩
      exact ⟨x, others, hx, hothers, rfl⟩
    · rintro ⟨x, others, hx, hothers, rfl⟩
      exact ⟨x, hx, others, hothers, rfl⟩

/-- A list is read exactly if each of its items is. -/
theorem listOf?_eq_some_iff (value : Json) (xs : List α) :
    listOf? item? value = some xs ↔ Lists spells value xs := by
  refine ⟨fun hread => ?_, ?_⟩
  · obtain ⟨items, hitems, hread⟩ := Option.bind_eq_some_iff.mp hread
    cases value with
    | array found =>
      obtain rfl : found = items := Option.some.inj hitems
      exact .of ((mapM_eq_some_iff hitem).mp hread)
    | _ => cases hitems
  · rintro ⟨heach⟩
    exact (mapM_eq_some_iff hitem).mpr heach

end Lists

section Members

variable {members : List (String × Json)} {key : String}

theorem member?_eq_none_of_repeated (hrepeated : 1 < members.countP (·.1 == key)) :
    member? members key = none := by
  rw [List.countP_eq_length_filter] at hrepeated
  unfold member?
  split
  · rename_i hnone
    simp [hnone] at hrepeated
  · rename_i hone
    simp [hone] at hrepeated
  · rfl

theorem member?_eq_some_none_iff :
    member? members key = some none ↔ ∀ other ∈ members, other.1 ≠ key := by
  have hnone : (members.filter (·.1 == key)) = [] ↔ ∀ other ∈ members, other.1 ≠ key := by
    simp [List.filter_eq_nil_iff]
  rw [← hnone]
  unfold member?
  refine ⟨fun hread => ?_, fun hread => by rw [hread]⟩
  split at hread
  · assumption
  · cases hread
  · cases hread

/-- A member is found exactly if there is one of its name and no other. -/
theorem member?_eq_some_some_iff {value : Json} :
    member? members key = some (some value) ↔ HoldsOnce members key value := by
  have hone : (members.filter (·.1 == key)) = [(key, value)] ↔ HoldsOnce members key value := by
    simp only [HoldsOnce, List.filter_eq_cons_iff, List.filter_eq_nil_iff,
      List.forall_mem_append, beq_iff_eq, true_and, ne_eq]
  rw [← hone]
  unfold member?
  refine ⟨fun hread => ?_, fun hread => by rw [hread]⟩
  split at hread
  · cases hread
  · rename_i other found heq
    cases hread
    have hmem : (other, value) ∈ members.filter (·.1 == key) := heq ▸ List.mem_singleton_self _
    obtain rfl : other = key := eq_of_beq (List.mem_filter.mp hmem).2
    exact heq
  · cases hread

end Members

section Parts

variable {α : Type} {read? : Json → Option α} {spells : Json → α → Prop} {missing x : α}
  (hread : ∀ value x, read? value = some x ↔ spells value x)
include hread

/-- A member that may be absent stands for what is read from it, if it is
there. -/
theorem holdsOr_iff {members : List (String × Json)} {key : String} :
    HoldsOr spells missing members key x ↔
      ∃ part, member? members key = some part ∧ partOr missing read? part = some x := by
  refine ⟨?_, ?_⟩
  · rintro (hunnamed | ⟨honce, hspelled⟩)
    · exact ⟨none, member?_eq_some_none_iff.mpr hunnamed, rfl⟩
    · exact ⟨_, member?_eq_some_some_iff.mpr honce, (hread _ _).mpr hspelled⟩
  · rintro ⟨part, hmember, hpart⟩
    cases part with
    | none =>
      obtain rfl : missing = x := Option.some.inj hpart
      exact .absent (member?_eq_some_none_iff.mp hmember)
    | some value =>
      exact .present (member?_eq_some_some_iff.mp hmember) ((hread _ _).mp hpart)

theorem itemOr_iff {items : List Json} {place : Nat} :
    ItemOr spells missing items place x ↔ partOr missing read? items[place]? = some x := by
  refine ⟨?_, fun hpart => ?_⟩
  · rintro (hshort | ⟨hitem, hspelled⟩)
    · rw [List.getElem?_eq_none hshort]
      rfl
    · rw [hitem]
      exact (hread _ _).mpr hspelled
  · cases hitem : items[place]? with
    | none =>
      rw [hitem] at hpart
      obtain rfl : missing = x := Option.some.inj hpart
      exact .absent (List.getElem?_eq_none_iff.mp hitem)
    | some value =>
      rw [hitem] at hpart
      exact .present hitem ((hread _ _).mp hpart)

end Parts

end Json

/-! ## Actions, architectures and rules -/

theorem Action.ofWire?_eq_some_iff {identifier : String} {action : Action} :
    ofWire? identifier = some action ↔ action.wire = identifier := by
  refine ⟨fun hfound => ?_, ?_⟩
  · rw [ofWire?] at hfound
    have hwire := List.find?_some hfound
    exact eq_of_beq hwire
  · rintro rfl
    cases action <;> rfl

theorem Action.ofJson?_eq_some_iff (value : Json) (action : Action) :
    ofJson? value = some action ↔ SpelledBy value action := by
  simp only [ofJson?, Option.bind_eq_bind, Option.bind_eq_some_iff, Json.identifier?_eq_some_iff,
    ofWire?_eq_some_iff, SpelledBy, exists_eq_right']

theorem Architecture.ofJson?_eq_some_iff (value : Json) (architecture : Architecture) :
    ofJson? value = some architecture ↔ SpelledBy value architecture := by
  unfold ofJson?
  refine ⟨fun hread => ?_, ?_⟩
  · split at hread
    · rename_i identifier hstring
      obtain rfl := Option.some.inj hread
      cases hfound : known? identifier with
      | some k =>
        obtain ⟨hknown, hwire⟩ := known?_eq_some_iff.mp hfound
        rw [ofWire, hfound]
        exact .known hknown (Json.names_iff.mpr (Or.inl (hwire ▸ hstring)))
      | none =>
        rw [ofWire, hfound]
        exact .other ((Json.string?_eq_some_iff _ _).mp hstring) (known?_eq_none_iff.mp hfound)
    · obtain ⟨identifier, hvariant, hfound⟩ := Option.bind_eq_some_iff.mp hread
      obtain ⟨hknown, rfl⟩ := known?_eq_some_iff.mp hfound
      exact .known hknown (Json.names_iff.mpr (Or.inr hvariant))
  · rintro (⟨hknown, hname⟩ | ⟨htext, hunknown⟩)
    · rcases Json.names_iff.mp hname with hstring | hvariant
      · simp [hstring, ofWire, known?_wire _ hknown]
      · simp [Json.string?_eq_none_of_unitVariant? hvariant, hvariant, known?_wire _ hknown]
    · simp [(Json.string?_eq_some_iff _ _).mpr htext, ofWire, known?_eq_none_iff.mpr hunknown]

namespace Rule

theorem ofParts?_eq_some_iff {names action : Json} {rule : Rule} :
    ofParts? names action = some rule ↔
      Json.Lists Json.Holds names rule.names ∧ Action.SpelledBy action rule.action := by
  have hnames := Json.listOf?_eq_some_iff Json.string?_eq_some_iff
  simp only [ofParts?, Option.bind_eq_bind, Option.bind_eq_some_iff, Option.pure_def,
    Option.some.injEq, hnames, Action.ofJson?_eq_some_iff]
  refine ⟨?_, fun ⟨hlist, haction⟩ => ⟨_, hlist, _, haction, rfl⟩⟩
  rintro ⟨_, hlist, _, haction, rfl⟩
  exact ⟨hlist, haction⟩

theorem ofJson?_object_eq_some_iff {members : List (List Symbol × Json)} {rule : Rule} :
    ofJson? (.object members) = some rule ↔
      ∃ named, Json.named? members = some named ∧
        ∃ names, member? named "names" = some (some names) ∧
        ∃ action, member? named "action" = some (some action) ∧
          ofParts? names action = some rule := by
  simp [ofJson?, Option.bind_eq_some_iff]

theorem ofJson?_eq_some_iff (value : Json) (rule : Rule) :
    ofJson? value = some rule ↔ SpelledBy value rule := by
  refine ⟨fun hread => ?_, ?_⟩
  · unfold ofJson? at hread
    split at hread
    · obtain ⟨hnames, haction⟩ := ofParts?_eq_some_iff.mp hread
      exact .array hnames haction
    · obtain ⟨named, hnamed, names, hone, action, htwo, hread⟩ :=
        ofJson?_object_eq_some_iff.mp hread
      obtain ⟨hnames, haction⟩ := ofParts?_eq_some_iff.mp hread
      exact .object hnamed (Json.member?_eq_some_some_iff.mp hone) hnames
        (Json.member?_eq_some_some_iff.mp htwo) haction
    · cases hread
  · rintro (⟨hnamed, hone, hnames, htwo, haction⟩ | ⟨hnames, haction⟩)
    · exact ofJson?_object_eq_some_iff.mpr ⟨_, hnamed, _, Json.member?_eq_some_some_iff.mpr hone,
        _, Json.member?_eq_some_some_iff.mpr htwo, ofParts?_eq_some_iff.mpr ⟨hnames, haction⟩⟩
    · exact ofParts?_eq_some_iff.mpr ⟨hnames, haction⟩

/-- The members of a rule must not be repeated. -/
theorem ofJson?_eq_none_of_repeated {members : List (List Symbol × Json)}
    {named : List (String × Json)} (hnamed : Json.named? members = some named) {key : String}
    (hkey : key ∈ ["names", "action"]) (hrepeated : 1 < named.countP (·.1 == key)) :
    ofJson? (.object members) = none := by
  refine Option.eq_none_iff_forall_ne_some.mpr fun rule hread => ?_
  have hnone := Json.member?_eq_none_of_repeated hrepeated
  obtain ⟨_, hfound, _, hone, _, htwo, -⟩ := ofJson?_object_eq_some_iff.mp hread
  obtain rfl := Option.some.inj (hnamed.symm.trans hfound)
  simp only [List.mem_cons, List.not_mem_nil, or_false] at hkey
  rcases hkey with rfl | rfl
  · simp [hnone] at hone
  · simp [hnone] at htwo

end Rule

/-! ## Profiles -/

namespace Profile

/-- An array of up to three items is read by their places, and a longer one
is not read. -/
theorem ofJson?_array_eq_some_iff {items : List Json} {p : Profile} :
    ofJson? (.array items) = some p ↔
      items.length ≤ 3 ∧ ofParts? items[0]? items[1]? items[2]? = some p := by
  match items with
  | [] | [_] | [_, _] | [_, _, _] => simp [ofJson?]
  | _ :: _ :: _ :: _ :: _ => simp [ofJson?]

theorem ofJson?_object_eq_some_iff {members : List (List Symbol × Json)} {p : Profile} :
    ofJson? (.object members) = some p ↔
      ∃ named, Json.named? members = some named ∧
        ∃ action, member? named "defaultAction" = some action ∧
        ∃ architectures, member? named "architectures" = some architectures ∧
        ∃ rules, member? named "syscalls" = some rules ∧
          ofParts? action architectures rules = some p := by
  simp only [ofJson?, Option.bind_eq_bind, Option.bind_eq_some_iff]

theorem ofJson?_eq_some_iff {value : Json} {p : Profile} :
    ofJson? value = some p ↔ IsValue value p := by
  have harchitectures := Json.listOf?_eq_some_iff Architecture.ofJson?_eq_some_iff
  have hrules := Json.listOf?_eq_some_iff Rule.ofJson?_eq_some_iff
  refine ⟨fun hread => ?_, ?_⟩
  · cases value with
    | array items =>
      obtain ⟨hshort, hread⟩ := ofJson?_array_eq_some_iff.mp hread
      obtain ⟨hfirst, hsecond, hthird⟩ := ofParts?_eq_some_iff.mp hread
      exact .array hshort ((Json.itemOr_iff Action.ofJson?_eq_some_iff).mpr hfirst)
        ((Json.itemOr_iff harchitectures).mpr hsecond) ((Json.itemOr_iff hrules).mpr hthird)
    | object members =>
      obtain ⟨named, hnamed, _, hone, _, htwo, _, hthree, hread⟩ :=
        ofJson?_object_eq_some_iff.mp hread
      obtain ⟨hfirst, hsecond, hthird⟩ := ofParts?_eq_some_iff.mp hread
      exact .object hnamed
        ((Json.holdsOr_iff Action.ofJson?_eq_some_iff).mpr ⟨_, hone, hfirst⟩)
        ((Json.holdsOr_iff harchitectures).mpr ⟨_, htwo, hsecond⟩)
        ((Json.holdsOr_iff hrules).mpr ⟨_, hthree, hthird⟩)
    | _ => cases hread
  · rintro (⟨hnamed, haction, harchitecture, hrule⟩ | ⟨hshort, haction, harchitecture, hrule⟩)
    · obtain ⟨_, hone, hfirst⟩ := (Json.holdsOr_iff Action.ofJson?_eq_some_iff).mp haction
      obtain ⟨_, htwo, hsecond⟩ := (Json.holdsOr_iff harchitectures).mp harchitecture
      obtain ⟨_, hthree, hthird⟩ := (Json.holdsOr_iff hrules).mp hrule
      exact ofJson?_object_eq_some_iff.mpr ⟨_, hnamed, _, hone, _, htwo, _, hthree,
        ofParts?_eq_some_iff.mpr ⟨hfirst, hsecond, hthird⟩⟩
    · refine ofJson?_array_eq_some_iff.mpr ⟨hshort, ofParts?_eq_some_iff.mpr ⟨?_, ?_, ?_⟩⟩
      · exact (Json.itemOr_iff Action.ofJson?_eq_some_iff).mp haction
      · exact (Json.itemOr_iff harchitectures).mp harchitecture
      · exact (Json.itemOr_iff hrules).mp hrule

theorem ofText?_eq_some_iff {text : String} {p : Profile} :
    ofText? text = some p ↔ p.SpelledBy text := by
  simp only [ofText?, Option.bind_eq_bind, Option.bind_eq_some_iff, Json.read?_eq_some_iff,
    ofJson?_eq_some_iff, SpelledBy]

/-- The known members of a profile must not be repeated. -/
theorem ofJson?_eq_none_of_repeated {members : List (List Symbol × Json)}
    {named : List (String × Json)} (hnamed : Json.named? members = some named) {key : String}
    (hkey : key ∈ ["defaultAction", "architectures", "syscalls"])
    (hrepeated : 1 < named.countP (·.1 == key)) : ofJson? (.object members) = none := by
  refine Option.eq_none_iff_forall_ne_some.mpr fun p hread => ?_
  have hnone := Json.member?_eq_none_of_repeated hrepeated
  obtain ⟨_, hfound, _, hone, _, htwo, _, hthree, -⟩ := ofJson?_object_eq_some_iff.mp hread
  obtain rfl := Option.some.inj (hnamed.symm.trans hfound)
  simp only [List.mem_cons, List.not_mem_nil, or_false] at hkey
  rcases hkey with rfl | rfl | rfl
  · simp [hnone] at hone
  · simp [hnone] at htwo
  · simp [hnone] at hthree

/-- A text is read as a profile exactly if it is a document of that profile.
So the known members of a profile, and those of a rule, are read only where
they are not repeated. -/
theorem document_read_iff_spelled :
    (∀ (text : String) (p : Profile), ofText? text = some p ↔ p.SpelledBy text) ∧
    (∀ (text : String) (members : List (List Symbol × Json)) (named : List (String × Json))
        (key : String), Json.Document text.toList (.object members) →
      Json.named? members = some named →
      key ∈ ["defaultAction", "architectures", "syscalls"] →
      1 < named.countP (·.1 == key) → ofText? text = none) ∧
    ∀ (members : List (List Symbol × Json)) (named : List (String × Json)) (key : String)
        (rule : Rule), Json.named? members = some named → key ∈ ["names", "action"] →
      1 < named.countP (·.1 == key) → ¬ Rule.SpelledBy (.object members) rule := by
  refine ⟨fun text p => ofText?_eq_some_iff, ?_, ?_⟩
  · intro text members named key hdocument hnamed hkey hrepeated
    rw [ofText?, Json.read?_of_document hdocument]
    exact ofJson?_eq_none_of_repeated hnamed hkey hrepeated
  · intro members named key rule hnamed hkey hrepeated hspelled
    have hread := (Rule.ofJson?_eq_some_iff _ _).mpr hspelled
    rw [Rule.ofJson?_eq_none_of_repeated hnamed hkey hrepeated] at hread
    cases hread

/-- Members in another order, a member that is passed over, escapes, and
arrays in the place of objects do not matter, but a second default action
does. -/
theorem reordered_document_spelled :
    (Profile.mk .log [.x86, .other "next"] [⟨["read"], .allow⟩]).SpelledBy
        ("\x7b \"syscalls\":[[[\"r\\u0065ad\"],\x7b\"SCMP_ACT_ALLOW\":null\x7d]],\"note\":[1e999]," ++
          "\"architectures\":[\"SCMP_ARCH_X86\",\"next\"],\"defaultAction\":\"SCMP_ACT_LOG\"\x7d") ∧
      ofText? (Json.write .compact (.object (List.replicate 2
        (Json.member "defaultAction" (.ofString "SCMP_ACT_LOG"))))) = none := by
  refine ⟨(document_read_iff_spelled.1 _ _).mp (by decide +kernel), ?_⟩
  have hwritten : ∀ member ∈ List.replicate 2
      (Json.member "defaultAction" (.ofString "SCMP_ACT_LOG")),
      (∃ s, member.1 = Json.symbolsOf s) ∧ Json.IsWritten .compact member.2 := fun member hmem =>
    List.eq_of_mem_replicate hmem ▸ isWritten_member (Json.isWritten_ofString "SCMP_ACT_LOG")
  have hnamed : Json.named? (List.replicate 2
      (Json.member "defaultAction" (.ofString "SCMP_ACT_LOG"))) =
      some (List.replicate 2 ("defaultAction", .ofString "SCMP_ACT_LOG")) := by
    simp [List.replicate]
  exact document_read_iff_spelled.2.1 _ _ _ "defaultAction"
    (Json.document_write (Json.isWritten_object Json.Layout.isBlank_compact hwritten)) hnamed
    (by decide) (by decide)

end Profile

end SyscallPolicy
