import Mathlib.Data.List.Forall2
import SyscallPolicy.Json.Spelling
import SyscallPolicy.Profile.Document

/-!
# Spellings of profiles

The many documents that stand for one profile.  `SpelledBy p text` is said by the shape of
the document alone: which values may stand where, in which order, and how often.
-/

namespace SyscallPolicy

open Json (Symbol textOf?)

/-- A value that names an identifier: a string, or an object with the identifier as its
only key and `null` as value. -/
inductive Json.Names : Json → String → Prop
  | string {symbols : List Symbol} {identifier : String}
      (text : textOf? symbols = some identifier) : Names (.string symbols) identifier
  | variant {key : List Symbol} {identifier : String} (text : textOf? key = some identifier) :
      Names (.object [(key, .null)]) identifier

/-- A value that is a string, and the string. -/
inductive Json.Holds : Json → String → Prop
  | of {symbols : List Symbol} {content : String} (text : textOf? symbols = some content) :
      Holds (.string symbols) content

/-- A value that is an array, item by item. -/
inductive Json.Lists {α : Type} (spells : Json → α → Prop) : Json → List α → Prop
  | of {items : List Json} {content : List α} (each : List.Forall₂ spells items content) :
      Lists spells (.array items) content

/-- Whether exactly one member has this name, and it holds this value. -/
def Json.HoldsOnce (members : List (String × Json)) (key : String) (value : Json) : Prop :=
  ∃ before after, members = before ++ (key, value) :: after ∧
    ∀ other ∈ before ++ after, other.1 ≠ key

/-- What a member stands for that may be absent. -/
inductive Json.HoldsOr {α : Type} (spells : Json → α → Prop) (missing : α)
    (members : List (String × Json)) (key : String) : α → Prop
  | absent (unnamed : ∀ other ∈ members, other.1 ≠ key) : HoldsOr spells missing members key missing
  | present {value : Json} {content : α} (once : HoldsOnce members key value)
      (spelled : spells value content) : HoldsOr spells missing members key content

/-- What an item stands for that may be missing at the end of an array. -/
inductive Json.ItemOr {α : Type} (spells : Json → α → Prop) (missing : α) (items : List Json)
    (place : Nat) : α → Prop
  | absent (short : items.length ≤ place) : ItemOr spells missing items place missing
  | present {value : Json} {content : α} (item : items[place]? = some value)
      (spelled : spells value content) : ItemOr spells missing items place content

/-- A value that stands for an action. -/
def Action.SpelledBy (value : Json) (action : Action) : Prop :=
  value.Names action.wire

/-- A value that stands for an architecture: a known one by its identifier, any other one
by a string. -/
inductive Architecture.SpelledBy : Json → Architecture → Prop
  | known {value : Json} {architecture : Architecture} (known : architecture ∈ Architecture.known)
      (name : value.Names architecture.wire) : SpelledBy value architecture
  | other {value : Json} {identifier : String} (text : value.Holds identifier)
      (unknown : ∀ architecture ∈ Architecture.known, architecture.wire ≠ identifier) :
      SpelledBy value (.other identifier)

/-- A value that stands for a rule. -/
inductive Rule.SpelledBy : Json → Rule → Prop
  | object {members : List (List Symbol × Json)} {named : List (String × Json)}
      {names action : Json} {rule : Rule} (keys : Json.named? members = some named)
      (namesOnce : Json.HoldsOnce named "names" names)
      (namesSpelled : Json.Lists Json.Holds names rule.names)
      (actionOnce : Json.HoldsOnce named "action" action)
      (actionSpelled : Action.SpelledBy action rule.action) : SpelledBy (.object members) rule
  | array {names action : Json} {rule : Rule}
      (namesSpelled : Json.Lists Json.Holds names rule.names)
      (actionSpelled : Action.SpelledBy action rule.action) :
      SpelledBy (.array [names, action]) rule

namespace Profile

/-- A value that stands for a profile. -/
inductive IsValue : Json → Profile → Prop
  | object {members : List (List Symbol × Json)} {named : List (String × Json)} {p : Profile}
      (keys : Json.named? members = some named)
      (action : Json.HoldsOr Action.SpelledBy .errno named "defaultAction" p.defaultAction)
      (architectures : Json.HoldsOr (Json.Lists Architecture.SpelledBy) [] named "architectures"
        p.architectures)
      (rules : Json.HoldsOr (Json.Lists Rule.SpelledBy) [] named "syscalls" p.rules) :
      IsValue (.object members) p
  | array {items : List Json} {p : Profile} (short : items.length ≤ 3)
      (action : Json.ItemOr Action.SpelledBy .errno items 0 p.defaultAction)
      (architectures : Json.ItemOr (Json.Lists Architecture.SpelledBy) [] items 1 p.architectures)
      (rules : Json.ItemOr (Json.Lists Rule.SpelledBy) [] items 2 p.rules) :
      IsValue (.array items) p

/-- Whether a text is a document of a profile. -/
def SpelledBy (p : Profile) (text : String) : Prop :=
  ∃ value, Json.Document text.toList value ∧ IsValue value p

end Profile

end SyscallPolicy
