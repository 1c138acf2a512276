import SyscallPolicy.Json.Layout
import SyscallPolicy.Json.Reader
import SyscallPolicy.Profile.Basic

/-!
# Profiles as JSON documents

A profile is an object of up to three members, or the array of their values in order.
An absent member means refusal as the default action, and no architecture and no rule;
a rule needs both of its members.  Members of other names are passed over, whatever they
hold, but every name must be a string of characters, and a known member that occurs twice
makes the document unreadable.  An action or a known architecture is written as its
identifier or as an object that has the identifier as its only key, with `null` as value.

Writing leaves out the two lists when they are empty.
-/

namespace SyscallPolicy

open Json (Layout)

/-- The one key of an object that has no other and `null` as value. -/
def Json.unitVariant? : Json → Option String
  | .object [(key, .null)] => textOf? key
  | _ => none

/-- What a member holds, if it occurs; `none` when it occurs more than once. -/
def Json.member? (members : List (String × Json)) (key : String) : Option (Option Json) :=
  match members.filter (·.1 == key) with
  | [] => some none
  | [(_, value)] => some (some value)
  | _ => none

/-- The items of an array, each read in the same way. -/
def Json.listOf? {α : Type} (item? : Json → Option α) (value : Json) : Option (List α) := do
  (← value.array?).mapM item?

def Action.ofJson? (value : Json) : Option Action := do
  Action.ofWire? (← value.string? <|> value.unitVariant?)

def Action.toJson (action : Action) : Json :=
  .ofString action.wire

def Architecture.ofJson? (value : Json) : Option Architecture :=
  match value.string? with
  | some identifier => some (ofWire identifier)
  | none => value.unitVariant?.bind known?

def Architecture.toJson (architecture : Architecture) : Json :=
  .ofString architecture.wire

namespace Rule

/-- The rule of these two parts. -/
def ofParts? (names action : Json) : Option Rule := do
  return ⟨← names.listOf? Json.string?, ← Action.ofJson? action⟩

def ofJson? : Json → Option Rule
  | .array [names, action] => ofParts? names action
  | .object members => do
    let members ← Json.named? members
    ofParts? (← ← Json.member? members "names") (← ← Json.member? members "action")
  | _ => none

def toJson (rule : Rule) : Json :=
  .object [Json.member "names" (.array (rule.names.map .ofString)),
    Json.member "action" rule.action.toJson]

end Rule

namespace Profile

/-- The profile of these three parts, of which each may be absent. -/
def ofParts? (action architectures rules : Option Json) : Option Profile := do
  let action ← match action with
    | some value => Action.ofJson? value
    | none => some default
  let architectures ← match architectures with
    | some value => value.listOf? Architecture.ofJson?
    | none => some []
  let rules ← match rules with
    | some value => value.listOf? Rule.ofJson?
    | none => some []
  return ⟨action, architectures, rules⟩

def ofJson? : Json → Option Profile
  | .array [] => ofParts? none none none
  | .array [action] => ofParts? (some action) none none
  | .array [action, architectures] => ofParts? (some action) (some architectures) none
  | .array [action, architectures, rules] =>
    ofParts? (some action) (some architectures) (some rules)
  | .object members => do
    let members ← Json.named? members
    ofParts? (← Json.member? members "defaultAction") (← Json.member? members "architectures")
      (← Json.member? members "syscalls")
  | _ => none

/-- A list as a member of this name, or nothing if it is empty. -/
def listMember (key : String) : List Json → List (List Json.Symbol × Json)
  | [] => []
  | items => [Json.member key (.array items)]

def toJson (p : Profile) : Json :=
  .object (Json.member "defaultAction" p.defaultAction.toJson ::
    (listMember "architectures" (p.architectures.map Architecture.toJson) ++
      listMember "syscalls" (p.rules.map Rule.toJson)))

/-- The profile that a text stands for. -/
def ofText? (text : String) : Option Profile := do
  ofJson? (← Json.read? text.toList)

/-- The document of a profile in a layout. -/
def write (layout : Layout) (p : Profile) : String :=
  p.toJson.write layout

/-- The document of a profile without blanks. -/
def compactText (p : Profile) : String :=
  p.write .compact

/-- The document of a profile with one element a line. -/
def prettyText (p : Profile) : String :=
  p.write .indented

end Profile

end SyscallPolicy
