import SyscallPolicy.Host.Utility.Basic

/-!
# Changing files

Making files and directories, and taking them away.
-/

namespace SyscallPolicy.Host.Utility

/-- What a change of the tree of files comes to, given the time. -/
abbrev Changed := Except FileFailure (Nat → FileNode → FileNode)

/-- Makes a change for each of some paths: it goes through, or is complained about. -/
def overPaths (call : Call) (paths : List Octets) (change : Trail → String → Changed) :
    Act Nat := do
  let step (status : Nat) (path : Octets) : Act Nat := do
    match change (← Act.look).trail (Octets.toText path) with
    | .ok change =>
      Act.change change
      return status
    | .error failure =>
      let _ ← Act.write 2 (call.pathComplaint path failure)
      return 1
  paths.foldlM step 0

/-- A change by which nothing changes. -/
def unchanged : Nat → FileNode → FileNode := fun _ root => root

/-- Makes files where there are none, and lets the others look new. -/
def touch (call : Call) : Act Nat :=
  overPaths call (call.args.filter fun arg => arg.head? != some '-') fun trail path =>
    match trail.find call.here path with
    | .ok { place, node := .regular bytes _ } =>
      .ok fun now root => root.put place (.regular bytes now)
    | .ok _ => .ok unchanged
    | .error failure =>
      if failure != .notFound then .error failure
      else
        (trail.findNew call.here path).map fun place now root =>
          root.put place (.regular .empty now)

/-- Takes files away. -/
def remove (call : Call) : Act Nat :=
  let table : OptionTable Char :=
    { letters := ['f', 'i', 'r', 'R', 'v', 'd'].map fun c => (c, .nothing, c)
      words := [("force", .nothing, 'f'), ("recursive", .nothing, 'r'),
        ("verbose", .nothing, 'v')] }
  let a := call.arguments table
  match a.fault? with
  | some fault => call.tell (call.badUsage 1 fault.reason)
  | none =>
    if a.operands.isEmpty then
      (if a.has 'f' then pure 0 else call.tell (call.badUsage 1 "missing operand".toList))
    else
      overPaths call a.operands fun trail path =>
        match { trail with followsLast := false }.find call.here path with
        | .ok found =>
          if Trail.isDirectory found.node && !a.has 'r' && !a.has 'R' then .error .isDirectory
          else .ok fun _ root => root.erase found.place
        | .error .notFound => if a.has 'f' then .ok unchanged else .error .notFound
        | .error failure => .error failure

/-- Makes the directories on the way to a place. -/
def makeAll (root : FileNode) : List String → List String → Changed
  | _, [] => .ok unchanged
  | above, part :: rest =>
    let place := above ++ [part]
    match root.at? place with
    | some (.directory _) => makeAll root place rest
    | some _ => .error (if rest.isEmpty then .fileExists else .notDirectory)
    | none =>
      (makeAll root place rest).map fun change now tree =>
        change now (tree.put place (.directory []))

/-- Makes directories. -/
def makeDirectory (call : Call) : Act Nat :=
  let table : OptionTable Char :=
    { letters := [('p', .nothing, 'p'), ('v', .nothing, 'v'), ('m', .value, 'm')]
      words := [("parents", .nothing, 'p'), ("verbose", .nothing, 'v'), ("mode", .value, 'm')] }
  let a := call.arguments table
  match a.fault? with
  | some fault => call.tell (call.badUsage 1 fault.reason)
  | none =>
    if a.operands.isEmpty then call.tell (call.badUsage 1 "missing operand".toList)
    else
      overPaths call a.operands fun trail path =>
        let parts := (fromRoot call.here path).filter fun part => part != "" && part != "."
        if a.has 'p' then makeAll trail.root [] parts
        else
          match trail.find call.here path with
          | .ok _ => .error .fileExists
          | .error failure =>
            if failure != .notFound then .error failure
            else
              (trail.findNew [] (String.intercalate "/" ("" :: parts))).map fun place _ root =>
                root.put place (.directory [])

end SyscallPolicy.Host.Utility
