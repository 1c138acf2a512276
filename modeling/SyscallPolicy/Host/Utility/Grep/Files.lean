import SyscallPolicy.Host.Glob
import SyscallPolicy.Host.Utility.Grep.Options

/-!
# Files to search in

Files are those that are named, and those in directories that are gone through.  Globs tell
which of them are passed over: for a file that is named they are compared with its name and
with all parts of it behind a slash, and for one in a directory with its last part.
-/

namespace SyscallPolicy.Host.Utility.Grep

/-- Something to search in. -/
structure Source where
  /-- The name under which it is printed. -/
  name : Octets
  /-- The path under which it is opened. -/
  path : Octets
  /-- Why nothing can be read in it, if that is known. -/
  failure? : Option FileFailure := none
  /-- What it leads to. -/
  channel? : Option Channel := none
  /-- Whether it was found in a directory. -/
  isInside : Bool := false

/-- Whether it is the standard input. -/
def Source.isInput (source : Source) : Bool := source.path == ['-']

/-- Whether a glob fits a text. -/
def globFits (glob text : Octets) : Bool :=
  Glob.fits (Glob.read (Marked.of false glob)) text

/-- The text and what is behind its slashes. -/
def suffixes : Octets → List Octets
  | [] => []
  | c :: rest =>
    if c = '/' && rest.head?.any (· != '/') then rest :: suffixes rest else suffixes rest

/-- Whether a glob fits a name or a part of it behind a slash. -/
def fitsSuffix (glob name : Octets) : Bool :=
  (name :: suffixes name).any (globFits glob)

/-- Whether globs pass over a file. -/
def isSifted (sieves : List (Bool × Octets)) (fits : Octets → Bool) : Bool :=
  match sieves.find? fun sieve => fits sieve.2 with
  | some (takes, _) => !takes
  | none => (sieves.getLast?.map (·.1)).getD false

/-- Whether a file is passed over. -/
def Settings.skipsFile (s : Settings) (isInside : Bool) (name : Octets) : Bool :=
  isSifted s.sieves fun glob =>
    if isInside then globFits glob name else fitsSuffix glob name

/-- Whether a directory is passed over. -/
def Settings.skipsDirectory (s : Settings) (isInside : Bool) (name : Octets) : Bool :=
  let name := if name.length > 1 then (name.reverse.dropWhile (· == '/')).reverse else name
  s.closed.any fun glob => if isInside then globFits glob name else fitsSuffix glob name

/-- Whether devices are passed over. -/
def Settings.skipsDevices (s : Settings) (isInside : Bool) : Bool :=
  s.skipsDevices?.getD isInside

/-- Whether what a path leads to is neither a file nor a directory. -/
def isDevice : Channel → Bool
  | .directory _ => false
  | .file _ => false
  | _ => true

mutual

/-- The files in a directory and those below, given its name and place. -/
def below (s : Settings) (name : Octets) (place : List String) :
    Nat → List (String × FileNode) → List Source
  | 0, _ => []
  | _, [] => []
  | fuel + 1, (key, node) :: rest =>
    let part := Octets.ofString key
    let path := if name.isEmpty then part
      else if name.getLast? = some '/' then name ++ part
      else name ++ '/' :: part
    inside s path part (place ++ [key]) fuel node ++ below s name place fuel rest

/-- The files that something in a directory is.  Links and devices are passed over. -/
def inside (s : Settings) (path part : Octets) (place : List String) :
    Nat → FileNode → List Source
  | 0, _ => []
  | fuel + 1, .directory entries =>
    if s.skipsDirectory true part then [] else below s path place fuel entries
  | _ + 1, node =>
    let isFile := node matches .regular _ _ | .program _
    let isRead := isFile || (node matches .device _ && !s.skipsDevices true)
    if s.skipsFile true part || !isRead then []
    else [{ name := path, path, channel? := some (.file place), isInside := true }]

end

/-- How deep directories are gone through. -/
def greatestDepth : Nat := 100000

/-- What a directory holds. -/
def entriesAt (call : Call) (place : List String) : List (String × FileNode) :=
  match call.view.root.at? place with
  | some (.directory entries) => entries
  | _ => []

/-- What a named file stands for. -/
def named (call : Call) (s : Settings) (path : Octets) : List Source :=
  let isInput := path == ['-']
  let name := if isInput then s.inputName else path
  match call.channelAt path with
  | .ok (.directory place) =>
    if isInput then [{ name, path }]
    else
      match s.directories with
      | .skip => []
      | .recurse =>
        if s.skipsDirectory false path then []
        else below s path place greatestDepth (entriesAt call place)
      | .read => if s.skipsDirectory false path then [] else [{ name, path }]
  | .ok channel =>
    let isSkipped := if isInput then s.skipsFile false path && !s.sieves.isEmpty
      else s.skipsFile false path || (isDevice channel && s.skipsDevices false)
    if isSkipped then [] else [{ name, path, channel? := some channel }]
  | .error failure =>
    if isInput then [{ name, path }]
    else if s.skipsFile false path then []
    else [{ name, path, failure? := some failure }]

/-- The files to search in.  A directory that is gone through without being named does not
stand in front of their names. -/
def sources (call : Call) (s : Settings) (operands : List Octets) : List Source :=
  match operands, s.directories with
  | [], .recurse => below s [] call.here greatestDepth (entriesAt call call.here)
  | [], _ => named call s ['-']
  | operands, _ => operands.flatMap (named call s)

end SyscallPolicy.Host.Utility.Grep
