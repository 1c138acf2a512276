/-!
# Architectures

A document names architectures by wire identifiers.  Identifiers outside the known set
are kept as they are, so that documents written for newer systems still load.  A target
is a short name that stands for several identifiers.
-/

namespace SyscallPolicy

/-- An architecture that a policy applies to. -/
inductive Architecture where
  | x86_64
  | x86
  | x32
  | arm
  | aarch64
  | mips
  | mips64
  | mips64N32
  | mipsel
  | mipsel64
  | mipsel64N32
  | ppc
  | ppc64
  | ppc64Le
  | s390
  | s390X
  | parisc
  | parisc64
  | riscv64
  | loongarch64
  | m68k
  | sh
  | sheb
  /-- Any other identifier. -/
  | other (identifier : String)
  deriving DecidableEq, Repr

namespace Architecture

/-- The architectures that have a name of their own. -/
def known : List Architecture :=
  [x86_64, x86, x32, arm, aarch64, mips, mips64, mips64N32, mipsel, mipsel64, mipsel64N32,
   ppc, ppc64, ppc64Le, s390, s390X, parisc, parisc64, riscv64, loongarch64, m68k, sh, sheb]

/-- The identifier of an architecture in a document. -/
def wire : Architecture → String
  | x86_64 => "SCMP_ARCH_X86_64"
  | x86 => "SCMP_ARCH_X86"
  | x32 => "SCMP_ARCH_X32"
  | arm => "SCMP_ARCH_ARM"
  | aarch64 => "SCMP_ARCH_AARCH64"
  | mips => "SCMP_ARCH_MIPS"
  | mips64 => "SCMP_ARCH_MIPS64"
  | mips64N32 => "SCMP_ARCH_MIPS64N32"
  | mipsel => "SCMP_ARCH_MIPSEL"
  | mipsel64 => "SCMP_ARCH_MIPSEL64"
  | mipsel64N32 => "SCMP_ARCH_MIPSEL64N32"
  | ppc => "SCMP_ARCH_PPC"
  | ppc64 => "SCMP_ARCH_PPC64"
  | ppc64Le => "SCMP_ARCH_PPC64LE"
  | s390 => "SCMP_ARCH_S390"
  | s390X => "SCMP_ARCH_S390X"
  | parisc => "SCMP_ARCH_PARISC"
  | parisc64 => "SCMP_ARCH_PARISC64"
  | riscv64 => "SCMP_ARCH_RISCV64"
  | loongarch64 => "SCMP_ARCH_LOONGARCH64"
  | m68k => "SCMP_ARCH_M68K"
  | sh => "SCMP_ARCH_SH"
  | sheb => "SCMP_ARCH_SHEB"
  | other identifier => identifier

/-- Whether the architecture is one outside the known set. -/
def isOther : Architecture → Bool
  | other _ => true
  | _ => false

/-- The known architecture with this identifier. -/
def known? (identifier : String) : Option Architecture :=
  known.find? (·.wire == identifier)

/-- The architecture that an identifier stands for. -/
def ofWire (identifier : String) : Architecture :=
  (known? identifier).getD (other identifier)

/-- The targets and what each stands for. -/
def targets : List (String × List Architecture) :=
  [("amd64", [x86_64, x86, x32]), ("arm64", [arm, aarch64])]

/-- The architectures that a target stands for. -/
def ofTarget? (target : String) : Option (List Architecture) :=
  targets.lookup target

/-- Whether a target stands for anything. -/
def isTarget (target : String) : Bool :=
  (ofTarget? target).isSome

/-- The architectures of several targets, one after the other; unknown targets stand
for none. -/
def ofTargets (names : List String) : List Architecture :=
  names.flatMap fun target => (ofTarget? target).getD []

end Architecture

end SyscallPolicy
