/-!
# Catalogs of system calls

Fixed lists that discovery and exposure analysis consult.

* `highRisk`: calls that raise privilege or break isolation.
* `essential`: calls without which no process starts or ends.
* `commonCandidates`: the universe that an elimination search probes by default,
  most frequently needed call first.
* `template?`: allow lists that are known beforehand, by name.
-/

namespace SyscallPolicy.Syscall

/-- Kernel modules and kexec, tracing of other processes, namespaces, keyrings,
memory policy, clock changes and the like, in byte order. -/
def highRisk : List String :=
  ["_sysctl", "acct", "add_key", "bpf", "clock_adjtime", "clock_settime", "create_module",
   "delete_module", "finit_module", "get_kernel_syms", "get_mempolicy", "init_module",
   "ioperm", "iopl", "kcmp", "kexec_file_load", "kexec_load", "keyctl", "lookup_dcookie",
   "mbind", "mount", "move_pages", "name_to_handle_at", "nfsservctl", "open_by_handle_at",
   "perf_event_open", "personality", "pivot_root", "process_vm_readv", "process_vm_writev",
   "ptrace", "query_module", "quotactl", "reboot", "request_key", "set_mempolicy", "setns",
   "settimeofday", "stime", "swapoff", "swapon", "sysfs", "umount", "umount2", "unshare",
   "uselib", "userfaultfd", "ustat", "vm86", "vm86old"]

/-- Calls that every workload needs; a search never withholds them. -/
def essential : List String :=
  ["close", "exit", "exit_group", "execve", "futex"]

/-- Commonly needed calls, most frequent first. -/
def commonCandidates : List String :=
  ["read", "write", "close", "openat", "mmap", "fstat", "newfstatat", "mprotect", "futex",
   "brk", "rt_sigaction", "rt_sigprocmask", "munmap", "execve", "exit_group", "exit",
   "arch_prctl", "access", "pread64", "lseek", "ioctl", "getdents64", "fcntl", "stat", "lstat",
   "open", "set_tid_address", "set_robust_list", "prlimit64", "getrandom", "rseq",
   "clock_gettime", "clock_nanosleep", "nanosleep", "getpid", "gettid", "getppid", "getuid",
   "geteuid", "getgid", "getegid", "getpgrp", "getcwd", "chdir", "uname", "sysinfo",
   "readlink", "readlinkat", "faccessat", "faccessat2", "statx", "statfs", "fstatfs", "dup",
   "dup2", "dup3", "pipe", "pipe2", "poll", "ppoll", "select", "pselect6", "epoll_create1",
   "epoll_ctl", "epoll_wait", "epoll_pwait", "eventfd2", "madvise", "mremap", "sigaltstack",
   "rt_sigreturn", "sched_yield", "sched_getaffinity", "clone", "clone3", "fork", "vfork",
   "wait4", "kill", "tgkill", "prctl", "capget", "capset", "setuid", "setgid", "setgroups",
   "socket", "connect", "accept", "accept4", "bind", "listen", "sendto", "recvfrom", "sendmsg",
   "recvmsg", "shutdown", "getsockname", "getpeername", "setsockopt", "getsockopt",
   "socketpair", "writev", "readv", "pwrite64", "sendfile", "mkdir", "mkdirat", "unlink",
   "unlinkat", "rename", "renameat", "rmdir", "chmod", "fchmod", "fchmodat", "fchown", "umask",
   "fsync", "fdatasync", "ftruncate", "flock", "utimensat", "getrlimit", "setrlimit",
   "getrusage", "times", "gettimeofday", "time", "sched_setaffinity", "membarrier",
   "memfd_create", "close_range"]

/-- What a small web server needs. -/
def webTemplate : List String :=
  ["arch_prctl", "capget", "capset", "chdir", "close", "epoll_pwait", "execve", "fstat",
   "fstatfs", "futex", "getdents64", "getppid", "mprotect", "newfstatat", "openat", "prctl",
   "read", "setgid", "setgroups", "setuid", "stat", "write"]

/-- The built-in allow lists with their names. -/
def templates : List (String × List String) :=
  [("web", webTemplate)]

/-- The names of the built-in allow lists. -/
def templateNames : List String :=
  templates.map (·.1)

/-- The allow list with this name. -/
def template? (name : String) : Option (List String) :=
  templates.lookup name

def isHighRisk (name : String) : Bool :=
  highRisk.contains name

def isEssential (name : String) : Bool :=
  essential.contains name

end SyscallPolicy.Syscall
