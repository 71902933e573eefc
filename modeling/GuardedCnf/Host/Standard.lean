import GuardedCnf.Host.Tree
/-! # The tree around a working folder

    Absolute paths lead to the folders that every system has: those of programs,
    of devices, of temporary files and of the streams of a process. -/

namespace GuardedCnf.Tree

/-- Adds a node under names, with the folders on the way that are missing. -/
def grow (n : Node) : NodeId → List String → Tree → Tree
  | _, [], t => t
  | id, [name], t => (t.insert id name n).2
  | id, name :: rest, t =>
      match (t.entries id).lookup name with
      | some next => grow n next rest t
      | none =>
          let (next, t) := t.insert id name (.folder id [])
          grow n next rest t

/-- Adds a node at an absolute path. -/
def growAt (t : Tree) (path : String) (n : Node) : Tree :=
  grow n 0 ((path.splitOn "/").drop 1) t

/-- The path of the working folder. -/
def workingPath : String := "/work"

/-- The path of the folder for temporary files. -/
def temporaryPath : String := "/tmp"

/-- The place of the working folder. -/
def working : NodeId := 1

/-- The place of the folder for temporary files. -/
def temporary : NodeId := 2

/-- The folders without content that matters. -/
def plainFolders : List String :=
  ["/boot", "/dev/shm", "/home", "/media", "/mnt", "/opt", "/root", "/run", "/srv", "/sys",
    "/usr/include", "/usr/lib", "/usr/lib64", "/usr/local/bin", "/usr/local/sbin", "/usr/sbin",
    "/usr/share", "/var/lib", "/var/log", "/var/tmp"]

/-- The links between folders and to streams. -/
def standardLinks : List (String × String) :=
  [("/bin", "usr/bin"), ("/sbin", "usr/sbin"), ("/lib", "usr/lib"), ("/lib64", "usr/lib64"),
    ("/dev/fd", "/proc/self/fd"), ("/dev/stdin", "/proc/self/fd/0"),
    ("/dev/stdout", "/proc/self/fd/1"), ("/dev/stderr", "/proc/self/fd/2")]

/-- The devices. -/
def standardDevices : List (String × Device) :=
  [("/dev/null", .null), ("/dev/zero", .zero), ("/dev/full", .full), ("/dev/random", .zero),
    ("/dev/urandom", .zero), ("/dev/tty", .terminal)]

/-- How many streams have paths. -/
def maxStreams : Nat := 64

/-- The tree of a system with some programs and nothing else. -/
def standard (programs : List String) : Tree :=
  let folders : Tree :=
    ⟨#[.folder 0 [("work", 1), ("tmp", 2)], .folder 0 [], .folder 0 []]⟩
  let additions : List (String × Node) :=
    plainFolders.map (fun path => (path, .folder 0 []))
      ++ [("/etc/passwd", .file "root:x:0:0:root:/root:/bin/bash\n".toUTF8 false), ("/etc/hostname", .file .empty false)]
      ++ standardDevices.map (fun (path, d) => (path, .device d))
      ++ (List.range maxStreams).map (fun n => ("/proc/self/fd/" ++ toString n, .stream n))
      ++ programs.map (fun name => ("/usr/bin/" ++ name, .program name))
      ++ standardLinks.map (fun (path, target) => (path, .link target))
  additions.foldl (fun t (path, n) => t.growAt path n) folders

end GuardedCnf.Tree
