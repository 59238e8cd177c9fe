/-
This file gives the world as a harness finds it: the usual directories, the programs of the system,
and the files that were put into the working directory.
-/

import ShellSmoke.Machine.Kernel

namespace ShellSmoke.Machine

/-- A file to be put into the working directory. -/
structure PlacedFile where
  name : Bytes
  content : Bytes
  executable : Bool
deriving DecidableEq, Repr, Inhabited

/-- A program of the system, with its name. -/
structure Tool where
  name : String
  main : Launch → Program

/-- An absolute path, from its names. -/
def Path.ofNames (names : List String) : Path := names.map Bytes.ofString

/-- The working directory of a harness and of its targets. -/
def workplace : Path := .ofNames ["tmp", "work"]

/-- The directories that are always there, with their permissions. -/
def usualDirectories : List (Path × Node) :=
  let common := [["boot"], ["dev"], ["etc"], ["home"], ["media"], ["mnt"], ["opt"], ["run"],
    ["srv"], ["usr"], ["usr", "bin"], ["usr", "games"], ["usr", "include"], ["usr", "lib"],
    ["usr", "lib64"], ["usr", "local"], ["usr", "local", "bin"], ["usr", "local", "lib"],
    ["usr", "local", "sbin"], ["usr", "sbin"], ["usr", "share"], ["usr", "src"], ["var"],
    ["var", "cache"], ["var", "lib"], ["var", "log"], ["var", "spool"]]
  let shared := [["dev", "shm"], ["tmp"], ["var", "tmp"]]
  common.map (fun names => (.ofNames names, .directory 0o755)) ++
    shared.map (fun names => (.ofNames names, .directory 0o1777)) ++
    [(.ofNames ["proc"], .directory 0o555), (.ofNames ["root"], .directory 0o700),
      (.ofNames ["sys"], .directory 0o555), (workplace, .directory 0o755)]

/-- The directory that holds the programs of the system. -/
def toolDirectory : Path := .ofNames ["usr", "bin"]

/-- The paths that stand for others. -/
def usualLinks : List (Path × Node) :=
  [(["bin"], "usr/bin"), (["lib"], "usr/lib"), (["lib64"], "usr/lib64"), (["sbin"], "usr/sbin"),
    (["usr", "bin", "sh"], "dash"), (["dev", "fd"], "/proc/self/fd"),
    (["dev", "stdin"], "/proc/self/fd/0"), (["dev", "stdout"], "/proc/self/fd/1"),
    (["dev", "stderr"], "/proc/self/fd/2")].map
    fun ((names, target) : List String × String) =>
      (.ofNames names, .link (Bytes.ofString target))

/-- The file of the accounts, which nobody can start. -/
def accounts : Node :=
  let service (name : String) (numbers home : String) : String :=
    name ++ ":x:" ++ numbers ++ ":" ++ name ++ ":" ++ home ++ ":/usr/sbin/nologin\n"
  .regular (Bytes.ofString (
    "root:x:0:0:root:/root:/bin/bash\n" ++
    service "daemon" "1:1" "/usr/sbin" ++
    service "bin" "2:2" "/bin" ++
    service "sys" "3:3" "/dev" ++
    "sync:x:4:65534:sync:/bin:/bin/sync\n" ++
    service "games" "5:60" "/usr/games" ++
    service "man" "6:12" "/var/cache/man" ++
    service "lp" "7:7" "/var/spool/lpd" ++
    service "mail" "8:8" "/var/mail" ++
    service "news" "9:9" "/var/spool/news" ++
    service "uucp" "10:10" "/var/spool/uucp" ++
    service "proxy" "13:13" "/bin" ++
    service "www-data" "33:33" "/var/www" ++
    service "backup" "34:34" "/var/backups" ++
    "list:x:38:38:Mailing List Manager:/var/list:/usr/sbin/nologin\n" ++
    "irc:x:39:39:ircd:/run/ircd:/usr/sbin/nologin\n" ++
    "_apt:x:42:65534::/nonexistent:/usr/sbin/nologin\n" ++
    service "nobody" "65534:65534" "/nonexistent")) 0o644 0

/-- The devices that are always there. -/
def devices : List (Path × Node) :=
  [Device.null, .zero, .full, .terminal].map fun device =>
    (.ofNames ["dev", device.name], .device device)

/-- The permissions of a file that is put into the working directory. -/
def PlacedFile.mode (file : PlacedFile) : Nat := if file.executable then 0o755 else 0o644

/-- The files of a fresh system. -/
def Files.fresh (tools : List Tool) (placed : List PlacedFile) : Files :=
  let fixed := usualDirectories ++ usualLinks ++ devices ++
    [(.ofNames ["etc", "passwd"], accounts)]
  let programs := tools.map fun tool =>
    (toolDirectory ++ [Bytes.ofString tool.name], Node.binary tool.main)
  let brought := placed.map fun file =>
    (workplace ++ [file.name], Node.regular file.content file.mode 0)
  (fixed ++ programs ++ brought).foldl (fun files (path, node) => files.put path node) .empty

/-- The variables that programs are started with. -/
def usualVariables : Variables :=
  [("HOME", "/root"), ("PATH", "/usr/local/sbin:/usr/local/bin:/usr/sbin:/usr/bin:/sbin:/bin")].map
    fun (name, value) => (Bytes.ofString name, Bytes.ofString value)

/-- The permissions that new files do not get. -/
def usualMask : Nat := 0o022

/-- The limits that are set. -/
def usualLimits : List (Resource × Limit) :=
  [(.stackSize, ⟨some 8388608, none⟩), (.dumpSize, ⟨some 0, none⟩),
    (.lockedMemory, ⟨some 8388608, some 8388608⟩), (.processes, ⟨some 128619, some 128619⟩),
    (.descriptors, ⟨some 1048576, some 1048576⟩), (.priority, ⟨some 0, some 0⟩)]

/-- A number that no process has had. -/
def firstProcess : Nat := harnessProcess + 1

/-- A fresh world, in which nothing runs. -/
def World.fresh (tools : List Tool) (placed : List PlacedFile) : World where
  clock := 0
  horizon := 0
  files := .fresh tools placed
  exchange := default
  inlet := .fresh Channel.usualCapacity 0 0
  room := none
  target := 0
  processes := []
  openFiles := []
  channels := []
  nextNumber := 0
  nextProcess := firstProcess
  turn := 0

end ShellSmoke.Machine
