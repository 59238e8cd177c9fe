/-
This file lists the commands that the shell carries out itself.
-/

import ShellSmoke.Shell.Builtins.Aliases
import ShellSmoke.Shell.Builtins.Control
import ShellSmoke.Shell.Builtins.Directories
import ShellSmoke.Shell.Builtins.Limits
import ShellSmoke.Shell.Builtins.Printing
import ShellSmoke.Shell.Builtins.Processes
import ShellSmoke.Shell.Builtins.Variables

namespace ShellSmoke.Shell

/-- The builtins that are special: an error in one of them ends the shell, and what is assigned in
front of them stays. -/
def specialBuiltins : List (String × Builtin) :=
  [(":", fun _ _ => done 0), (".", sourceBuiltin), ("break", breakBuiltin),
    ("continue", continueBuiltin), ("eval", evalBuiltin), ("exit", exitBuiltin),
    ("export", exportBuiltin), ("local", localBuiltin), ("readonly", readonlyBuiltin),
    ("return", returnBuiltin), ("set", setBuiltin), ("shift", shiftBuiltin),
    ("times", timesBuiltin), ("trap", trapBuiltin), ("unset", unsetBuiltin)]

/-- All other builtins. -/
def usualBuiltins : List (String × Builtin) :=
  [("true", fun _ _ => done 0), ("false", fun _ _ => done 1), ("alias", aliasBuiltin),
    ("bg", moveBuiltin), ("cd", cdBuiltin), ("chdir", cdBuiltin), ("echo", echoBuiltin),
    ("fg", moveBuiltin), ("getopts", getoptsBuiltin), ("jobs", jobsBuiltin),
    ("kill", killBuiltin), ("printf", printfBuiltin), ("pwd", pwdBuiltin), ("read", readBuiltin),
    ("test", testBuiltin), ("[", bracketBuiltin), ("ulimit", ulimitBuiltin),
    ("umask", umaskBuiltin), ("unalias", unaliasBuiltin), ("wait", waitBuiltin)]

end ShellSmoke.Shell
