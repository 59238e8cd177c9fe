/-
This file lists the programs of the system.
-/

import ShellSmoke.Shell.Startup
import ShellSmoke.Tools.Copying
import ShellSmoke.Tools.Counting
import ShellSmoke.Tools.Following
import ShellSmoke.Tools.Listing
import ShellSmoke.Tools.Removing
import ShellSmoke.Tools.Sleeping
import ShellSmoke.Tools.Words

namespace ShellSmoke

/-- The programs of the system. -/
def tools : List Machine.Tool :=
  [Shell.shell, Tools.cat, Tools.succeed, Tools.fail, Tools.echo, Tools.printf, Tools.test,
    Tools.bracket, Tools.sleep, Tools.list, Tools.tail, Tools.count, Tools.remove, Tools.kill,
    Tools.workingDirectory]

end ShellSmoke
