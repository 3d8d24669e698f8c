import WorkerFleet.Utility.Columns
import WorkerFleet.Utility.Computing
import WorkerFleet.Utility.Deciding
import WorkerFleet.Utility.Editing
import WorkerFleet.Utility.Finding
import WorkerFleet.Utility.Launching
import WorkerFleet.Utility.Listing
import WorkerFleet.Utility.Searching

/-!
# The utilities of the machine
-/

namespace WorkerFleet.Utility

/-- The programs by name. -/
def programs : List (String × (List Octets → Program Unit)) := [
  ("[", bracket), ("basename", basename), ("cat", cat), ("chmod", chmod), ("cmp", cmp),
  ("comm", comm), ("cp", cp), ("cut", cut), ("dirname", dirname), ("echo", echo), ("env", env),
  ("expr", expr), ("false", endWith 1), ("find", find), ("fold", fold), ("grep", grep),
  ("head", head), ("kill", kill), ("ln", ln), ("ls", ls), ("mkdir", mkdir), ("mkfifo", mkfifo),
  ("mktemp", mktemp), ("mv", mv), ("nice", nice), ("nl", nl), ("nohup", nohup), ("paste", paste),
  ("printenv", printenv), ("printf", printf), ("pwd", pwd), ("readlink", readlink),
  ("realpath", realpath), ("rev", rev), ("rm", rm), ("rmdir", rmdir), ("sed", sed), ("seq", seq),
  ("sleep", sleep), ("sort", sort), ("stat", stat), ("tac", tac), ("tail", tail), ("tee", tee),
  ("test", test), ("timeout", timeout), ("touch", touch), ("tr", tr), ("true", endWith 0),
  ("truncate", truncate), ("uniq", uniq), ("wc", wc), ("which", which), ("xargs", xargs),
  ("yes", yes)]

def names : List String := programs.map (·.1)

def program (name : String) (args : List Octets) : Program Unit :=
  match programs.lookup name with
  | some run => run args
  | none => quit 127

end WorkerFleet.Utility
