import WorkerFleet.Host.World.Openings

/-!
# Answers to processes

What the system does at each request of a process. A request that cannot be answered yet tells what
its process waits for.
-/

namespace WorkerFleet.Host.World

/-- A change of the files, which may be refused. -/
def change (w : World) (changed : Except OsError FileSystem) : World × Except OsError Unit :=
  match changed with
  | .ok files => ({ w with files }, .ok ())
  | .error e => (w, .error e)

def changeDir (w : World) (p : Process) (path : OsString) : World × Except OsError Unit :=
  match w.files.findDirectory p.dir path with
  | .error e => (w, .error e)
  | .ok dir =>
    match w.files.node? dir with
    | some (.directory mode _) =>
      if (Permissions.ofMode mode).execute then (w.update p.pid fun q => { q with dir }, .ok ())
      else (w, .error .accessDenied)
    | _ => (w, .error .notDirectory)

def makeFifo (w : World) (p : Process) (path : OsString) (mode : Nat) :
    World × Except OsError Unit :=
  let (after, c) := w.addChannel []
  after.change (after.files.addNamed p.dir path (.fifo c (p.masked mode)))

/-- Cuts a file to a size, or fills it up with zeros. -/
def resize (w : World) (p : Process) (path : OsString) (size : Nat) :
    World × Except OsError Unit :=
  match w.files.find p.dir path true with
  | .error e => (w, .error e)
  | .ok (_, .file number) =>
    if (Permissions.ofMode (w.files.file number).mode).write then
      let bytes := (w.files.file number).content.take size
      (w.store (.file number) (bytes ++ List.replicate (size - bytes.length) 0), .ok ())
    else (w, .error .accessDenied)
  | .ok (_, .directory _ _) => (w, .error .isDirectory)
  | .ok _ => (w, .error .invalidArgument)

/-- The answer to a request of a process, if it has one yet. -/
def answer (w : World) (p : Process) :
    (r : System.Request) → Except Blocker (World × System.Reply r)
  | .ownPid => .ok (w, p.pid)
  | .parentPid => .ok (w, p.parent)
  | .fork => .error .child
  | .exit _ => .error .child
  | .await child interruptible =>
    match w.awaited p child interruptible with
    | some found => .ok found
    | none => .error .child
  | .awaitUntil child time =>
    match w.awaited p child false with
    | some found => .ok found
    | none => if time ≤ w.clock then .ok (w, .expired) else .error .childOrTime
  | .handle signal disposition =>
    .ok (w.update p.pid (·.setDisposition signal disposition), ())
  | .takeSignals => .ok (w.update p.pid fun q => { q with arrived := [] }, p.arrived)
  | .resetSignals => .ok (w.update p.pid fun q => { q with caught := [], arrived := [] }, ())
  | .pause _ => .ok (w, ())
  | .work => .ok (w, ())
  | .now => .ok (w, w.clock)
  | .kill pid signal =>
    .ok <| match w.kill pid signal with
      | .ok after => (after, .ok ())
      | .error e => (w, .error e)
  | .openPath path access => w.openPath p path access
  | .openText bytes =>
    let (w, c) := w.addChannel bytes
    .ok (w.addOpening p.pid { target := .channel c, access := .toRead })
  | .openPipe =>
    let (w, c) := w.addChannel []
    let (w, source) := w.addOpening p.pid { target := .channel c, access := .toRead }
    let (w, sink) := w.addOpening p.pid { target := .channel c, access := .toWrite }
    .ok (w, (source, sink))
  | .duplicate source target => .ok (w.duplicate p source target)
  | .putAside descriptor => .ok (w.putAside p descriptor)
  | .close descriptor => .ok (w.closeAll p (· == descriptor), ())
  | .closeFrom descriptor => .ok (w.closeAll p (descriptor ≤ ·), ())
  | .write descriptor bytes => .ok (w.write p descriptor bytes)
  | .read descriptor limit => w.readWith p descriptor (takeSome limit)
  | .readLine descriptor => w.readWith p descriptor takeLine
  | .goBack descriptor count => .ok (w.goBack p descriptor count)
  | .statusOf descriptor => .ok (w, w.statusOfOpening p descriptor)
  | .currentDir => .ok (w, pathOf p.dir)
  | .changeDir path => .ok (w.changeDir p path)
  | .status path follow =>
    .ok (w, (w.files.find p.dir path follow).map fun found => w.statusOf found.1 found.2)
  | .list path => .ok (w, (w.files.list p.dir path).map fun found => found.map (·.1))
  | .readLink path => .ok (w, w.files.readLink p.dir path)
  | .resolve path => .ok (w, (w.files.find p.dir path true).map fun found => pathOf found.1)
  | .createNew path => .ok (w.change (w.files.createNew w.clock p.dir path))
  | .append path bytes => .ok (w.change (w.files.append w.clock p.dir path bytes))
  | .rename source target => .ok (w.change (w.files.rename p.dir source target))
  | .makeDirectory path mode => .ok (w.change (w.files.makeDirectory p.dir path (p.masked mode)))
  | .removeFile path => .ok (w.change (w.files.removeFile p.dir path))
  | .removeDirectory path => .ok (w.change (w.files.removeDirectory p.dir path))
  | .setMode path mode => .ok (w.change (w.files.setMode p.dir path mode))
  | .link source target => .ok (w.change (w.files.link p.dir source target))
  | .symlink target path =>
    .ok <| if target.isEmpty then (w, .error .notFound)
      else w.change (w.files.addNamed p.dir path (.symlink target))
  | .makeFifo path mode => .ok (w.makeFifo p path mode)
  | .setModified path time => .ok (w.change (w.files.setModified time p.dir path))
  | .resize path size => .ok (w.resize p path size)
  | .setMask mask => .ok (w.update p.pid fun q => { q with mask }, p.mask)
  | .load program search argv environment =>
    .ok (w, Executable.resolve w.files p.dir environment search program argv)

end WorkerFleet.Host.World
