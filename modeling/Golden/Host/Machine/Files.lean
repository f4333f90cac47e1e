import Golden.Host.Machine

/-! # What processes do with files

Opening, reading, writing and asking for facts. A call that has to wait has no reply yet. -/

namespace Golden.Host.Machine

/-- The machine as it is after a change of its tree, or as it was. -/
def edit (m : Machine) (r : Except Errno Tree) : Machine × Except Errno Unit :=
  match r with
  | .ok tree => ({ m with tree }, .ok ())
  | .error e => (m, .error e)

/-- The tree as a process sees it. -/
def view (m : Machine) (pid : Nat) : Tree := { m.tree with here := (m.entry pid).directory }

/-- Changes the tree as a process sees it. -/
def editFrom (m : Machine) (pid : Nat) (f : Tree → Except Errno Tree) :
    Machine × Except Errno Unit :=
  m.edit (f (m.view pid))

/-- The mode of something new. -/
def modeOf (m : Machine) (pid mode : Nat) : Nat := mode - (mode &&& (m.entry pid).mask)

/-! ### Opening -/

/-- Opens a pipe with a name. A process waits for the other end, unless it opens both. -/
def openFifo (m : Machine) (pid i : Nat) (how : Opening) :
    Machine × Except Errno Nat × Option Nat :=
  let (p, m) := match m.fifos.lookup i with
    | some p => (p, m)
    | none =>
      (m.pipes.size,
        { m with
          pipes := m.pipes.push ⟨.empty, 0, 0, 0, 0, 0⟩, fifos := (i, m.pipes.size) :: m.fifos })
  let before := m.pipe p
  let (d, m) := m.openObject pid (.pipe p) how
  let awaited :=
    if how.reads && how.writes then none
    else if how.reads then if before.writers = 0 then some before.writersEver else none
    else if before.readers = 0 then some before.readersEver else none
  (m, .ok d, awaited)

/-- Opens a node. -/
def openNode (m : Machine) (pid i : Nat) (how : Opening) :
    Machine × Except Errno Nat × Option Nat :=
  let plain (m : Machine) : Machine × Except Errno Nat × Option Nat :=
    let (d, m) := m.openObject pid (.node i) how
    (m, .ok d, none)
  match (m.tree.node i).body with
  | .directory .. => if how.writes || how.makes then (m, .error .isDirectory, none) else plain m
  | .file _ =>
    let tree := if how.empties && how.writes then
        (m.tree.change i fun n => { n with body := .file .empty }).touch i
      else m.tree
    plain { m with tree }
  | .program _ => if how.writes then (m, .error .textBusy, none) else plain m
  | .device .terminal => (m, .error .noDeviceOrAddress, none)
  | .fifo => m.openFifo pid i how
  | _ => plain m

/-- Opens what a path leads to. If the other end of a pipe has to be awaited, tells how often it had
been opened before. -/
def openPath (m : Machine) (pid : Nat) (path : String) (how : Opening) (mode : Nat) :
    Machine × Except Errno Nat × Option Nat :=
  let t := m.view pid
  let found := if how.makes then t.locateToWrite path else t.locate true path
  match found with
  | .error e => (m, .error e, none)
  | .ok (.here i) =>
    if how.isNew then (m, .error .alreadyThere, none)
    else
      match (t.node i).body with
      | .device (.descriptor n) =>
        match m.fileOf pid n with
        | .error _ => (m, .error .noEntry, none)
        | .ok f =>
          match (m.file f).object with
          | .node j => m.openNode pid j how
          | o =>
            let (d, m) := m.openObject pid o how
            (m, .ok d, none)
      | _ => m.openNode pid i how
  | .ok (.nothing directory name _) =>
    if !how.makes then (m, .error .noEntry, none)
    else
      let (i, tree) := m.tree.add directory name (.file .empty) (m.modeOf pid mode)
      { m with tree }.openNode pid i how

/-! ### Reading and writing -/

/-- The greatest number of octets in a pipe. -/
def pipeLimit : Nat := 65536

/-- The number of octets that are written to a pipe in one piece or not yet. -/
def pieceLimit : Nat := 4096

/-- The number of octets in a pipe. -/
def held (p : Pipe) : Nat := p.octets.size - p.start

/-- The octets that a device gives. -/
def given (d : Device) (count offset : Nat) : ByteArray :=
  match d with
  | .zero | .full => ⟨Array.replicate count 0⟩
  | .random =>
    ⟨((List.range count).map fun k => ((k + offset) * 2654435761 / 65536).toUInt8).toArray⟩
  | _ => .empty

/-- Reads at most `count` octets. -/
def read (m : Machine) (pid d count : Nat) : Option (Machine × Except Errno ByteArray) :=
  match m.fileOf pid d with
  | .error e => some (m, .error e)
  | .ok f =>
    let o := m.file f
    if !o.reads then some (m, .error .badDescriptor)
    else
      match o.object with
      | .sink _ => some (m, .error .badDescriptor)
      | .pipe i =>
        let p := m.pipe i
        let n := held p
        if n = 0 then if p.writers = 0 then some (m, .ok .empty) else none
        else
          let taken := p.octets.extract p.start (p.start + min n count)
          let after (p : Pipe) : Pipe :=
            if n ≤ count then { p with octets := .empty, start := 0 }
            else if pipeLimit < p.start then
              { p with octets := p.octets.extract (p.start + count) p.octets.size, start := 0 }
            else { p with start := p.start + count }
          some (m.changePipe i after, .ok taken)
      | .node i =>
        match (m.tree.node i).body with
        | .directory .. => some (m, .error .isDirectory)
        | .file contents =>
          let taken := contents.extract o.offset (o.offset + count)
          some (m.changeFile f fun o => { o with offset := o.offset + taken.size }, .ok taken)
        | .device x =>
          let taken := given x count o.offset
          some (m.changeFile f fun o => { o with offset := o.offset + taken.size }, .ok taken)
        | _ => some (m, .ok .empty)

/-- Contents of a file after octets have been written to it at an offset. -/
def overwrite (contents : ByteArray) (offset : Nat) (octets : ByteArray) : ByteArray :=
  if offset = contents.size then contents ++ octets
  else if contents.size < offset then
    contents ++ (⟨Array.replicate (offset - contents.size) 0⟩ : ByteArray) ++ octets
  else
    contents.extract 0 offset ++ octets ++ contents.extract (offset + octets.size) contents.size

/-- Changes the contents of a file. -/
def changeContents (m : Machine) (i : Nat) (f : ByteArray → ByteArray) : Machine :=
  let tree := m.tree.change i fun n =>
    match n with
    | ⟨.file contents, mode, links, modified⟩ => ⟨.file (f contents), mode, links, modified⟩
    | n => n
  { m with tree := tree.touch i }

/-- What becomes of octets that are written: all have been written or the write is refused, some
have been written and the rest has to wait, or nothing reads them any more. -/
inductive Written where
  | done (r : Except Errno Nat)
  | partly (count : Nat)
  | unread

/-- Writes octets. -/
def write (m : Machine) (pid d : Nat) (octets : ByteArray) : Machine × Written :=
  match m.fileOf pid d with
  | .error e => (m, .done (.error e))
  | .ok f =>
    let o := m.file f
    let all : Written := .done (.ok octets.size)
    if !o.writes then (m, .done (.error .badDescriptor))
    else
      match o.object with
      | .sink i => ({ m with sinks := m.sinks.modify i (· ++ octets) }, all)
      | .pipe i =>
        let p := m.pipe i
        let space := pipeLimit - held p
        if p.readers = 0 then (m, .unread)
        else if octets.size ≤ space then
          (m.changePipe i fun p => { p with octets := p.octets ++ octets }, all)
        else if space = 0 || octets.size ≤ pieceLimit then (m, .partly 0)
        else
          (m.changePipe i fun p => { p with octets := p.octets ++ octets.extract 0 space },
            .partly space)
      | .node i =>
        match (m.tree.node i).body with
        | .file contents =>
          let offset := if o.appends then contents.size else o.offset
          let m := m.changeContents i fun c => overwrite c offset octets
          (m.changeFile f fun o => { o with offset := offset + octets.size }, all)
        | .device .full => (m, if octets.isEmpty then all else .done (.error .noSpace))
        | .directory .. => (m, .done (.error .badDescriptor))
        | _ => (m, all)

/-- Moves the offset at which a file is read and written. -/
def seek (m : Machine) (pid d : Nat) (offset : Int) (origin : Origin) :
    Machine × Except Errno Nat :=
  match m.fileOf pid d with
  | .error e => (m, .error e)
  | .ok f =>
    let o := m.file f
    match o.object with
    | .node i =>
      let base : Int := match origin, (m.tree.node i).body with
        | .start, _ => 0
        | .current, _ => o.offset
        | .last, .file contents => contents.size
        | .last, _ => 0
      let target := base + offset
      if target < 0 then (m, .error .invalid)
      else (m.changeFile f fun o => { o with offset := target.toNat }, .ok target.toNat)
    | _ => (m, .error .illegalSeek)

/-- Cuts or lengthens a file. -/
def setLength (m : Machine) (pid d length : Nat) : Machine × Except Errno Unit :=
  match m.fileOf pid d with
  | .error e => (m, .error e)
  | .ok f =>
    let o := m.file f
    match o.object, o.writes with
    | .node i, true =>
      match (m.tree.node i).body with
      | .file contents =>
        if length ≤ contents.size then (m.changeContents i (·.extract 0 length), .ok ())
        else (m.changeContents i fun c => overwrite c length .empty, .ok ())
      | _ => (m, .error .invalid)
    | _, _ => (m, .error .invalid)

/-! ### Facts -/

/-- The size that a directory has. -/
def directorySize : Nat := 4096

/-- The number from which on things other than nodes are numbered. -/
def pipeNumbers : Nat := 1000000

/-- What is known of a node. -/
def factsOfNode (m : Machine) (i : Nat) : Facts :=
  let n := m.tree.node i
  let (kind, size) : Kind × Nat := match n.body with
    | .directory .. => (.directory, directorySize)
    | .file contents => (.regular, contents.size)
    | .link target => (.link, target.length)
    | .device _ => (.device, 0)
    | .program name => (.regular, 1000 + name.length)
    | .fifo => (.fifo, 0)
  let inner := ((m.tree.entries? i).getD []).filter fun e => m.tree.holdsNames e.2
  let links := if kind = .directory then 2 + inner.length else n.links
  ⟨i, kind, n.mode, size, links, n.modified⟩

/-- What is known of an open file. -/
def factsOfFile (m : Machine) (f : Nat) : Facts :=
  match (m.file f).object with
  | .node i => m.factsOfNode i
  | .pipe i => ⟨pipeNumbers + i, .fifo, 0o600, 0, 1, m.tree.clock⟩
  | .sink i => ⟨2 * pipeNumbers + i, .fifo, 0o600, 0, 1, m.tree.clock⟩

/-- What is known of what a path leads to. -/
def facts (m : Machine) (pid : Nat) (path : String) (follow : Bool) : Except Errno Facts := do
  let i ← (m.view pid).find follow path
  match (m.tree.node i).body, follow with
  | .device (.descriptor n), true =>
    match m.fileOf pid n with
    | .ok f => return m.factsOfFile f
    | .error _ => throw .noEntry
  | _, _ => return m.factsOfNode i

/-- What is known of what is open under a descriptor. -/
def factsOf (m : Machine) (pid d : Nat) : Except Errno Facts := do
  return m.factsOfFile (← m.fileOf pid d)

end Golden.Host.Machine
