import Criteria.Storage.Disk
/-!
A run of a program on a disk in memory, with the lines that it writes. The clock stands still.
-/

namespace Criteria

structure Session where
  disk : Disk
  time : Timestamp
  /-- The lines of both streams, in order. -/
  output : List String
  complaints : List String
  deriving DecidableEq

namespace Session

def start (disk : Disk) (time : Timestamp) : Session := ⟨disk, time, [], []⟩

/-- Works on the disk of the session. -/
def onDisk {α : Type} (f : StateM Disk α) : StateM Session α :=
  modifyGet fun s =>
    let (a, disk) := f.run s.disk
    (a, { s with disk })

def host : Host (StateM Session) where
  kind? p := onDisk (Disk.storage.kind? p)
  read p := onDisk (Disk.storage.read p)
  write p s := onDisk (Disk.storage.write p s)
  makeFolders p := onDisk (Disk.storage.makeFolders p)
  filesBelow p := onDisk (Disk.storage.filesBelow p)
  resolve? p := onDisk (Disk.storage.resolve? p)
  now := return (← get).time
  say line := modify fun s => { s with output := s.output ++ [line] }
  complain line := modify fun s => { s with complaints := s.complaints ++ [line] }

end Session

end Criteria
