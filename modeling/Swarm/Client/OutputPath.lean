import Swarm.Storage.Tree
import Swarm.Torrent.Descriptor

/-!
Where a download is written: a file in the output directory, named by the last name in what the
torrent suggests, or by its digest if that is no name.
-/

namespace Swarm.Client

/-- The last name in a path, unless that is a step up. -/
def lastName? (path : String) : Option String :=
  (Storage.Path.names path).getLast?.filter (· != "..")

def fileName (d : Descriptor) : String := (lastName? d.content.name).getD d.infoHash.hex

def outputPath (directory : String) (d : Descriptor) : String :=
  Storage.Path.join directory (fileName d)

end Swarm.Client
