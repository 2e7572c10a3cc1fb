import LeafHub.Config.Blob
import LeafHub.Store.Medium

namespace LeafHub.Config

/-- Where the configuration is kept. -/
def storedNamespace : String := "leafcore"

def storedKey : String := "corecfg"

/-- At most so many bytes are read. -/
def blobLimit : Nat := 128

/-- The configuration of a read from the store. -/
def ofRead : Except StorageFault Bytes → Config
  | .ok bytes => match ofBlob? bytes with
    | some config => if config.validate = none then config else standard
    | none => standard
  | .error _ => standard

/-- What is loaded is always valid: anything missing, unreadable or out of range gives the standard configuration. -/
def load (medium : Medium) : Config :=
  ofRead (medium.read storedNamespace storedKey blobLimit)

/-- Stores a valid configuration. -/
def save (config : Config) (medium : Medium) : Except Fault Unit × Medium :=
  match config.validate with
  | some _ => (.error .invalidValue, medium)
  | none => match medium.write storedNamespace storedKey config.blob with
    | (.ok (), after) => (.ok (), after)
    | (.error fault, after) => (.error (.storage fault), after)

theorem validate_load (medium : Medium) : (load medium).validate = none := by
  unfold load ofRead
  split
  · split
    · split
      · assumption
      · exact validate_standard
    · exact validate_standard
  · exact validate_standard

end LeafHub.Config
