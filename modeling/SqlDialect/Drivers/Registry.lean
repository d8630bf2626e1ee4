import SqlDialect.Drivers.Driver
import SqlDialect.Files.Path

/-!
# The registry of drivers

Drivers are registered under their names; a later registration takes the place of an earlier one.
A registration may depend on a probe, such as that for the library of the native client, and has no
effect when the probe fails.
-/

namespace SqlDialect

/-- The library of the native client. -/
def clientLibrary : String := "libverticaodbc.so"

/-- A search for a library in some directories. -/
structure LibraryProbe where
  /-- The file name of the library. -/
  library : String
  /-- The directories. -/
  paths : List String
deriving DecidableEq

namespace LibraryProbe

/-- The search for the native client: below its home directory, if there is one, and in the place
where it is installed by default. -/
def default (home : Option String) : LibraryProbe where
  library := clientLibrary
  paths := (home.map fun home => Path.join home "lib64").toList ++ ["/opt/vertica/lib64"]

/-- Whether the library is a file in one of the directories. -/
def isAvailable (probe : LibraryProbe) (isFile : String → Bool) : Bool :=
  probe.paths.any fun directory => isFile (Path.join directory probe.library)

end LibraryProbe

/-- The registered drivers by name. -/
structure Registry where
  /-- The drivers. -/
  drivers : KeyedMap Driver := .empty

namespace Registry

/-- The registry without drivers. -/
def empty : Registry := {}

/-- Registers a driver under its name. -/
def register (registry : Registry) (driver : Driver) : Registry :=
  ⟨registry.drivers.insert driver.name driver⟩

/-- Registers a driver if its probe succeeded, and tells whether it was registered. -/
def registerIf (registry : Registry) (driver : Driver) (available : Bool) : Bool × Registry :=
  if available then (true, registry.register driver) else (false, registry)

/-- Registers the driver for Vertica if the native client is found. -/
def registerBuiltin (registry : Registry) (home : Option String) (isFile : String → Bool) :
    Bool × Registry :=
  registry.registerIf .vertica ((LibraryProbe.default home).isAvailable isFile)

/-- The driver under a name. -/
def get? (registry : Registry) (name : String) : Option Driver :=
  registry.drivers.find? name

/-- Whether there is a driver under a name. -/
def has (registry : Registry) (name : String) : Bool :=
  registry.drivers.contains name

/-- The names of the drivers, ascending. -/
def names (registry : Registry) : List String :=
  registry.drivers.keys

theorem get?_register (registry : Registry) (driver : Driver) (name : String) :
    (registry.register driver).get? name =
      if driver.name = name then some driver else registry.get? name :=
  KeyedMap.find?_insert registry.drivers driver.name driver name

end Registry
end SqlDialect
