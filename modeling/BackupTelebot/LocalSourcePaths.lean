import BackupTelebot.ProfileConfig

/-! Local sources under two names: the path on the host, which a profile keeps, and the
path at which the worker's container sees the same directory. -/
namespace BackupTelebot.Config

open PyJson PurePosix

structure LocalSourcePathError where
  reason : String
  message : String
  deriving DecidableEq

structure LocalSourcePathMapper where
  allowedIdentityRoots : List Str
  deniedRoots : List Str
  mountMappings : List (Str × Str)

def sourcePath (configuredRoot : Bool) (value : Str) : Except LocalSourcePathError PurePosix.Path :=
  match validateAbsolutePath value with
  | .error _ => .error ⟨"invalid_path","invalid local source path"⟩
  | .ok clean =>
      if configuredRoot && decide (parse clean = ⟨.single,[]⟩) then
        .error ⟨"root_not_allowed","filesystem root cannot be approved"⟩
      else .ok (parse clean)

structure Configuration where
  identity : List PurePosix.Path
  denied : List PurePosix.Path
  mappings : List (PurePosix.Path × PurePosix.Path)

def mappingPaths (mapping : Str × Str) : Except LocalSourcePathError (PurePosix.Path × PurePosix.Path) := do
  let host ← sourcePath true mapping.1
  let container ← sourcePath true mapping.2
  return (host,container)

def LocalSourcePathMapper.configuration (m : LocalSourcePathMapper) : Except LocalSourcePathError Configuration := do
  let identity ← m.allowedIdentityRoots.mapM (sourcePath true)
  let denied ← m.deniedRoots.mapM (sourcePath false)
  let mappings ← m.mountMappings.mapM mappingPaths
  refuse (!decide (mappings.map (·.1)).Nodup) ⟨"invalid_configuration","duplicate host source root"⟩
  refuse (!decide (mappings.map (·.2)).Nodup) ⟨"invalid_configuration","duplicate container source root"⟩
  return ⟨identity,denied,mappings⟩

namespace Configuration

def hostMatch (c : Configuration) (path : PurePosix.Path) : Option (PurePosix.Path × PurePosix.Path) :=
  (c.mappings.filter fun mapping => path.within mapping.1).argmax fun mapping => mapping.1.names.length

def containerMatch (c : Configuration) (path : PurePosix.Path) : Option (PurePosix.Path × PurePosix.Path) :=
  (c.mappings.filter fun mapping => path.within mapping.2).argmax fun mapping => mapping.2.names.length

/-- Legacy profiles may contain a container target. It is reversed unless it also is a host path. -/
def hostSide (c : Configuration) (path : PurePosix.Path) : PurePosix.Path :=
  match c.hostMatch path, c.containerMatch path with
  | none,some (host,container) => host.extend (path.below container)
  | _,_ => path

def containerSide (c : Configuration) (path : PurePosix.Path) : PurePosix.Path :=
  match c.hostMatch path with
  | some (host,container) => container.extend (path.below host)
  | none => path

def isDenied (c : Configuration) (path : PurePosix.Path) : Bool := c.denied.any fun root => path.within root

def isApproved (c : Configuration) (path : PurePosix.Path) : Bool :=
  c.identity.any (fun root => path.within root) || c.mappings.any fun mapping => path.within mapping.1

def isApart (c : Configuration) (root : PurePosix.Path) : Bool :=
  !c.mappings.any fun mapping => root.within mapping.1 || mapping.1.within root

def containerRoots (c : Configuration) : List PurePosix.Path := c.identity.filter c.isApart ++ c.mappings.map (·.2)

/-- Under a root of the container's namespace and under no denied one. -/
def confines (c : Configuration) (path : PurePosix.Path) : Bool :=
  !c.isDenied path && c.containerRoots.any fun root => path.within root

end Configuration

namespace LocalSourcePathMapper

def canonicalHostPath (m : LocalSourcePathMapper) (value : Str) : Except LocalSourcePathError Str := do
  let path ← sourcePath false value
  let c ← m.configuration
  refuse (c.isDenied (c.hostSide path)) ⟨"denied_root","local source is under a denied root"⟩
  refuse (!c.isApproved (c.hostSide path)) ⟨"outside_configured_roots","local source is outside approved host roots"⟩
  return (c.hostSide path).text

def containerPath (m : LocalSourcePathMapper) (value : Str) : Except LocalSourcePathError Str := do
  let canonical ← m.canonicalHostPath value
  let hostPath := parse canonical
  let c ← m.configuration
  refuse (c.isDenied (c.containerSide hostPath)) ⟨"denied_root","local source is under a denied root"⟩
  return (c.containerSide hostPath).text

def validateContainerPath (m : LocalSourcePathMapper) (value : Str) : Except LocalSourcePathError Str := do
  let path ← sourcePath false value
  let c ← m.configuration
  refuse (c.isDenied path) ⟨"denied_root","local source is under a denied root"⟩
  refuse (!c.containerRoots.any fun root => path.within root)
    ⟨"container_escape","local source escapes its configured container root"⟩
  return path.text

end LocalSourcePathMapper

end BackupTelebot.Config
