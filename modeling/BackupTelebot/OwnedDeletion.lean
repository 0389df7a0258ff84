import BackupTelebot.OwnedDirectories

/-! Whatever the run table and the file system hold, a deletion takes one owned directory at
a time, and of a failed run only one that was verified when it was due. -/
namespace BackupTelebot.Deletion

open PyJson Posix FileSystem

section Paths

variable {h : Host} {fs : FileSystem}

end Paths

section Removals

variable {h : Host} {fs : FileSystem}

/-- The manifest of the directory names the run, and its bytes have the recorded size and digest. -/
structure Verified (h : Host) (fs : FileSystem) (run : RunRow) (place : Location) : Prop where
  named : ∃ document, manifestDocument h.os (directoryAt fs place) = .ok document ∧ hasOwner document run.uuid = true
  bytes : ∃ size sha256 parts, run.finalSizeBytes = some size ∧ run.finalSha256 = some sha256 ∧
    Intact h.os (directoryAt fs place) size sha256 parts

end Removals

section Operations

variable {h : Host} {operation : Operation} {runs : List RunRow} {fs : FileSystem}

structure SameArtifact (row run : RunRow) : Prop where
  uuid : row.uuid = run.uuid
  status : row.status = run.status
  due : row.failedArtifactCleanupAt = run.failedArtifactCleanupAt
  sizeBytes : row.finalSizeBytes = run.finalSizeBytes
  sha256 : row.finalSha256 = run.finalSha256

theorem SameArtifact.verified {row run : RunRow} {place : Location} (same : SameArtifact row run)
    (verified : Verified h fs row place) : Verified h fs run place where
  named := same.uuid ▸ verified.named
  bytes := same.sizeBytes ▸ same.sha256 ▸ verified.bytes

end Operations

end BackupTelebot.Deletion
