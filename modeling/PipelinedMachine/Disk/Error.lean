import PipelinedMachine.FileStore

/-!
# Disk errors

What can go wrong with a disk image, and how it is reported.
-/

namespace PipelinedMachine

/-- Why a disk image cannot be made, loaded or saved. -/
inductive DiskError where
  /-- A file or directory of the image could not be accessed. -/
  | access (path : String) (cause : FileError)
  /-- A block file does not hold exactly one block. -/
  | badBlockSize (path : String) (size : Nat)
  /-- A block lies beyond the end of the disk. -/
  | outOfRange (index capacity : Nat)
deriving DecidableEq, Repr

/-- Bytes in a block file. -/
def blockFileBytes : Nat := 16384

/-- The error in words. -/
def DiskError.text : DiskError → String
  | access path cause => "block image I/O on " ++ path ++ ": " ++ cause.text
  | badBlockSize path size =>
    "block file " ++ path ++ " holds " ++ toString size ++ " bytes, expected " ++
      toString blockFileBytes
  | outOfRange index capacity =>
    "block " ++ toString index ++ " is outside an image of " ++ toString capacity ++ " blocks"

/-- The cause behind the error, for reports that name both. -/
def DiskError.cause? : DiskError → Option FileError
  | access _ cause => some cause
  | badBlockSize .. | outOfRange .. => none

end PipelinedMachine
