import PipelinedMachine.Disk.Image
import PipelinedMachine.Text.Number
import PipelinedMachine.Word.Bytes

/-!
# Disk images in directories

On the host a disk image is a directory with one file per block, named after the block's number.

* `blockIndex?` — the block that a file name stands for;
* `DiskImage.addFile?` — one block file;
* `DiskImage.load` — the image in a directory, from all its block files;
* `DiskImage.save` — writes every block that the image keeps.  Files of other blocks stay as they
  are.

Main statement: `blockIndex?_blockFileName`, the file name of a block stands for that block.
-/

namespace PipelinedMachine

/-- The part of a name in front of its last dot, and the part after it.  A dot at the very beginning
does not count. -/
def splitExtension? (name : String) : Option (String × String) :=
  let cs := name.toList.reverse
  match cs.dropWhile fun c => c ≠ '.' with
  | [] | [_] => none
  | _ :: stem =>
    some (String.ofList stem.reverse, String.ofList (cs.takeWhile fun c => c ≠ '.').reverse)

/-- The extension of block files. -/
def blockExtension : String := "block"

/-- The number of the block that a file name stands for, if it is that of a block file. -/
def blockIndex? (name : String) : Option Nat :=
  match splitExtension? name with
  | some (stem, extension) =>
    if extension = blockExtension then readUnsigned? maxUnsigned64 stem else none
  | none => none

/-- The file name of a block. -/
def blockFileName (index : Nat) : String := toString index ++ "." ++ blockExtension

theorem splitExtension?_append {stem extension : String} (hstem : stem ≠ "")
    (hdot : '.' ∉ extension.toList) :
    splitExtension? (stem ++ "." ++ extension) = some (stem, extension) := by
  have hlist : (stem ++ "." ++ extension).toList.reverse
      = extension.toList.reverse ++ '.' :: stem.toList.reverse := by simp
  have hall : ∀ c ∈ extension.toList.reverse, decide (c ≠ '.') = true := by
    intro c hc
    simp only [decide_eq_true_eq]
    rintro rfl
    exact hdot (List.mem_reverse.mp hc)
  have hrest : stem.toList.reverse ≠ [] := by simpa using hstem
  rw [splitExtension?, hlist, List.dropWhile_append_of_pos hall, List.takeWhile_append_of_pos hall]
  simp

/-- The file name of a block stands for that block. -/
theorem blockIndex?_blockFileName {index : Nat} (h : index ≤ maxUnsigned64) :
    blockIndex? (blockFileName index) = some index := by
  have hstem : toString index ≠ "" := by simp
  rw [blockIndex?, blockFileName, splitExtension?_append hstem (by decide)]
  simp only [if_true]
  exact readUnsigned?_toString h

namespace DiskImage

/-- The image with one block taken from the contents of its file. -/
def addFile? (image : DiskImage) (index : Nat) (path : String) (contents : ByteArray) :
    Except DiskError DiskImage :=
  if contents.size = blockFileBytes then
    image.write? index (Block.ofWords (Word.ofFile contents))
  else .error (.badBlockSize path contents.size)

section
variable {m : Type → Type} [Monad m] [FileStore m]

/-- An access on behalf of an image, whose failure names the path. -/
def accessing {α : Type} (path : String) (action : ExceptT FileError m α) : ExceptT DiskError m α :=
  action.adapt (DiskError.access path)

/-- Takes up one name of a directory; names that are not those of block files are passed over. -/
def loadEntry (directory : String) (image : DiskImage) (name : String) :
    ExceptT DiskError m DiskImage :=
  match blockIndex? name with
  | none => pure image
  | some index => do
    let path := joinPath directory name
    let contents ← accessing path (FileStore.readFile path)
    ExceptT.mk (pure (image.addFile? index path contents))

/-- The image in a directory. -/
def load (directory : String) (capacity : Nat) : ExceptT DiskError m DiskImage := do
  let names ← accessing directory (FileStore.listDirectory directory)
  names.foldlM (loadEntry directory) (blank capacity)

/-- Writes one block to its file. -/
def saveBlock (directory : String) (index : Nat) (block : Block) : ExceptT DiskError m Unit :=
  let path := joinPath directory (blockFileName index)
  accessing path (FileStore.writeFile path (Word.toFile block.toArray))

/-- Writes the image to a directory, which is created if necessary. -/
def save (image : DiskImage) (directory : String) : ExceptT DiskError m Unit := do
  accessing directory (createDirectories directory)
  image.blocks.toList.forM fun entry => saveBlock directory entry.1 entry.2

end

end DiskImage

end PipelinedMachine
