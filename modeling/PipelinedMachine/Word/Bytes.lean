import PipelinedMachine.Word

/-!
# Words in files

Program files and block files hold words as four bytes each, least significant byte first.

* `Word.toFile` — the bytes that hold a sequence of words;
* `Word.ofFile` — the whole words in a sequence of bytes, a trailing partial word being dropped;
* `Word.ofFile?` — the same, refusing a length that is not a multiple of four.

Main statement: `Word.ofFile_toFile`, words written to a file are read back.
-/

namespace PipelinedMachine.Word

/-- Bytes that one word takes in a file. -/
def fileBytes : Nat := 4

/-- The bytes that hold `words` in a file: four each, least significant first. -/
def toFile (words : Array Word) : ByteArray :=
  ⟨words.flatMap fun w => #[w.byte0, w.byte1, w.byte2, w.byte3]⟩

/-- The whole words that `bytes` holds; up to three bytes at the end may be left over. -/
def ofFile (bytes : ByteArray) : Array Word :=
  let data := bytes.data
  Array.ofFn fun i : Fin (bytes.size / fileBytes) =>
    let byteAt := fun k => data.getD (fileBytes * i + k) 0
    ofBytes (byteAt 3) (byteAt 2) (byteAt 1) (byteAt 0)

/-- The words that `bytes` holds, if its length is a whole number of words. -/
def ofFile? (bytes : ByteArray) : Option (Array Word) :=
  if bytes.size % fileBytes = 0 then some (ofFile bytes) else none

/-! ## Reading back -/

/-- The bytes of one word, in the order in which a file holds them. -/
def quad (w : Word) : Array UInt8 := #[w.byte0, w.byte1, w.byte2, w.byte3]

theorem size_toFile (words : Array Word) : (toFile words).size = fileBytes * words.size := by
  show (words.flatMap quad).size = _
  rw [Array.size_flatMap]
  simp [quad, fileBytes, Array.map_const', Nat.mul_comm]

theorem getElem?_flatMap_quad (words : List Word) {i k : Nat} (hi : i < words.length)
    (hk : k < fileBytes) :
    (words.flatMap fun w => (quad w).toList)[fileBytes * i + k]? = (quad words[i])[k]? := by
  induction words generalizing i with
  | nil => simp at hi
  | cons w words ih =>
      have hquad : (quad w).toList.length = fileBytes := rfl
      rw [List.flatMap_cons]
      cases i with
      | zero =>
          rw [List.getElem?_append_left (by omega)]
          simp
      | succ i =>
          have hskip : fileBytes * (i + 1) + k = fileBytes + (fileBytes * i + k) := by
            rw [Nat.mul_succ]
            omega
          rw [hskip, List.getElem?_append_right (by omega), hquad, Nat.add_sub_cancel_left]
          exact ih (by simpa using hi)

/-- Words written to a file are read back. -/
theorem ofFile_toFile (words : Array Word) : ofFile (toFile words) = words := by
  have hsize : (toFile words).size / fileBytes = words.size := by
    rw [size_toFile]
    simp [fileBytes]
  apply Array.ext
  · simp [ofFile, hsize]
  · intro i h _
    have hi : i < words.size := by simpa [ofFile, hsize] using h
    have hbyte : ∀ k < fileBytes,
        (toFile words).data.getD (fileBytes * i + k) 0 = (quad words[i])[k]?.getD 0 := by
      intro k hk
      have hlist : (toFile words).data = (words.toList.flatMap fun w => (quad w).toList).toArray :=
        (Array.toList_inj.mp (by simp [toFile, quad]))
      rw [Array.getD_eq_getD_getElem?, hlist, List.getElem?_toArray,
        getElem?_flatMap_quad words.toList (by simpa using hi) hk, Array.getElem_toList]
    simp only [ofFile, Array.getElem_ofFn]
    rw [hbyte 3 (by decide), hbyte 2 (by decide), hbyte 1 (by decide), hbyte 0 (by decide)]
    exact ofBytes_bytes words[i]

end PipelinedMachine.Word
