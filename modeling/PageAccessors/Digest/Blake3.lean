/-!
# BLAKE3 digests

The 256 bit digest that names the contents of a file and the canonical text of a page. The input is
cut into chunks of 1024 bytes, each chunk is compressed block by block into eight words, and the
chunks' words are joined pairwise in a binary tree whose left subtrees are complete. The digest's
text has 64 hexadecimal digits (`length_hex`).
-/

namespace PageAccessors.Digest

/-- Eight words that stand for the part of the input compressed so far. -/
abbrev Chain := Vector UInt32 8

/-- Sixteen words: a block of input, or the state of a compression. -/
abbrev Block := Vector UInt32 16

def initialChain : Chain :=
  #v[0x6A09E667, 0xBB67AE85, 0x3C6EF372, 0xA54FF53A, 0x510E527F, 0x9B05688C, 0x1F83D9AB, 0x5BE0CD19]

/-- The order in which a round's message words come from those of the round before. -/
def messageOrder : Vector (Fin 16) 16 := #v[2, 6, 3, 10, 7, 0, 4, 13, 1, 11, 12, 5, 9, 14, 15, 8]

/-- The roles that a compression can play, as bits of its last state word. -/
structure Role where
  chunkStart : Bool := false
  chunkEnd : Bool := false
  parent : Bool := false
  root : Bool := false

def Role.bits (r : Role) : UInt32 :=
  (if r.chunkStart then 1 else 0) ||| (if r.chunkEnd then 2 else 0) |||
    (if r.parent then 4 else 0) ||| (if r.root then 8 else 0)

/-- The bits of a word moved right, those that leave coming back at the left. -/
def rotateRight (word : UInt32) (count : UInt32) : UInt32 :=
  (word >>> count) ||| (word <<< (32 - count))

/-- The quarter round: two message words mixed into four state words. -/
def mix (s : Block) (a b c d : Fin 16) (x y : UInt32) : Block :=
  let s := s.set a (s[a] + s[b] + x)
  let s := s.set d (rotateRight (s[d] ^^^ s[a]) 16)
  let s := s.set c (s[c] + s[d])
  let s := s.set b (rotateRight (s[b] ^^^ s[c]) 12)
  let s := s.set a (s[a] + s[b] + y)
  let s := s.set d (rotateRight (s[d] ^^^ s[a]) 8)
  let s := s.set c (s[c] + s[d])
  s.set b (rotateRight (s[b] ^^^ s[c]) 7)

/-- One round: the four columns of the state, then its four diagonals. -/
def round (s m : Block) : Block :=
  let s := mix s 0 4 8 12 m[0] m[1]
  let s := mix s 1 5 9 13 m[2] m[3]
  let s := mix s 2 6 10 14 m[4] m[5]
  let s := mix s 3 7 11 15 m[6] m[7]
  let s := mix s 0 5 10 15 m[8] m[9]
  let s := mix s 1 6 11 12 m[10] m[11]
  let s := mix s 2 7 8 13 m[12] m[13]
  mix s 3 4 9 14 m[14] m[15]

/-- The message words of the next round. -/
def nextMessage (m : Block) : Block := Vector.ofFn fun i => m[messageOrder[i]]

def rounds : Nat → Block → Block → Block
  | 0, s, _ => s
  | n + 1, s, m => rounds n (round s m) (nextMessage m)

/-- Compresses a block of `length` bytes into a chain. -/
def compress (chain : Chain) (block : Block) (counter : Nat) (length : Nat) (role : Role) : Chain :=
  let start : Block :=
    #v[chain[0], chain[1], chain[2], chain[3], chain[4], chain[5], chain[6], chain[7],
      initialChain[0], initialChain[1], initialChain[2], initialChain[3],
      counter.toUInt32, (counter >>> 32).toUInt32, length.toUInt32, role.bits]
  let s := rounds 7 start block
  Vector.ofFn fun i => s[i.castAdd 8] ^^^ s[i.natAdd 8]

/-- The byte at a place of a chunk, zero past its end. -/
private def byteAt (bytes : ByteArray) (i : Nat) : UInt32 :=
  if h : i < bytes.size then bytes[i].toUInt32 else 0

/-- The block that starts at a place, filled with zeros. -/
def blockAt (bytes : ByteArray) (start : Nat) : Block :=
  Vector.ofFn fun i =>
    let byte (k : Nat) := byteAt bytes (start + 4 * i.val + k)
    byte 0 ||| (byte 1 <<< 8) ||| (byte 2 <<< 16) ||| (byte 3 <<< 24)

/-- Compresses the blocks of a chunk from a place on; the last one may be the root. -/
def compressBlocks (bytes : ByteArray) (counter : Nat) (root : Bool) : Nat → Nat → Chain → Chain
  | 0, _, chain => chain
  | fuel + 1, start, chain =>
    let left := bytes.size - start
    let first := start = 0
    if left ≤ 64 then
      compress chain (blockAt bytes start) counter left ⟨first, true, false, root⟩
    else
      compressBlocks bytes counter root fuel (start + 64)
        (compress chain (blockAt bytes start) counter 64 ⟨first, false, false, false⟩)

/-- The chain of one chunk. -/
def chunkChain (bytes : ByteArray) (counter : Nat) (root : Bool) : Chain :=
  compressBlocks bytes counter root (bytes.size / 64 + 1) 0 initialChain

/-- Joins the chains of two subtrees. -/
def parentChain (left right : Chain) (root : Bool) : Chain :=
  compress initialChain (left ++ right) 0 64 ⟨false, false, true, root⟩

/-- The chunks in the left subtree over `count` chunks: the largest power of two below `count`. -/
def leftChunks (count : Nat) : Nat := 1 <<< (count - 1).log2

theorem leftChunks_lt {count : Nat} (h : 2 ≤ count) : leftChunks count < count := by
  have := Nat.log2_self_le (n := count - 1) (by omega)
  rw [leftChunks, Nat.one_shiftLeft]
  omega

theorem leftChunks_pos (count : Nat) : 0 < leftChunks count := by
  rw [leftChunks, Nat.one_shiftLeft]
  exact Nat.two_pow_pos _

/-- The chain of the tree over `count` chunks, the first of which has number `first`. -/
def treeChain (bytes : ByteArray) (first count : Nat) (root : Bool) : Chain :=
  if h : 2 ≤ count then
    have := leftChunks_lt h
    parentChain (treeChain bytes first (leftChunks count) false)
      (treeChain bytes (first + leftChunks count) (count - leftChunks count) false) root
  else chunkChain (bytes.extract (1024 * first) (1024 * (first + 1))) first root
termination_by count
decreasing_by
  · assumption
  · exact Nat.sub_lt (by omega) (leftChunks_pos count)

/-- The digest of some bytes, as eight words. -/
def words (bytes : ByteArray) : Chain := treeChain bytes 0 ((bytes.size + 1023) / 1024) true

def hexDigit (n : UInt32) : Char := Nat.digitChar (n.toNat % 16)

/-- A word's bytes from the lowest up, each as two hexadecimal digits. -/
def wordHex (w : UInt32) : List Char :=
  [w >>> 4, w, w >>> 12, w >>> 8, w >>> 20, w >>> 16, w >>> 28, w >>> 24].map hexDigit

/-- The digest's text. -/
def hexOfBytes (bytes : ByteArray) : String := String.ofList ((words bytes).toList.flatMap wordHex)

/-- The digest's text of a text's bytes. -/
def hex (text : String) : String := hexOfBytes text.toUTF8

theorem length_hex (text : String) : (hex text).length = 64 := by
  simp [hex, hexOfBytes, wordHex, List.length_flatMap, List.map_const']

end PageAccessors.Digest
