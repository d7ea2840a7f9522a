/-!
The BLAKE3 digest of a byte list. The input is cut into chunks of 1024 bytes and a chunk into blocks
of 64; each chunk is folded into a chaining value, and the values are joined by a binary tree whose
left half is always the largest power of two that leaves something for the right.
-/
namespace Herald.Digest

abbrev Chain := Vector UInt32 8

abbrev Words := Vector UInt32 16

def initial : Chain :=
  #v[0x6A09E667, 0xBB67AE85, 0x3C6EF372, 0xA54FF53A, 0x510E527F, 0x9B05688C, 0x1F83D9AB, 0x5BE0CD19]

def order : Vector (Fin 16) 16 :=
  #v[2, 6, 3, 10, 7, 0, 4, 13, 1, 11, 12, 5, 9, 14, 15, 8]

def rotateRight (x count : UInt32) : UInt32 :=
  (x >>> count) ||| (x <<< (32 - count))

def mix (s : Words) (a b c d : Fin 16) (x y : UInt32) : Words :=
  let a₁ := s[a] + s[b] + x
  let d₁ := rotateRight (s[d] ^^^ a₁) 16
  let c₁ := s[c] + d₁
  let b₁ := rotateRight (s[b] ^^^ c₁) 12
  let a₂ := a₁ + b₁ + y
  let d₂ := rotateRight (d₁ ^^^ a₂) 8
  let c₂ := c₁ + d₂
  let b₂ := rotateRight (b₁ ^^^ c₂) 7
  (((s.set a a₂).set b b₂).set c c₂).set d d₂

def round (s m : Words) : Words :=
  let s := mix s 0 4 8 12 m[0] m[1]
  let s := mix s 1 5 9 13 m[2] m[3]
  let s := mix s 2 6 10 14 m[4] m[5]
  let s := mix s 3 7 11 15 m[6] m[7]
  let s := mix s 0 5 10 15 m[8] m[9]
  let s := mix s 1 6 11 12 m[10] m[11]
  let s := mix s 2 7 8 13 m[12] m[13]
  mix s 3 4 9 14 m[14] m[15]

def permute (m : Words) : Words :=
  order.map fun i => m[i]

def rounds : Nat → Words → Words → Words
  | 0, s, _ => s
  | n + 1, s, m => rounds n (round s m) (permute m)

structure Node where
  chain : Chain
  block : Words
  counter : UInt64
  length : UInt32
  flags : UInt32

namespace Node

def chunkStart : UInt32 := 1
def chunkEnd : UInt32 := 2
def parent : UInt32 := 4
def root : UInt32 := 8

def start (n : Node) : Words :=
  #v[n.chain[0], n.chain[1], n.chain[2], n.chain[3], n.chain[4], n.chain[5], n.chain[6], n.chain[7],
     initial[0], initial[1], initial[2], initial[3],
     n.counter.toUInt32, (n.counter >>> 32).toUInt32, n.length, n.flags]

def value (n : Node) : Chain :=
  let s := rounds 7 n.start n.block
  #v[s[0] ^^^ s[8], s[1] ^^^ s[9], s[2] ^^^ s[10], s[3] ^^^ s[11],
     s[4] ^^^ s[12], s[5] ^^^ s[13], s[6] ^^^ s[14], s[7] ^^^ s[15]]

def join (left right : Node) : Node where
  chain := initial
  block := left.value ++ right.value
  counter := 0
  length := 64
  flags := parent

def asRoot (n : Node) : Node :=
  { n with counter := 0, flags := n.flags ||| root }

end Node

def wordOf (a b c d : UInt8) : UInt32 :=
  a.toUInt32 ||| (b.toUInt32 <<< 8) ||| (c.toUInt32 <<< 16) ||| (d.toUInt32 <<< 24)

/-- A block shorter than 64 bytes is filled with zeros. -/
def wordsOf (block : List UInt8) : Words :=
  let bytes := block.toArray
  Vector.ofFn fun i : Fin 16 =>
    wordOf (bytes[4 * i.val]?.getD 0) (bytes[4 * i.val + 1]?.getD 0)
      (bytes[4 * i.val + 2]?.getD 0) (bytes[4 * i.val + 3]?.getD 0)

def bytesOf (w : UInt32) : List UInt8 :=
  [w.toUInt8, (w >>> 8).toUInt8, (w >>> 16).toUInt8, (w >>> 24).toUInt8]

/-- Pieces of `size` bytes, the last of them shorter; an empty input is one empty piece. -/
def pieces (size : Nat) (bytes : List UInt8) : List (List UInt8) :=
  if size = 0 ∨ bytes.length ≤ size then [bytes]
  else bytes.take size :: pieces size (bytes.drop size)
termination_by bytes.length
decreasing_by simp only [List.length_drop]; omega

def chunkFold (counter : UInt64) (chain : Chain) (flags : UInt32) : List (List UInt8) → Node
  | [] => ⟨chain, wordsOf [], counter, 0, flags ||| Node.chunkEnd⟩
  | [last] => ⟨chain, wordsOf last, counter, UInt32.ofNat last.length, flags ||| Node.chunkEnd⟩
  | block :: rest =>
    let node : Node := ⟨chain, wordsOf block, counter, UInt32.ofNat block.length, flags⟩
    chunkFold counter node.value 0 rest

def chunkNode (counter : Nat) (chunk : List UInt8) : Node :=
  chunkFold (UInt64.ofNat counter) initial Node.chunkStart (pieces 64 chunk)

/-- The tree over `chunks`, the first of which is number `counter`. -/
def tree (counter : Nat) (chunks : List (List UInt8)) : Node :=
  if chunks.length ≤ 1 then chunkNode counter (chunks.headD [])
  else
    let left := Nat.pow 2 (chunks.length - 1).log2
    (tree counter (chunks.take left)).join (tree (counter + left) (chunks.drop left))
termination_by chunks.length
decreasing_by
  · have := Nat.log2_self_le (n := chunks.length - 1) (by omega)
    simp only [List.length_take, Nat.pow_eq]; omega
  · have := Nat.two_pow_pos (chunks.length - 1).log2
    simp only [List.length_drop, Nat.pow_eq]; omega

def ofBytes (bytes : List UInt8) : List UInt8 :=
  (tree 0 (pieces 1024 bytes)).asRoot.value.toList.flatMap bytesOf

@[simp] theorem length_ofBytes (bytes : List UInt8) : (ofBytes bytes).length = 32 := by
  simp [ofBytes, bytesOf, List.length_flatMap, List.map_const']

end Herald.Digest
