namespace TextQuest.Neural

def multiplyMix (a b : UInt64) : UInt64 :=
  let product := a.toNat * b.toNat
  UInt64.ofNat product ^^^ UInt64.ofNat (product >>> 64)

def byteAt (bytes : ByteArray) (i : Nat) : UInt64 :=
  if h : i < bytes.size then (bytes.get i h).toUInt64 else 0

def word32At (bytes : ByteArray) (i : Nat) : UInt64 :=
  byteAt bytes i ||| byteAt bytes (i + 1) <<< 8 ||| byteAt bytes (i + 2) <<< 16 |||
    byteAt bytes (i + 3) <<< 24

def word64At (bytes : ByteArray) (i : Nat) : UInt64 :=
  word32At bytes i ||| word32At bytes (i + 4) <<< 32

structure Digest where
  low : UInt64 := 0x243f6a8885a308d3
  high : UInt64 := 0x13198a2e03707344

namespace Digest

def absorb (digest : Digest) (bytes : ByteArray) (i : Nat) : Digest :=
  ⟨digest.high, multiplyMix (digest.low ^^^ word64At bytes i)
    (0xa4093822299f31d0 ^^^ word64At bytes (i + 8))⟩

def blend (digest : Digest) (low high : UInt64) : Digest :=
  ⟨digest.low ^^^ low, digest.high ^^^ high⟩

def result (digest : Digest) (size : Nat) : UInt64 :=
  multiplyMix digest.low digest.high ^^^ UInt64.ofNat size

end Digest

def hashBytes (bytes : ByteArray) : UInt64 :=
  let size := bytes.size
  let digest : Digest :=
    if size = 0 then {}
    else if size < 4 then
      Digest.blend {} (byteAt bytes 0) (byteAt bytes (size - 1) <<< 8 ||| byteAt bytes (size / 2))
    else if size < 8 then Digest.blend {} (word32At bytes 0) (word32At bytes (size - 4))
    else if size ≤ 16 then Digest.blend {} (word64At bytes 0) (word64At bytes (size - 8))
    else
      let inside : Digest :=
        (List.range ((size - 1) / 16)).foldl (fun digest i => digest.absorb bytes (16 * i)) {}
      inside.blend (word64At bytes (size - 16)) (word64At bytes (size - 8))
  digest.result size

def addWord (hash word : UInt64) : UInt64 := (hash + word) * 0xf1357aea2e62a9c5

def hashText (text : String) : UInt64 := hashBytes text.toUTF8

def addText (hash text : UInt64) : UInt64 := addWord (addWord hash text) 0xff

def bucket (texts : List UInt64) (count : Nat) : Nat :=
  let hash := texts.foldl addText 0
  ((hash <<< 26) ||| (hash >>> 38)).toNat % count

theorem bucket_lt (texts : List UInt64) {count : Nat} (positive : 0 < count) :
    bucket texts count < count := Nat.mod_lt _ positive

end TextQuest.Neural
