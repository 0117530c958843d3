-- SUMMARY: The stable 32-bit hash that places dialogs and memberships in buckets.

/-! # Hash

Bucket numbers are stored with each dialog and used again after a restart, so the hash has to be the
same in every process: 32-bit FNV-1a over UTF-8 bytes. -/

namespace SipDialogs.Hash

def offsetBasis : UInt32 := 0x811c9dc5

def prime : UInt32 := 0x01000193

/-- One FNV-1a step per byte. -/
def fold (state : UInt32) (bytes : List UInt8) : UInt32 :=
  bytes.foldl (fun h b => (h ^^^ b.toUInt32) * prime) state

/-- The UTF-8 bytes of a text. -/
def bytes (s : String) : List UInt8 := s.toList.flatMap String.utf8EncodeChar

/-- Hashes one or two texts into `0 … size - 1`. An empty second text counts as none; a space stands
between two. -/
def texts (first : String) (second : Option String) (size : UInt32) : UInt32 :=
  let h := fold offsetBasis (bytes first)
  match second with
  | some s =>
    if s.isEmpty then h % size else fold (fold h [0x20]) (bytes s) % size
  | none => h % size

/-- The bytes of a word, lowest first. -/
def wordBytes (n : UInt32) : List UInt8 :=
  [n.toUInt8, (n >>> 8).toUInt8, (n >>> 16).toUInt8, (n >>> 24).toUInt8]

/-- Hashes two words into `0 … size - 1`. -/
def words (first second size : UInt32) : UInt32 :=
  fold (fold offsetBasis (wordBytes first)) (wordBytes second) % size

end SipDialogs.Hash
