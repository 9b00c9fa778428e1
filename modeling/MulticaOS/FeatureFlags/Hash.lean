import MulticaOS.Lib.Words

/-!
The bucket of a percent rollout: `hash.ts` of the client beside `hash.go` of the server.
-/

namespace MulticaOS.FeatureFlags

def fnvPrime : Nat := 0x01000193

def utf8 (text : String) : List UInt8 := text.toUTF8.toList

namespace Client

open WordLib

def hashByte (hash : Int) (byte : UInt8) : Int := imul (xor32 hash byte.toNat) fnvPrime

/-- The loop over the parts, from the one of this index: a zero byte stands before every one
but the first. -/
def hashParts (hash : Int) : Nat → List String → Int
  | _, [] => hash
  | index, part :: rest =>
      let separated := if 0 < index then imul (xor32 hash 0) fnvPrime else hash
      hashParts ((utf8 part).foldl hashByte separated) (index + 1) rest

def fnv1a (parts : List String) : Nat := toUint32 (hashParts 0x811c9dc5 0 parts)

def bucketFor (key identifier : String) : Nat := fnv1a [key, identifier] % 100

def inPercent (key identifier : String) (percent : Int) : Bool :=
  if percent ≤ 0 then false
  else if 100 ≤ percent then true
  else bucketFor key identifier < percent

end Client

namespace Server

def write (hash : UInt32) (bytes : List UInt8) : UInt32 :=
  bytes.foldl (fun hash byte => (hash ^^^ byte.toUInt32) * UInt32.ofNat fnvPrime) hash

def bucketFor (key identifier : String) : Nat :=
  (write (write (write 2166136261 (utf8 key)) [0]) (utf8 identifier)).toNat % 100

def inPercent (key identifier : String) (percent : Int) : Bool :=
  if percent ≤ 0 then false
  else if 100 ≤ percent then true
  else bucketFor key identifier < percent

end Server

open WordLib

theorem sameBits_prime : SameBits fnvPrime (UInt32.ofNat fnvPrime) := by
  rw [SameBits]
  decide

theorem sameBits_bytes (bytes : List UInt8) {number : Int} {word : UInt32}
    (same : SameBits number word) :
    SameBits (bytes.foldl Client.hashByte number) (Server.write word bytes) := by
  induction bytes generalizing number word with
  | nil => exact same
  | cons byte rest ih =>
      rw [Server.write, List.foldl_cons, List.foldl_cons]
      exact ih ((same.xor32 (sameBits_byte byte)).imul sameBits_prime)

theorem bucketFor_eq (key identifier : String) :
    Client.bucketFor key identifier = Server.bucketFor key identifier := by
  have start : SameBits 0x811c9dc5 2166136261 := by
    rw [SameBits]
    decide
  have afterKey := sameBits_bytes (utf8 key) start
  have separated := sameBits_bytes [0] afterKey
  have afterAll := sameBits_bytes (utf8 identifier) separated
  rw [Client.bucketFor, Server.bucketFor, ← afterAll.toUint32]
  rfl

example : Server.bucketFor "实验" "user-1" = 90 := by decide +kernel

theorem inPercent_eq (key identifier : String) (percent : Int) :
    Client.inPercent key identifier percent = Server.inPercent key identifier percent := by
  rw [Client.inPercent, Server.inPercent, bucketFor_eq]

theorem inPercent_ne {key left right : String}
    (differ : Server.bucketFor key left ≠ Server.bucketFor key right) :
    ∃ percent, Server.inPercent key left percent ≠ Server.inPercent key right percent := by
  have leftSmall : Server.bucketFor key left < 100 := Nat.mod_lt _ (by decide)
  have rightSmall : Server.bucketFor key right < 100 := Nat.mod_lt _ (by decide)
  refine ⟨(max (Server.bucketFor key left) (Server.bucketFor key right) : Nat), ?_⟩
  simp only [Server.inPercent]
  generalize Server.bucketFor key left = one at *
  generalize Server.bucketFor key right = two at *
  rcases Nat.lt_or_gt_of_ne differ with less | less
  · rw [Nat.max_eq_right (by omega), if_neg (by omega), if_neg (by omega), if_neg (by omega),
      if_neg (by omega)]
    simp [less]
  · rw [Nat.max_eq_left (by omega), if_neg (by omega), if_neg (by omega), if_neg (by omega),
      if_neg (by omega)]
    simp [less]

end MulticaOS.FeatureFlags
