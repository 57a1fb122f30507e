import Groupwise.Digest.Blake3
import Groupwise.GroupMap
import Groupwise.Json.Reader
import Groupwise.Json.Value
import Groupwise.Text.Digits

/-!
# Digests of results

The digest of a list of entries is the hash of a byte stream: the number of entries, then for each
entry, in the order of the keys, the length of its JSON text and the text itself. Numbers take eight
bytes, the lowest first. The stream does not depend on the order in which the entries come, and it
determines their texts.
-/

namespace Groupwise

open Json

/-- A digest of 32 bytes. -/
structure Hash256 where
  bytes : List UInt8
  length_bytes : bytes.length = 32
deriving DecidableEq, Repr

namespace Hash256

/-- Two hexadecimal digits for each byte. -/
def hex (h : Hash256) : String := String.ofList (Hex.encode h.bytes)

instance : ToValue Hash256 := ⟨fun h => .array (h.bytes.map fun b => .natural b.toNat)⟩

/-- A digest is read from an array of 32 bytes. -/
def reader : Reader Hash256 := do
  let ⟨ns, h⟩ ← Reader.array 32 (Reader.natural 256)
  return ⟨ns.map UInt8.ofNat, by simp [h]⟩

/-- The digest that a JSON text describes. -/
def parse (text : String) : Except Fault Hash256 := reader.run text

end Hash256

/-- Why entries have no digest. -/
structure DigestError where
  cause : EncodeError
deriving DecidableEq, Repr

namespace Digest

/-- A number in eight bytes, the lowest first. -/
def sizeBytes (n : Nat) : List UInt8 := (List.range 8).map fun i => UInt8.ofNat (n / Nat.pow 256 i)

/-- The bytes of a text behind their number. -/
def framed (bytes : List UInt8) : List UInt8 := sizeBytes bytes.length ++ bytes

/-- The byte stream of a list of texts. -/
def stream (texts : List (List UInt8)) : List UInt8 :=
  sizeBytes texts.length ++ texts.flatMap framed

/-- The JSON text of an entry. -/
def entryBytes {K A : Type} [Encode K] [Encode A] (e : K × A) :
    Except EncodeError (List UInt8) := do
  let key ← encode? e.1
  let value ← encode? e.2
  return (Value.array [key, value]).render.toUTF8.toList

/-- The byte stream of a list of entries. -/
def entryStream {K A : Type} [Ord K] [Encode K] [Encode A] (entries : List (K × A)) :
    Except EncodeError (List UInt8) :=
  stream <$> (Entries.sorted entries).mapM entryBytes

end Digest

/-- The digest of a list of entries. -/
def digestEntries {K A : Type} [Ord K] [Encode K] [Encode A] (entries : List (K × A)) :
    Except DigestError Hash256 :=
  match Digest.entryStream entries with
  | .ok bytes => .ok ⟨Blake3.hash bytes, Blake3.length_hash bytes⟩
  | .error cause => .error ⟨cause⟩

end Groupwise
