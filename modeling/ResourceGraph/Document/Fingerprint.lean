/-
**Fingerprints.**

The fingerprint of a document is a digest of its format version, its name and the digests of its
resources in order, so that reports of the same revision can be told by it. The digest of a resource
covers all that is declared about it; its properties enter as their text without blanks.
-/

import ResourceGraph.Digest.Sha256
import ResourceGraph.Document.Basic
import ResourceGraph.Json.Printer

namespace ResourceGraph

/-- The UTF-8 bytes of a text. -/
def Text.bytes (text : String) : List UInt8 :=
  text.toUTF8.toList

/-- The bytes that the digest of a resource is taken of. -/
def Resource.digestInput (resource : Resource) : List UInt8 :=
  Text.bytes resource.kind.name ++ 0 :: (Text.bytes resource.name ++ 0 ::
    (Text.bytes resource.reference ++ 0 :: (Text.bytes (Json.object resource.properties).compact ++
      resource.tags.flatMap fun tag => 0 :: Text.bytes tag)))

/-- The digest of a resource. -/
def Resource.fingerprint (resource : Resource) : String :=
  Sha256.hex resource.digestInput

/-- The bytes that the fingerprint of a document is taken of. -/
def Document.fingerprintInput (document : Document) : List UInt8 :=
  Text.bytes document.formatVersion ++ 0 :: (Text.bytes document.name ++ 0 ::
    document.resources.flatMap fun resource => Text.bytes resource.fingerprint)

/-- The fingerprint of a document. -/
def Document.fingerprint (document : Document) : String :=
  Sha256.hex document.fingerprintInput

/-- The first characters of the list that take at most as many bytes; `none` if the limit falls
inside a character. -/
def Text.takeBytes? : Nat → List Char → Option (List Char)
  | _, [] => some []
  | 0, _ :: _ => some []
  | limit + 1, c :: rest =>
    if limit + 1 < c.utf8Size then none
    else (takeBytes? (limit + 1 - c.utf8Size) rest).map (c :: ·)

/-- The number of bytes that are shown of a fingerprint. -/
def Fingerprint.shownBytes : Nat := 12

/-- The part of a fingerprint that is shown; `none` for a text that has no character boundary
there. -/
def Fingerprint.short? (fingerprint : String) : Option String :=
  (Text.takeBytes? Fingerprint.shownBytes fingerprint.toList).map String.ofList

end ResourceGraph
