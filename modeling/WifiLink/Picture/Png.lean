import WifiLink.Picture.Canvas

/-!
Pictures in the PNG format, with a palette and without compression.
-/

namespace WifiLink.Picture

/-- A number in four bytes, the highest first. -/
def fourBytes (n : Nat) : ByteArray :=
  ⟨#[(n >>> 24).toUInt8, (n >>> 16).toUInt8, (n >>> 8).toUInt8, n.toUInt8]⟩

/-- A number in two bytes, the lowest first. -/
def twoBytes (n : Nat) : ByteArray := ⟨#[n.toUInt8, (n >>> 8).toUInt8]⟩

/-- One bit of the cyclic redundancy check. -/
def crcBit (crc : UInt32) : UInt32 :=
  if crc &&& 1 == 1 then (crc >>> 1) ^^^ 0xEDB88320 else crc >>> 1

def crcByte (crc : UInt32) (byte : UInt8) : UInt32 := Nat.repeat crcBit 8 (crc ^^^ byte.toUInt32)

def crc (bytes : ByteArray) : UInt32 := bytes.foldl crcByte 0xFFFFFFFF ^^^ 0xFFFFFFFF

/-- The checksum of compressed data: two sums modulo 65521. -/
def adler (bytes : ByteArray) : Nat :=
  let (low, high) := bytes.foldl
    (fun (low, high) byte =>
      let sum := (low + byte.toNat) % 65521
      (sum, (high + sum) % 65521))
    (1, 0)
  high <<< 16 ||| low

/-- Data as blocks of at most 65535 bytes that are stored as they are. -/
def storedBlocks (bytes : ByteArray) : ByteArray :=
  let count := max 1 ((bytes.size + 65534) / 65535)
  (List.range count).foldl
    (fun written index =>
      let block := bytes.extract (index * 65535) ((index + 1) * 65535)
      written ++ ⟨#[if index + 1 = count then 1 else 0]⟩ ++ twoBytes block.size ++
        twoBytes (65535 - block.size) ++ block)
    .empty

/-- Data in the frame of a compressed stream. -/
def stream (bytes : ByteArray) : ByteArray :=
  ⟨#[0x78, 0x01]⟩ ++ storedBlocks bytes ++ fourBytes (adler bytes)

def chunk (kind : String) (content : ByteArray) : ByteArray :=
  let body := kind.toUTF8 ++ content
  fourBytes content.size ++ body ++ fourBytes (crc body).toNat

/-- The rows of a surface, each behind a byte that says it is not filtered. -/
def scanLines (canvas : Canvas) : ByteArray :=
  (List.range canvas.height).foldl
    (fun written row =>
      written ++ ⟨#[0]⟩ ++
        canvas.pixels.extract (row * canvas.width) ((row + 1) * canvas.width))
    .empty

/-- A surface as a picture file; the palette gives red, green and blue of each colour number. -/
def png (canvas : Canvas) (palette : List (UInt8 × UInt8 × UInt8)) : ByteArray :=
  let header := fourBytes canvas.width ++ fourBytes canvas.height ++ ⟨#[8, 3, 0, 0, 0]⟩
  let colours := palette.flatMap fun (red, green, blue) => [red, green, blue]
  ⟨#[0x89, 0x50, 0x4E, 0x47, 0x0D, 0x0A, 0x1A, 0x0A]⟩ ++ chunk "IHDR" header ++
    chunk "PLTE" ⟨colours.toArray⟩ ++ chunk "IDAT" (stream (scanLines canvas)) ++
    chunk "IEND" .empty

end WifiLink.Picture
