/-!
# Gzip

`Gzip.inflate?` reads the first member of a gzip file: its header, its deflate
stream and the check sum and length behind it.  Whatever follows that member is
not looked at.  The stream is read bit by bit, the least bit of a byte first.
-/

namespace DocumentIngest

namespace Deflate

/-- The bits of a stream that are still to be read. -/
abbrev Bits := List Bool

/-- The bits of a byte, the least one first. -/
def bitsOfByte (byte : UInt8) : Bits :=
  (List.range 8).map fun place => byte.toNat.testBit place

def bitsOfBytes (bytes : List UInt8) : Bits :=
  bytes.flatMap bitsOfByte

/-- Reads a number of so many bits, the least one first. -/
def takeNumber : Nat → Bits → Option (Nat × Bits)
  | 0, bits => some (0, bits)
  | _ + 1, [] => none
  | count + 1, bit :: bits =>
      (takeNumber count bits).map fun (value, bits) => (2 * value + bit.toNat, bits)

/-- A prefix code: how many codes there are of each length from one on, and the
symbols in the order of their codes. -/
structure Code where
  counts : List Nat
  symbols : Array Nat

/-- The code in which symbol `i` has the `i`-th of the given lengths; a length of
zero means that the symbol does not occur. -/
def codeOfLengths (lengths : List Nat) : Code :=
  let ofLength (length : Nat) : List Nat :=
    (lengths.zipIdx.filter fun entry => entry.1 == length).map Prod.snd
  let lengthsFromOne := (List.range 15).map (· + 1)
  ⟨lengthsFromOne.map fun length => (ofLength length).length,
    (lengthsFromOne.flatMap ofLength).toArray⟩

/-- Whether the codes leave no gap and do not overlap.  Each length doubles the
free places and takes some of them. -/
def Code.isComplete (code : Code) : Bool :=
  code.counts.foldl (fun (free : Int) (count : Nat) => 2 * free - count) 1 == 0

/-- Whether the code can be used: it is complete, or holds at most one symbol and
`single` allows that. -/
def Code.isUsable (code : Code) (single : Bool) : Bool :=
  code.isComplete || (single && decide (code.symbols.size ≤ 1))

/-- Reads one symbol: `value` is the code read so far, `first` the first code of
the current length, `index` where its symbols start. -/
def decodeFrom (symbols : Array Nat) : List Nat → Nat → Nat → Nat → Bits → Option (Nat × Bits)
  | [], _, _, _, _ => none
  | _ :: _, _, _, _, [] => none
  | count :: counts, value, first, index, bit :: bits =>
      let value := 2 * value + bit.toNat
      let first := 2 * first
      if value < first + count then
        symbols[index + (value - first)]?.map fun symbol => (symbol, bits)
      else decodeFrom symbols counts value (first + count) (index + count) bits

/-- Reads one symbol. -/
def Code.decode (code : Code) (bits : Bits) : Option (Nat × Bits) :=
  decodeFrom code.symbols code.counts 0 0 0 bits

/-- The code of literals and lengths that a block may use without saying so. -/
def fixedLiterals : Code :=
  codeOfLengths (List.replicate 144 8 ++ List.replicate 112 9 ++ List.replicate 24 7 ++
    List.replicate 8 8)

/-- The code of distances that a block may use without saying so. -/
def fixedDistances : Code :=
  codeOfLengths (List.replicate 30 5)

/-- Least length and number of further bits of each length symbol from 257 on. -/
def lengthTable : List (Nat × Nat) :=
  [(3, 0), (4, 0), (5, 0), (6, 0), (7, 0), (8, 0), (9, 0), (10, 0), (11, 1), (13, 1), (15, 1),
    (17, 1), (19, 2), (23, 2), (27, 2), (31, 2), (35, 3), (43, 3), (51, 3), (59, 3), (67, 4),
    (83, 4), (99, 4), (115, 4), (131, 5), (163, 5), (195, 5), (227, 5), (258, 0)]

/-- Least distance and number of further bits of each distance symbol. -/
def distanceTable : List (Nat × Nat) :=
  [(1, 0), (2, 0), (3, 0), (4, 0), (5, 1), (7, 1), (9, 2), (13, 2), (17, 3), (25, 3), (33, 4),
    (49, 4), (65, 5), (97, 5), (129, 6), (193, 6), (257, 7), (385, 7), (513, 8), (769, 8),
    (1025, 9), (1537, 9), (2049, 10), (3073, 10), (4097, 11), (6145, 11), (8193, 12), (12289, 12),
    (16385, 13), (24577, 13)]

/-- Reads the number that a symbol of a table stands for. -/
def takeExtended (table : List (Nat × Nat)) (symbol : Nat) (bits : Bits) : Option (Nat × Bits) := do
  let (least, width) ← table[symbol]?
  let (further, bits) ← takeNumber width bits
  return (least + further, bits)

/-- Repeats bytes that were written before; a run may overlap itself. -/
def copyBack (distance : Nat) : Nat → Array UInt8 → Array UInt8
  | 0, written => written
  | count + 1, written =>
      match written[written.size - distance]? with
      | some byte => copyBack distance count (written.push byte)
      | none => written

/-- Reads the symbols of a block up to its end mark.  Every symbol takes at least
one bit, so the number of bits is enough fuel. -/
def inflateSymbols (literals distances : Code) :
    Nat → Array UInt8 → Bits → Option (Array UInt8 × Bits)
  | 0, _, _ => none
  | fuel + 1, written, bits => do
      let (symbol, bits) ← literals.decode bits
      if symbol < 256 then
        inflateSymbols literals distances fuel (written.push (UInt8.ofNat symbol)) bits
      else if symbol = 256 then return (written, bits)
      else
        let (length, bits) ← takeExtended lengthTable (symbol - 257) bits
        let (symbol, bits) ← distances.decode bits
        let (distance, bits) ← takeExtended distanceTable symbol bits
        if written.size < distance then none
        else inflateSymbols literals distances fuel (copyBack distance length written) bits

/-- Drops the bits up to the next byte. -/
def alignToByte (bits : Bits) : Bits :=
  bits.drop (bits.length % 8)

/-- Reads whole bytes. -/
def takeBytes : Nat → Array UInt8 → Bits → Option (Array UInt8 × Bits)
  | 0, written, bits => some (written, bits)
  | count + 1, written, bits => do
      let (byte, bits) ← takeNumber 8 bits
      takeBytes count (written.push (UInt8.ofNat byte)) bits

/-- Reads a block whose bytes are stored as they are. -/
def inflateStored (written : Array UInt8) (bits : Bits) : Option (Array UInt8 × Bits) := do
  let (length, bits) ← takeNumber 16 (alignToByte bits)
  let (complement, bits) ← takeNumber 16 bits
  if length + complement ≠ 65535 then none else takeBytes length written bits

/-- The order in which the lengths of the code for lengths are given. -/
def lengthOrder : List Nat :=
  [16, 17, 18, 0, 8, 7, 9, 6, 10, 5, 11, 4, 12, 3, 13, 2, 14, 1, 15]

/-- Reads numbers of three bits. -/
def takeTriples : Nat → Bits → Option (List Nat × Bits)
  | 0, bits => some ([], bits)
  | count + 1, bits => do
      let (value, bits) ← takeNumber 3 bits
      let (values, bits) ← takeTriples count bits
      return (value :: values, bits)

/-- Reads code lengths until there are as many as wanted; `taken` holds those
already read, the last one first. -/
def takeLengths (code : Code) (wanted : Nat) : Nat → List Nat → Bits → Option (List Nat × Bits)
  | 0, _, _ => none
  | fuel + 1, taken, bits =>
      if taken.length = wanted then some (taken.reverse, bits)
      else if wanted < taken.length then none
      else do
        let (symbol, bits) ← code.decode bits
        if symbol < 16 then takeLengths code wanted fuel (symbol :: taken) bits
        else if symbol = 16 then
          match taken with
          | [] => none
          | last :: _ => do
              let (further, bits) ← takeNumber 2 bits
              takeLengths code wanted fuel (List.replicate (3 + further) last ++ taken) bits
        else if symbol = 17 then do
          let (further, bits) ← takeNumber 3 bits
          takeLengths code wanted fuel (List.replicate (3 + further) 0 ++ taken) bits
        else do
          let (further, bits) ← takeNumber 7 bits
          takeLengths code wanted fuel (List.replicate (11 + further) 0 ++ taken) bits

/-- Reads the two codes at the head of a block. -/
def takeCodes (bits : Bits) : Option (Code × Code × Bits) := do
  let (literalCount, bits) ← takeNumber 5 bits
  let (distanceCount, bits) ← takeNumber 5 bits
  let (lengthCount, bits) ← takeNumber 4 bits
  let (given, bits) ← takeTriples (lengthCount + 4) bits
  let lengthOf (symbol : Nat) : Nat :=
    ((lengthOrder.zip given).lookup symbol).getD 0
  let lengthCode := codeOfLengths ((List.range 19).map lengthOf)
  let literalCount := literalCount + 257
  let distanceCount := distanceCount + 1
  if !lengthCode.isUsable false || 286 < literalCount || 30 < distanceCount then none
  else
    let wanted := literalCount + distanceCount
    let (lengths, bits) ← takeLengths lengthCode wanted (wanted + 1) [] bits
    let literals := codeOfLengths (lengths.take literalCount)
    let distances := codeOfLengths (lengths.drop literalCount)
    if literals.isUsable true && distances.isUsable true then
      return (literals, distances, bits)
    else none

/-- Reads blocks up to the last one. -/
def inflateBlocks : Nat → Array UInt8 → Bits → Option (Array UInt8 × Bits)
  | 0, _, _ => none
  | fuel + 1, written, bits => do
      let (last, bits) ← takeNumber 1 bits
      let (kind, bits) ← takeNumber 2 bits
      let (written, bits) ←
        if kind = 0 then inflateStored written bits
        else if kind = 1 then
          inflateSymbols fixedLiterals fixedDistances (bits.length + 1) written bits
        else if kind = 2 then do
          let (literals, distances, bits) ← takeCodes bits
          inflateSymbols literals distances (bits.length + 1) written bits
        else none
      if last = 1 then return (written, bits) else inflateBlocks fuel written bits

end Deflate

namespace Gzip

/-- One step of the check sum for one bit. -/
def checkBit (sum : UInt32) : UInt32 :=
  if sum &&& 1 = 1 then (sum >>> 1) ^^^ 0xEDB88320 else sum >>> 1

/-- One step of the check sum for one byte. -/
def checkByte (sum : UInt32) (byte : UInt8) : UInt32 :=
  (List.range 8).foldl (fun sum _ => checkBit sum) (sum ^^^ byte.toUInt32)

/-- The check sum of bytes, a cyclic redundancy code of 32 bits. -/
def checkSum (bytes : List UInt8) : UInt32 :=
  bytes.foldl checkByte 0xFFFFFFFF ^^^ 0xFFFFFFFF

/-- A number of four bytes, the least one first. -/
def number32? (bytes : List UInt8) : Option Nat :=
  match bytes with
  | [a, b, c, d] => some (a.toNat + 256 * (b.toNat + 256 * (c.toNat + 256 * d.toNat)))
  | _ => none

/-- The longest name or comment that a header may hold. -/
def longestText : Nat := 65535

/-- Drops a text that ends in a zero byte. -/
def skipText (bytes : List UInt8) : Option (List UInt8) :=
  if longestText < (bytes.takeWhile (· != 0)).length then none
  else
    match bytes.dropWhile (· != 0) with
    | [] => none
    | _ :: rest => some rest

/-- Drops the extra field of a header. -/
def skipExtra (bytes : List UInt8) : Option (List UInt8) :=
  match bytes with
  | low :: high :: rest =>
      let length := low.toNat + 256 * high.toNat
      if rest.length < length then none else some (rest.drop length)
  | _ => none

/-- Drops the header of a member: the mark, the method, and the optional fields
that its flags name.  The header may carry a check sum of its own. -/
def skipHeader (file : List UInt8) : Option (List UInt8) :=
  match file with
  | 0x1f :: 0x8b :: 8 :: flags :: _ :: _ :: _ :: _ :: _ :: _ :: rest => do
      let has (place : Nat) : Bool := flags.toNat.testBit place
      if has 5 || has 6 || has 7 then none
      else
        let rest ← if has 2 then skipExtra rest else some rest
        let rest ← if has 3 then skipText rest else some rest
        let rest ← if has 4 then skipText rest else some rest
        if has 1 then
          match rest with
          | low :: high :: behind =>
              let header := file.take (file.length - rest.length)
              if (checkSum header).toNat % 65536 = low.toNat + 256 * high.toNat then some behind
              else none
          | _ => none
        else some rest
  | _ => none

/-- The content of the first member of a gzip file. -/
def inflate? (file : List UInt8) : Option (List UInt8) := do
  let stream ← skipHeader file
  let bits := Deflate.bitsOfBytes stream
  let (written, bits) ← Deflate.inflateBlocks (bits.length + 1) #[] bits
  let content := written.toList
  let behind := stream.drop (stream.length - bits.length / 8)
  let sum ← number32? (behind.take 4)
  let length ← number32? ((behind.drop 4).take 4)
  if sum = (checkSum content).toNat ∧ length = content.length % 2 ^ 32 then some content else none

end Gzip

end DocumentIngest
