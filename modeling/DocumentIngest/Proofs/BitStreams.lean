import DocumentIngest.Gzip

/-!
# Where a deflate stream ends

Reading a deflate stream stops at its end.  Whole bytes that follow the stream change
nothing of what is read, and they are left over together with what was left before.
-/

namespace DocumentIngest

namespace Deflate

variable {α : Type} (more : Bits)

/-- Whether a reader reads the same when more bits follow, and leaves them. -/
def Leaves (read : Bits → Option (α × Bits)) : Prop :=
  ∀ ⦃bits value rest⦄, read bits = some (value, rest) →
    read (bits ++ more) = some (value, rest ++ more)

@[simp]
theorem length_bitsOfBytes (bytes : List UInt8) :
    (bitsOfBytes bytes).length = 8 * bytes.length := by
  induction bytes with
  | nil => rfl
  | cons byte bytes ih =>
      rw [bitsOfBytes, List.flatMap_cons, List.length_append, ← bitsOfBytes, ih, bitsOfByte,
        List.length_map, List.length_range, List.length_cons]
      omega

theorem leaves_takeNumber (count : Nat) : Leaves more (takeNumber count) := by
  induction count with
  | zero =>
      intro bits value rest taken
      cases taken
      rfl
  | succ count ih =>
      intro bits value rest taken
      cases bits with
      | nil => cases taken
      | cons bit bits =>
          obtain ⟨⟨number, behind⟩, read, same⟩ := Option.map_eq_some_iff.mp taken
          cases same
          rw [List.cons_append, takeNumber, ih read]
          rfl

theorem leaves_decodeFrom (symbols : Array Nat) (counts : List Nat) (value first index : Nat) :
    Leaves more (decodeFrom symbols counts value first index) := by
  induction counts generalizing value first index with
  | nil =>
      intro bits symbol rest decoded
      cases decoded
  | cons count counts ih =>
      intro bits symbol rest decoded
      cases bits with
      | nil => cases decoded
      | cons bit bits =>
          rw [decodeFrom] at decoded
          rw [List.cons_append, decodeFrom]
          split at decoded
          · next within =>
              obtain ⟨found, isSymbol, same⟩ := Option.map_eq_some_iff.mp decoded
              cases same
              rw [if_pos within, isSymbol]
              rfl
          · next behind =>
              rw [if_neg behind]
              exact ih _ _ _ decoded

theorem leaves_decode (code : Code) : Leaves more code.decode :=
  leaves_decodeFrom more code.symbols code.counts 0 0 0

theorem leaves_takeExtended (table : List (Nat × Nat)) (symbol : Nat) :
    Leaves more (takeExtended table symbol) := by
  intro bits value rest taken
  obtain ⟨⟨least, width⟩, entry, taken⟩ := Option.bind_eq_some_iff.mp taken
  obtain ⟨⟨further, behind⟩, read, same⟩ := Option.bind_eq_some_iff.mp taken
  cases same
  have ahead := leaves_takeNumber more width read
  simp only [takeExtended, entry, ahead, Option.bind_eq_bind, Option.bind_some]
  rfl

/-- Fuel that is enough for a stream is enough when more follows. -/
theorem inflateSymbols_append {literals distances : Code} {fuel enough : Nat}
    {written inflated : Array UInt8} {bits rest : Bits}
    (read : inflateSymbols literals distances fuel written bits = some (inflated, rest))
    (covers : fuel ≤ enough) :
    inflateSymbols literals distances enough written (bits ++ more) =
      some (inflated, rest ++ more) := by
  induction fuel generalizing enough written bits with
  | zero => cases read
  | succ fuel ih =>
      obtain ⟨further, rfl⟩ := Nat.exists_eq_add_of_le' (Nat.le_trans (Nat.succ_pos fuel) covers)
      have still : fuel ≤ further := by omega
      obtain ⟨⟨symbol, behind⟩, decoded, read⟩ := Option.bind_eq_some_iff.mp read
      have ahead := leaves_decode more literals decoded
      rw [inflateSymbols]
      simp only [ahead, Option.bind_eq_bind, Option.bind_some]
      simp only at read
      split at read
      · next isByte =>
          rw [if_pos isByte]
          exact ih read still
      · next noByte =>
          rw [if_neg noByte]
          split at read
          · next isEnd =>
              cases read
              rw [if_pos isEnd]
              rfl
          · next noEnd =>
              rw [if_neg noEnd]
              obtain ⟨⟨length, _⟩, longRead, read⟩ := Option.bind_eq_some_iff.mp read
              obtain ⟨⟨code, _⟩, codeRead, read⟩ := Option.bind_eq_some_iff.mp read
              obtain ⟨⟨distance, _⟩, farRead, read⟩ := Option.bind_eq_some_iff.mp read
              have longAhead := leaves_takeExtended more lengthTable _ longRead
              have codeAhead := leaves_decode more distances codeRead
              have farAhead := leaves_takeExtended more distanceTable _ farRead
              simp only [longAhead, codeAhead, farAhead, Option.bind_some]
              simp only at read
              split at read
              · cases read
              · next reaches =>
                  rw [if_neg reaches]
                  exact ih read still

theorem leaves_inflateSymbols (literals distances : Code) (written : Array UInt8) :
    Leaves more fun bits => inflateSymbols literals distances (bits.length + 1) written bits := by
  intro bits inflated rest read
  apply inflateSymbols_append more read
  rw [List.length_append]
  omega

theorem leaves_takeBytes (count : Nat) (written : Array UInt8) :
    Leaves more (takeBytes count written) := by
  induction count generalizing written with
  | zero =>
      intro bits inflated rest taken
      cases taken
      rfl
  | succ count ih =>
      intro bits inflated rest taken
      obtain ⟨⟨byte, behind⟩, read, taken⟩ := Option.bind_eq_some_iff.mp taken
      have ahead := leaves_takeNumber more 8 read
      simp only [takeBytes, ahead, Option.bind_eq_bind, Option.bind_some]
      exact ih _ taken

theorem leaves_takeTriples (count : Nat) : Leaves more (takeTriples count) := by
  induction count with
  | zero =>
      intro bits values rest taken
      cases taken
      rfl
  | succ count ih =>
      intro bits values rest taken
      obtain ⟨⟨value, _⟩, read, taken⟩ := Option.bind_eq_some_iff.mp taken
      obtain ⟨⟨others, _⟩, readOthers, same⟩ := Option.bind_eq_some_iff.mp taken
      cases same
      have ahead := leaves_takeNumber more 3 read
      have othersAhead := ih readOthers
      simp only [takeTriples, ahead, othersAhead, Option.bind_eq_bind, Option.bind_some]
      rfl

theorem leaves_takeLengths (code : Code) (wanted fuel : Nat) (taken : List Nat) :
    Leaves more (takeLengths code wanted fuel taken) := by
  induction fuel generalizing taken with
  | zero =>
      intro bits lengths rest read
      cases read
  | succ fuel ih =>
      -- the symbols from 16 on are followed by how often a length is repeated
      have repeats (width : Nat) (next : Nat → List Nat) : Leaves more fun bits =>
          (takeNumber width bits).bind fun counted =>
            takeLengths code wanted fuel (next counted.1) counted.2 := by
        intro bits lengths rest read
        obtain ⟨⟨further, behind⟩, counted, read⟩ := Option.bind_eq_some_iff.mp read
        have ahead := leaves_takeNumber more width counted
        simp only [ahead, Option.bind_some]
        exact ih _ read
      intro bits lengths rest read
      rw [takeLengths] at read ⊢
      split at read
      · next complete =>
          cases read
          rw [if_pos complete]
      next incomplete =>
      rw [if_neg incomplete]
      split at read
      · cases read
      next within =>
      rw [if_neg within]
      obtain ⟨⟨symbol, behind⟩, decoded, read⟩ := Option.bind_eq_some_iff.mp read
      have ahead := leaves_decode more code decoded
      simp only [ahead, Option.bind_eq_bind, Option.bind_some]
      simp only at read
      split at read
      · next isLength =>
          rw [if_pos isLength]
          exact ih _ read
      next isRepeat =>
      rw [if_neg isRepeat]
      split at read
      · next ofLast =>
          rw [if_pos ofLast]
          cases taken with
          | nil => cases read
          | cons last earlier =>
              exact repeats 2 (fun further => List.replicate (3 + further) last ++ last :: earlier)
                read
      next ofZero =>
      rw [if_neg ofZero]
      split at read
      · next short =>
          rw [if_pos short]
          exact repeats 3 (fun further => List.replicate (3 + further) 0 ++ taken) read
      · next long =>
          rw [if_neg long]
          exact repeats 7 (fun further => List.replicate (11 + further) 0 ++ taken) read

theorem takeCodes_append {bits rest : Bits} {literals distances : Code}
    (read : takeCodes bits = some (literals, distances, rest)) :
    takeCodes (bits ++ more) = some (literals, distances, rest ++ more) := by
  obtain ⟨⟨literalCount, _⟩, literalRead, read⟩ := Option.bind_eq_some_iff.mp read
  obtain ⟨⟨distanceCount, _⟩, distanceRead, read⟩ := Option.bind_eq_some_iff.mp read
  obtain ⟨⟨lengthCount, _⟩, lengthRead, read⟩ := Option.bind_eq_some_iff.mp read
  obtain ⟨⟨given, _⟩, givenRead, read⟩ := Option.bind_eq_some_iff.mp read
  have literalAhead := leaves_takeNumber more 5 literalRead
  have distanceAhead := leaves_takeNumber more 5 distanceRead
  have lengthAhead := leaves_takeNumber more 4 lengthRead
  have givenAhead := leaves_takeTriples more (lengthCount + 4) givenRead
  simp only [takeCodes, literalAhead, distanceAhead, lengthAhead, givenAhead, Option.bind_eq_bind,
    Option.bind_some]
  simp only at read
  split at read
  · cases read
  next usable =>
  rw [if_neg usable]
  obtain ⟨⟨lengths, _⟩, lengthsRead, read⟩ := Option.bind_eq_some_iff.mp read
  have lengthsAhead := leaves_takeLengths more _ _ _ _ lengthsRead
  simp only [lengthsAhead, Option.bind_some]
  simp only at read
  split at read
  · next bothUsable =>
      cases read
      rw [if_pos bothUsable]
      rfl
  · cases read

variable {more} (whole : more.length % 8 = 0)

include whole

theorem alignToByte_append (bits : Bits) :
    alignToByte (bits ++ more) = alignToByte bits ++ more := by
  have sameShift : (bits ++ more).length % 8 = bits.length % 8 := by
    rw [List.length_append]
    omega
  rw [alignToByte, alignToByte, sameShift, List.drop_append_of_le_length (Nat.mod_le _ _)]

theorem leaves_inflateStored (written : Array UInt8) :
    Leaves more (inflateStored written) := by
  intro bits inflated rest read
  obtain ⟨⟨length, _⟩, lengthRead, read⟩ := Option.bind_eq_some_iff.mp read
  obtain ⟨⟨complement, _⟩, complementRead, read⟩ := Option.bind_eq_some_iff.mp read
  have lengthAhead := leaves_takeNumber more 16 lengthRead
  have complementAhead := leaves_takeNumber more 16 complementRead
  simp only [inflateStored, alignToByte_append whole, lengthAhead, complementAhead,
    Option.bind_eq_bind, Option.bind_some]
  simp only at read
  split at read
  · cases read
  · next sound =>
      rw [if_neg sound]
      exact leaves_takeBytes more length written read

omit whole

/-- Reads the content of a block of some kind. -/
def inflateBlock (kind : Nat) (written : Array UInt8) (bits : Bits) :
    Option (Array UInt8 × Bits) :=
  if kind = 0 then inflateStored written bits
  else if kind = 1 then
    inflateSymbols fixedLiterals fixedDistances (bits.length + 1) written bits
  else if kind = 2 then do
    let (literals, distances, bits) ← takeCodes bits
    inflateSymbols literals distances (bits.length + 1) written bits
  else none

theorem inflateBlocks_succ (fuel : Nat) (written : Array UInt8) (bits : Bits) :
    inflateBlocks (fuel + 1) written bits =
      (takeNumber 1 bits).bind fun (last, bits) =>
        (takeNumber 2 bits).bind fun (kind, bits) =>
          (inflateBlock kind written bits).bind fun (written, bits) =>
            if last = 1 then some (written, bits) else inflateBlocks fuel written bits := by
  rw [inflateBlocks]
  refine Option.bind_congr fun (last, _) _ => Option.bind_congr fun (kind, rest) _ => ?_
  simp only [inflateBlock]
  split
  · rfl
  split
  · rfl
  split
  · simp only [Option.bind_eq_bind, Option.bind_assoc]
    rfl
  · rfl

include whole

theorem leaves_inflateBlock (kind : Nat) (written : Array UInt8) :
    Leaves more (inflateBlock kind written) := by
  intro bits inflated rest read
  rw [inflateBlock] at read ⊢
  split at read
  · next stored =>
      rw [if_pos stored]
      exact leaves_inflateStored whole written read
  next notStored =>
  rw [if_neg notStored]
  split at read
  · next fixed =>
      rw [if_pos fixed]
      exact leaves_inflateSymbols more fixedLiterals fixedDistances written read
  next notFixed =>
  rw [if_neg notFixed]
  split at read
  · next coded =>
      rw [if_pos coded]
      obtain ⟨⟨literals, distances, behind⟩, codes, read⟩ := Option.bind_eq_some_iff.mp read
      have codesAhead := takeCodes_append more codes
      simp only [codesAhead, Option.bind_eq_bind, Option.bind_some]
      exact leaves_inflateSymbols more literals distances written read
  · cases read

theorem inflateBlocks_append {fuel enough : Nat} {written inflated : Array UInt8}
    {bits rest : Bits} (read : inflateBlocks fuel written bits = some (inflated, rest))
    (covers : fuel ≤ enough) :
    inflateBlocks enough written (bits ++ more) = some (inflated, rest ++ more) := by
  induction fuel generalizing enough written bits with
  | zero => cases read
  | succ fuel ih =>
      obtain ⟨further, rfl⟩ := Nat.exists_eq_add_of_le' (Nat.le_trans (Nat.succ_pos fuel) covers)
      have still : fuel ≤ further := by omega
      rw [inflateBlocks_succ] at read ⊢
      obtain ⟨⟨last, _⟩, lastRead, read⟩ := Option.bind_eq_some_iff.mp read
      obtain ⟨⟨kind, _⟩, kindRead, read⟩ := Option.bind_eq_some_iff.mp read
      obtain ⟨⟨content, _⟩, blockRead, read⟩ := Option.bind_eq_some_iff.mp read
      have lastAhead := leaves_takeNumber more 1 lastRead
      have kindAhead := leaves_takeNumber more 2 kindRead
      have blockAhead := leaves_inflateBlock whole kind written blockRead
      simp only [lastAhead, kindAhead, blockAhead, Option.bind_some]
      simp only at read
      split at read
      · next isLast =>
          cases read
          rw [if_pos isLast]
      · next goesOn =>
          rw [if_neg goesOn]
          exact ih read still

omit whole

/-- The fuel that goes with a stream is enough when more bytes follow. -/
theorem inflateBlocks_bitsOfBytes_append {stream : List UInt8} {inflated : Array UInt8}
    {rest : Bits} (behind : List UInt8)
    (read : inflateBlocks ((bitsOfBytes stream).length + 1) #[] (bitsOfBytes stream) =
      some (inflated, rest)) :
    inflateBlocks ((bitsOfBytes (stream ++ behind)).length + 1) #[]
        (bitsOfBytes (stream ++ behind)) = some (inflated, rest ++ bitsOfBytes behind) := by
  have bitsAhead : bitsOfBytes (stream ++ behind) = bitsOfBytes stream ++ bitsOfBytes behind :=
    List.flatMap_append
  rw [bitsAhead]
  apply inflateBlocks_append _ read
  · rw [List.length_append]
    omega
  · rw [length_bitsOfBytes]
    omega

end Deflate

end DocumentIngest
