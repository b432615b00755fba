import DocumentIngest.Dataset.Opening
import DocumentIngest.Proofs.BitStreams
import Mathlib.Data.List.Forall2

/-!
# Files of several gzip members

A gzip file is a series of members, each with the compressed form of some bytes.  Only
the first member of a file is read.  Whatever follows it, the file decodes to the
dataset that the content of its first member is.
-/

namespace DocumentIngest

namespace Gzip

open Deflate

variable {bytes rest : List UInt8} (more : List UInt8)

theorem skipText_append (skipped : skipText bytes = some rest) :
    skipText (bytes ++ more) = some (rest ++ more) := by
  rw [skipText] at skipped ⊢
  split at skipped
  · cases skipped
  next short =>
  cases behind : bytes.dropWhile (· != 0) with
  | nil =>
      rw [behind] at skipped
      cases skipped
  | cons zero left =>
      rw [behind] at skipped
      cases skipped
      have ends : (bytes.takeWhile (· != 0)).length ≠ bytes.length := by
        have whole := congrArg List.length
          (List.takeWhile_append_dropWhile (p := (· != 0)) (l := bytes))
        rw [List.length_append, behind, List.length_cons] at whole
        omega
      rw [List.takeWhile_append, if_neg ends, if_neg short, List.dropWhile_append, behind]
      rfl

theorem skipExtra_append (skipped : skipExtra bytes = some rest) :
    skipExtra (bytes ++ more) = some (rest ++ more) := by
  rcases bytes with _ | ⟨low, _ | ⟨high, behind⟩⟩
  · cases skipped
  · cases skipped
  · simp only [skipExtra] at skipped
    rw [List.cons_append, List.cons_append]
    simp only [skipExtra, List.length_append]
    split at skipped
    · cases skipped
    next within =>
    cases skipped
    rw [if_neg (by omega), List.drop_append_of_le_length (by omega)]

/-- Drops a field of a header if the flags say that it is there. -/
def skipIf (present : Bool) (skip : List UInt8 → Option (List UInt8)) (bytes : List UInt8) :
    Option (List UInt8) :=
  if present then skip bytes else some bytes

/-- Drops the check sum of a header, if there is one, unless it is wrong. -/
def skipCheck (present : Bool) (file bytes : List UInt8) : Option (List UInt8) :=
  if present then
    match bytes with
    | low :: high :: behind =>
        let header := file.take (file.length - bytes.length)
        if (checkSum header).toNat % 65536 = low.toNat + 256 * high.toNat then some behind
        else none
    | _ => none
  else some bytes

/-- Drops what stands in a header behind its first ten bytes. -/
def skipFields (flags : UInt8) (file bytes : List UInt8) : Option (List UInt8) :=
  let has (place : Nat) : Bool := flags.toNat.testBit place
  if has 5 || has 6 || has 7 then none
  else
    (skipIf (has 2) skipExtra bytes).bind fun bytes =>
      (skipIf (has 3) skipText bytes).bind fun bytes =>
        (skipIf (has 4) skipText bytes).bind fun bytes =>
          skipCheck (has 1) file bytes

theorem skipIf_bind (present : Bool) (skip next : List UInt8 → Option (List UInt8)) :
    (skipIf present skip bytes).bind next =
      if present then (skip bytes).bind next else (some bytes).bind next := by
  cases present <;> rfl

theorem skipHeader_eq (flags a b c d e f : UInt8) (bytes : List UInt8) :
    skipHeader (0x1f :: 0x8b :: 8 :: flags :: a :: b :: c :: d :: e :: f :: bytes) =
      skipFields flags (0x1f :: 0x8b :: 8 :: flags :: a :: b :: c :: d :: e :: f :: bytes)
        bytes := by
  simp only [skipFields, skipIf_bind, skipCheck]
  rfl

theorem skipIf_append {present : Bool} {skip : List UInt8 → Option (List UInt8)}
    (goesOn : ∀ {bytes rest}, skip bytes = some rest → skip (bytes ++ more) = some (rest ++ more))
    (skipped : skipIf present skip bytes = some rest) :
    skipIf present skip (bytes ++ more) = some (rest ++ more) := by
  cases present with
  | false =>
      cases skipped
      rfl
  | true => exact goesOn skipped

theorem skipCheck_append {present : Bool} {file : List UInt8}
    (skipped : skipCheck present file bytes = some rest) :
    skipCheck present (file ++ more) (bytes ++ more) = some (rest ++ more) := by
  have sameHeader : (file ++ more).take ((file ++ more).length - (bytes ++ more).length) =
      file.take (file.length - bytes.length) := by
    rw [List.length_append, List.length_append, Nat.add_sub_add_right,
      List.take_append_of_le_length (Nat.sub_le _ _)]
  cases present with
  | false =>
      cases skipped
      rfl
  | true =>
      rcases bytes with _ | ⟨low, _ | ⟨high, behind⟩⟩
      · cases skipped
      · cases skipped
      simp only [skipCheck, if_true] at skipped ⊢
      rw [sameHeader]
      split at skipped
      · next sound =>
          cases skipped
          exact if_pos sound
      · cases skipped

theorem skipFields_append {flags : UInt8} {file : List UInt8}
    (skipped : skipFields flags file bytes = some rest) :
    skipFields flags (file ++ more) (bytes ++ more) = some (rest ++ more) := by
  simp only [skipFields] at skipped ⊢
  split at skipped
  · cases skipped
  next known =>
  rw [if_neg known]
  obtain ⟨behindExtra, extra, skipped⟩ := Option.bind_eq_some_iff.mp skipped
  obtain ⟨behindName, named, skipped⟩ := Option.bind_eq_some_iff.mp skipped
  obtain ⟨behindComment, commented, skipped⟩ := Option.bind_eq_some_iff.mp skipped
  rw [skipIf_append more (skipExtra_append more) extra, Option.bind_some,
    skipIf_append more (skipText_append more) named, Option.bind_some,
    skipIf_append more (skipText_append more) commented, Option.bind_some]
  exact skipCheck_append more skipped

theorem skipHeader_append {file stream : List UInt8} (skipped : skipHeader file = some stream) :
    skipHeader (file ++ more) = some (stream ++ more) := by
  have marked : ∃ flags a b c d e f bytes,
      file = 0x1f :: 0x8b :: 8 :: flags :: a :: b :: c :: d :: e :: f :: bytes := by
    unfold skipHeader at skipped
    split at skipped
    · next flags a b c d e f bytes => exact ⟨flags, a, b, c, d, e, f, bytes, rfl⟩
    · cases skipped
  obtain ⟨flags, a, b, c, d, e, f, bytes, rfl⟩ := marked
  rw [skipHeader_eq] at skipped
  have ahead := skipFields_append more skipped
  simp only [List.cons_append] at ahead ⊢
  rw [skipHeader_eq]
  exact ahead

theorem number32?_append {value : Nat} (number : number32? (bytes.take 4) = some value) :
    4 ≤ bytes.length ∧ number32? ((bytes ++ more).take 4) = some value := by
  have four : (bytes.take 4).length = 4 := by
    unfold number32? at number
    split at number
    · next taken =>
        rw [taken]
        rfl
    · cases number
  have enough : 4 ≤ bytes.length := by
    rw [List.length_take] at four
    omega
  rw [List.take_append_of_le_length enough]
  exact ⟨enough, number⟩

/-- The content of the first member of a file, and what follows that member. -/
def readMember? (file : List UInt8) : Option (List UInt8 × List UInt8) := do
  let stream ← skipHeader file
  let bits := bitsOfBytes stream
  let (written, bits) ← inflateBlocks (bits.length + 1) #[] bits
  let content := written.toList
  let behind := stream.drop (stream.length - bits.length / 8)
  let sum ← number32? (behind.take 4)
  let length ← number32? ((behind.drop 4).take 4)
  if sum = (checkSum content).toNat ∧ length = content.length % 2 ^ 32 then
    some (content, behind.drop 8)
  else none

theorem inflate?_eq (file : List UInt8) : inflate? file = (readMember? file).map Prod.fst := by
  rw [inflate?, readMember?]
  simp only [Option.bind_eq_bind, Option.map_bind, Function.comp_def]
  refine Option.bind_congr fun stream _ => Option.bind_congr fun inflated _ => ?_
  refine Option.bind_congr fun sum _ => Option.bind_congr fun length _ => ?_
  split
  · rfl
  · rfl

theorem readMember?_append {file content : List UInt8}
    (read : readMember? file = some (content, rest)) :
    readMember? (file ++ more) = some (content, rest ++ more) := by
  obtain ⟨stream, header, read⟩ := Option.bind_eq_some_iff.mp read
  obtain ⟨⟨written, bits⟩, inflated, read⟩ := Option.bind_eq_some_iff.mp read
  obtain ⟨sum, sumRead, read⟩ := Option.bind_eq_some_iff.mp read
  obtain ⟨length, lengthRead, read⟩ := Option.bind_eq_some_iff.mp read
  have inflatedAhead := inflateBlocks_bitsOfBytes_append more inflated
  have behindAhead : (stream ++ more).drop
      ((stream ++ more).length - (bits ++ bitsOfBytes more).length / 8) =
        stream.drop (stream.length - bits.length / 8) ++ more := by
    have sameShift : (stream ++ more).length - (bits ++ bitsOfBytes more).length / 8 =
        stream.length - bits.length / 8 := by
      rw [List.length_append, List.length_append, length_bitsOfBytes]
      omega
    rw [sameShift, List.drop_append_of_le_length (Nat.sub_le _ _)]
  generalize stream.drop (stream.length - bits.length / 8) = behind at *
  obtain ⟨enough, sumAhead⟩ := number32?_append more sumRead
  obtain ⟨enoughMore, lengthAhead⟩ := number32?_append more lengthRead
  rw [List.length_drop] at enoughMore
  rw [← List.drop_append_of_le_length enough] at lengthAhead
  simp only [readMember?, skipHeader_append more header, inflatedAhead, behindAhead, sumAhead,
    lengthAhead, Option.bind_eq_bind, Option.bind_some]
  split at read
  · next sound =>
      cases read
      rw [if_pos sound, List.drop_append_of_le_length (by omega)]
  · cases read

/-- Whether bytes are a member with some content, and nothing else. -/
def IsMember (member content : List UInt8) : Prop :=
  readMember? member = some (content, [])

instance (member content : List UInt8) : Decidable (IsMember member content) :=
  inferInstanceAs (Decidable (readMember? member = some (content, [])))

theorem inflate?_members {members others : List (List UInt8)} {first : List UInt8}
    (series : List.Forall₂ IsMember members (first :: others)) :
    inflate? members.flatten = some first := by
  cases series with
  | cons isFirst _ =>
      rw [List.flatten_cons, inflate?_eq, readMember?_append _ isFirst]
      rfl

end Gzip

namespace Dataset

/-- The dataset of a file that is not compressed, or not any more, by its name. -/
def ofNamed? (name : String) (content : List UInt8) : Option Dataset :=
  if ".ndjson".toList.isSuffixOf name.toList || ".jsonl".toList.isSuffixOf name.toList then
    (ofLines content).toOption
  else (ofDocument content).toOption

theorem toOption_attempting {α : Type} (attempt : String) (step : Except Failure α) :
    (attempting attempt step).toOption = step.toOption := by
  cases step <;> rfl

theorem toOption_of_name (name lines document : String) (content : List UInt8) :
    (if ".ndjson".toList.isSuffixOf name.toList || ".jsonl".toList.isSuffixOf name.toList then
      attempting lines (ofLines content)
    else attempting document (ofDocument content)).toOption = ofNamed? name content := by
  rw [ofNamed?]
  split
  · exact toOption_attempting lines _
  · exact toOption_attempting document _

theorem decode_of_plain {plain name : String} (named : Path.fileName? plain = some name)
    (isPlain : ".gz".toList.isSuffixOf name.toList = false) (content : List UInt8) :
    (decode plain content).toOption = ofNamed? name content := by
  rw [decode, named, Option.getD_some]
  simp only [isPlain, Bool.false_eq_true, if_false, bind, Except.bind]
  exact toOption_of_name name _ _ content

theorem decode_of_archived {path name : String}
    (archived : Path.fileName? path = some (name ++ ".gz")) (file : List UInt8) :
    (decode path file).toOption = (Gzip.inflate? file).bind (ofNamed? name) := by
  have ending : ".gz".toList.isSuffixOf (name ++ ".gz").toList = true := by
    rw [List.isSuffixOf_iff_suffix, String.toList_append]
    exact List.suffix_append _ _
  have inner : (name ++ ".gz").toList.take ((name ++ ".gz").toList.length - 3) = name.toList := by
    rw [String.toList_append, List.length_append]
    exact List.take_left' rfl
  rw [decode, archived, Option.getD_some]
  simp only [ending, if_true, inner]
  cases Gzip.inflate? file with
  | none => rfl
  | some content => exact toOption_of_name name _ _ content

theorem isSuffixOf_of_archived {name ending : List Char} (archived : ".gz".toList <:+ name)
    (longer : ".gz".toList.length ≤ ending.length) (other : ¬".gz".toList <:+ ending) :
    ending.isSuffixOf name = false := by
  rw [← Bool.not_eq_true, List.isSuffixOf_iff_suffix]
  intro also
  apply other
  exact List.suffix_of_suffix_length_le archived also longer

theorem ofNamed?_of_archived {name : String}
    (twice : ".gz".toList.isSuffixOf name.toList = true) (content : List UInt8) :
    ofNamed? name content = (ofDocument content).toOption := by
  have archived : ".gz".toList <:+ name.toList := List.isSuffixOf_iff_suffix.mp twice
  have noLines : ".ndjson".toList.isSuffixOf name.toList = false :=
    isSuffixOf_of_archived archived (by decide) (by decide)
  have noShortLines : ".jsonl".toList.isSuffixOf name.toList = false :=
    isSuffixOf_of_archived archived (by decide) (by decide)
  rw [ofNamed?, noLines, noShortLines]
  rfl

end Dataset

/-- A compressed dataset file: its members and what they hold, and a path at which the
same dataset would stand without compression. -/
structure CompressedFile where
  path : String
  plain : String
  name : String
  members : List (List UInt8)
  first : List UInt8
  others : List (List UInt8)
  archived : Path.fileName? path = some (name ++ ".gz")
  named : Path.fileName? plain = some name
  series : List.Forall₂ Gzip.IsMember members (first :: others)

namespace CompressedFile

variable (file : CompressedFile)

def bytes : List UInt8 :=
  file.members.flatten

def content : List UInt8 :=
  (file.first :: file.others).flatten

/-- Whether compression changes nothing of what the file decodes to. -/
def ReadsAsPlain : Prop :=
  (Dataset.decode file.path file.bytes).toOption =
    (Dataset.decode file.plain file.content).toOption

theorem decode_bytes_eq :
    (Dataset.decode file.path file.bytes).toOption = Dataset.ofNamed? file.name file.first := by
  rw [Dataset.decode_of_archived file.archived, bytes, Gzip.inflate?_members file.series]
  rfl

/-- A file of one member reads as its content does. -/
theorem readsAsPlain_of_one (isOne : file.others = [])
    (once : ".gz".toList.isSuffixOf file.name.toList = false) : file.ReadsAsPlain := by
  rw [ReadsAsPlain, decode_bytes_eq, Dataset.decode_of_plain file.named once, content, isOne,
    List.flatten_singleton]

/-- A file decodes to what the content of its first member decodes to.  A name that says
twice that the file is compressed makes that content a single document. -/
theorem decode_bytes :
    (Dataset.decode file.path file.bytes).toOption =
      if ".gz".toList.isSuffixOf file.name.toList then (Dataset.ofDocument file.first).toOption
      else (Dataset.decode file.plain file.first).toOption := by
  rw [decode_bytes_eq]
  split
  · next twice => exact Dataset.ofNamed?_of_archived twice file.first
  · next once =>
      rw [Bool.not_eq_true] at once
      exact (Dataset.decode_of_plain file.named once file.first).symm

/-- Two lines of rows, each of them compressed by itself. -/
def twoLines : CompressedFile where
  path := "rows.ndjson.gz"
  plain := "rows.ndjson"
  name := "rows.ndjson"
  members :=
    [[31, 139, 8, 0, 0, 0, 0, 0, 0, 3, 171, 174, 229, 2, 0, 6, 176, 161, 221, 3, 0, 0, 0],
      [31, 139, 8, 0, 0, 0, 0, 0, 0, 3, 1, 3, 0, 252, 255, 123, 125, 10, 6, 176, 161, 221, 3, 0,
        0, 0]]
  first := [123, 125, 10]
  others := [[123, 125, 10]]
  archived := by decide +kernel
  named := by decide +kernel
  series := .cons (by decide +kernel) (.cons (by decide +kernel) .nil)

theorem not_readsAsPlain : ¬∀ file : CompressedFile, file.ReadsAsPlain := by
  intro reads
  have sameRows := congrArg (Option.map Dataset.rowCount) (reads twoLines)
  have one : ((Dataset.decode twoLines.path twoLines.bytes).toOption.map Dataset.rowCount) =
      some 1 := by decide +kernel
  have two : ((Dataset.decode twoLines.plain twoLines.content).toOption.map Dataset.rowCount) =
      some 2 := by decide +kernel
  rw [one, two] at sameRows
  cases sameRows

end CompressedFile

end DocumentIngest
