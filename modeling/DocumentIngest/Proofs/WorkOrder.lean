import DocumentIngest.Proofs.NewFiles
import Mathlib.Data.List.Lex
import Mathlib.Data.String.Basic

/-!
# The order of work

Paths are ordered part by part, which is a strict order of lists of parts.  Candidates are
ordered by time and then by path, so among candidates of different paths none ties with
another one, and work comes in one order whatever order its candidates and markers came in.
-/

namespace DocumentIngest

namespace PathPart

variable {first second third : PathPart}

theorem before_iff : first.before second = true ↔
    first.rank < second.rank ∨ (first.rank = second.rank ∧ first.text < second.text) := by
  simp [before]

theorem before_trans (earlier : first.before second = true) (later : second.before third = true) :
    first.before third = true := by
  rw [before_iff] at *
  rcases earlier with lower | ⟨same, less⟩ <;> rcases later with upper | ⟨alike, more⟩
  · exact .inl (lower.trans upper)
  · exact .inl (alike ▸ lower)
  · exact .inl (same ▸ upper)
  · exact .inr ⟨same.trans alike, String.lt_trans less more⟩

theorem not_before_self (part : PathPart) : ¬ part.before part = true := by
  rw [before_iff]
  rintro (lower | ⟨_, less⟩)
  · exact Nat.lt_irrefl _ lower
  · exact String.lt_irrefl _ less

theorem eq_of_not_before (notEarlier : ¬ first.before second = true)
    (notLater : ¬ second.before first = true) : first = second := by
  rw [before_iff, not_or, not_and] at notEarlier notLater
  have sameRank : first.rank = second.rank := by omega
  have sameText : first.text = second.text :=
    String.le_antisymm (String.not_lt.mp (notLater.2 sameRank.symm))
      (String.not_lt.mp (notEarlier.2 sameRank))
  cases first <;> cases second <;> first | rfl | (cases sameText; rfl) | cases sameRank

instance : Std.Asymm (fun first second : PathPart => first.before second = true) where
  asymm first _ earlier later := not_before_self first (before_trans earlier later)

instance : Std.Trichotomous (fun first second : PathPart => first.before second = true) where
  trichotomous _ _ := eq_of_not_before

end PathPart

namespace Path

theorem partsBefore_iff {first second : List PathPart} :
    partsBefore first second = true ↔
      List.Lex (fun part other => part.before other = true) first second := by
  induction first generalizing second with
  | nil =>
      cases second with
      | nil => simp [partsBefore]
      | cons other behind => simp [partsBefore]
  | cons part rest ih =>
      cases second with
      | nil => simp [partsBefore]
      | cons other behind =>
          rw [partsBefore]
          split
          · next same =>
              subst same
              rw [ih, List.lex_cons_iff]
          · next different =>
              constructor
              · exact fun less => .rel less
              · rintro (_ | less | inside)
                · exact less
                · exact absurd rfl different

variable {first second third : String}

theorem before_trans (earlier : before first second = true) (later : before second third = true) :
    before first third = true :=
  partsBefore_iff.mpr
    (List.lex_trans PathPart.before_trans (partsBefore_iff.mp earlier) (partsBefore_iff.mp later))

theorem before_asymm (earlier : before first second = true) : ¬ before second first = true :=
  fun later => asymm (partsBefore_iff.mp earlier) (partsBefore_iff.mp later)

theorem parts_eq_of_not_before (notEarlier : ¬ before first second = true)
    (notLater : ¬ before second first = true) : parts first = parts second :=
  Std.Trichotomous.trichotomous _ _ (mt partsBefore_iff.mpr notEarlier)
    (mt partsBefore_iff.mpr notLater)

theorem not_before_trans (notLater : ¬ before second first = true)
    (notLast : ¬ before third second = true) : ¬ before third first = true := by
  intro earlier
  by_cases between : before second third = true
  · exact notLater (before_trans between earlier)
  · have same := parts_eq_of_not_before between notLast
    apply notLater
    rw [before, same]
    exact earlier

end Path

namespace Candidate

/-- Whether a candidate is offered ahead of another one: it is older, or as old and before it
by path. -/
def Precedes (first second : Candidate) : Prop :=
  first.mtime < second.mtime ∨
    (first.mtime = second.mtime ∧ Path.before first.path second.path = true)

variable {first second third : Candidate}

theorem comesBefore_iff : first.comesBefore second = true ↔ ¬ second.Precedes first := by
  simp only [comesBefore, Precedes, Bool.or_eq_true, decide_eq_true_eq, Bool.and_eq_true,
    Bool.not_eq_true', not_or, not_and, Bool.not_eq_true]
  constructor
  · rintro (older | ⟨same, notBefore⟩)
    · exact ⟨by omega, by omega⟩
    · exact ⟨by omega, fun _ => notBefore⟩
  · rintro ⟨notOlder, notBefore⟩
    rcases Int.lt_or_eq_of_le (Int.not_lt.mp notOlder) with older | same
    · exact .inl older
    · exact .inr ⟨same, notBefore same.symm⟩

theorem Precedes.asymm (earlier : first.Precedes second) : ¬ second.Precedes first := by
  rintro (older | ⟨same, before⟩)
  · rcases earlier with younger | ⟨alike, _⟩ <;> omega
  · rcases earlier with younger | ⟨_, after⟩
    · omega
    · exact Path.before_asymm before after

theorem comesBefore_trans (earlier : first.comesBefore second = true)
    (later : second.comesBefore third = true) : first.comesBefore third = true := by
  rw [comesBefore_iff] at *
  rintro (older | ⟨same, before⟩)
  · have notOlder := mt Or.inl earlier
    have notYounger := mt Or.inl later
    omega
  · have notOlder := mt Or.inl earlier
    have notYounger := mt Or.inl later
    have firstSame : second.mtime = first.mtime := by omega
    have secondSame : third.mtime = second.mtime := by omega
    exact Path.not_before_trans (fun ahead => earlier (.inr ⟨firstSame, ahead⟩))
      (fun ahead => later (.inr ⟨secondSame, ahead⟩)) before

theorem comesBefore_total (first second : Candidate) :
    (first.comesBefore second || second.comesBefore first) = true := by
  rw [Bool.or_eq_true, comesBefore_iff, comesBefore_iff]
  by_cases ahead : second.Precedes first
  · exact .inr ahead.asymm
  · exact .inl ahead

theorem precedes_of_comesBefore (earlier : first.comesBefore second = true)
    (different : Path.parts first.path ≠ Path.parts second.path) : first.Precedes second := by
  rw [comesBefore_iff, Precedes, not_or, not_and] at earlier
  obtain ⟨notOlder, notAhead⟩ := earlier
  rcases Int.lt_or_eq_of_le (Int.not_lt.mp notOlder) with older | same
  · exact .inl older
  · refine .inr ⟨same, ?_⟩
    by_contra notBefore
    exact different (Path.parts_eq_of_not_before notBefore (notAhead same.symm))

end Candidate

namespace Discovery

variable {candidates others : List Candidate} {records markers : List DataFileRecord}

/-- A candidate is new if all markers of its path are of earlier times. -/
theorem isNew_latestKnown_iff {candidate : Candidate} :
    isNew (latestKnown records) candidate = true ↔
      ∀ record ∈ records, record.url = candidate.path → record.mtime < candidate.mtime := by
  rw [isNew, lookup_latestKnown]
  cases found : ((records.filter fun record => record.url = candidate.path).map
      DataFileRecord.mtime).max? with
  | none =>
      rw [List.max?_eq_none_iff, List.map_eq_nil_iff, List.filter_eq_nil_iff] at found
      simp only [true_iff]
      intro record member same
      exact absurd (decide_eq_true same) (found record member)
  | some latest =>
      obtain ⟨reached, bounds⟩ := List.max?_eq_some_iff.mp found
      rw [decide_eq_true_eq]
      constructor
      · intro newer record member same
        have below := bounds record.mtime (List.mem_map.mpr
          ⟨record, List.mem_filter.mpr ⟨member, decide_eq_true same⟩, rfl⟩)
        omega
      · intro all
        obtain ⟨record, kept, rfl⟩ := List.mem_map.mp reached
        obtain ⟨member, same⟩ := List.mem_filter.mp kept
        exact all record member (of_decide_eq_true same)

theorem isNew_perm (permuted : markers.Perm records) :
    isNew (latestKnown markers) = isNew (latestKnown records) := by
  funext candidate
  rw [Bool.eq_iff_iff, isNew_latestKnown_iff, isNew_latestKnown_iff]
  exact ⟨fun all record member => all record (permuted.mem_iff.mpr member),
    fun all record member => all record (permuted.mem_iff.mp member)⟩

theorem select_perm (permuted : others.Perm candidates) (known : Keyed Int)
    (filter : DiscoveryFilter) :
    (select others known filter).Perm (select candidates known filter) :=
  (List.mergeSort_perm _ _).trans
    (((permuted.filter _).filter _).trans (List.mergeSort_perm _ _).symm)

theorem select_pairwise
    (different : candidates.Pairwise fun first second =>
      Path.parts first.path ≠ Path.parts second.path)
    (known : Keyed Int) (filter : DiscoveryFilter) :
    (select candidates known filter).Pairwise Candidate.Precedes := by
  have sorted : (select candidates known filter).Pairwise
      fun first second => first.comesBefore second = true :=
    @List.pairwise_mergeSort _ Candidate.comesBefore (fun _ _ _ => Candidate.comesBefore_trans)
      Candidate.comesBefore_total _
  -- Sorting only promises that nothing comes later than it may; different paths rule out ties.
  have apart := ((different.filter filter.admits).filter (isNew known)).perm
    (List.mergeSort_perm _ Candidate.comesBefore).symm fun unlike => unlike.symm
  exact (sorted.and apart).imp fun both => Candidate.precedes_of_comesBefore both.1 both.2

/-- The work is what is admitted and new, each once and in order, however the candidates and
the markers are listed. -/
theorem selects_new_in_order
    (different : candidates.Pairwise fun first second =>
      Path.parts first.path ≠ Path.parts second.path)
    (spelledAlike : ∀ candidate ∈ candidates, ∀ record ∈ records,
      Path.parts record.url = Path.parts candidate.path → record.url = candidate.path)
    (filter : DiscoveryFilter) :
    (select candidates (latestKnown records) filter).Pairwise Candidate.Precedes ∧
    (select candidates (latestKnown records) filter).Nodup ∧
    (∀ candidate, candidate ∈ select candidates (latestKnown records) filter ↔
      candidate ∈ candidates ∧ filter.admits candidate = true ∧
        ∀ record ∈ records, Path.parts record.url = Path.parts candidate.path →
          record.mtime < candidate.mtime) ∧
    ∀ others markers, others.Perm candidates → markers.Perm records →
      select others (latestKnown markers) filter =
        select candidates (latestKnown records) filter := by
  have ordered := select_pairwise different (latestKnown records) filter
  refine ⟨ordered, ?_, ?_, ?_⟩
  · refine ordered.imp ?_
    rintro candidate _ ahead rfl
    exact ahead.asymm ahead
  · intro candidate
    rw [mem_select, isNew_latestKnown_iff]
    constructor
    · rintro ⟨member, admitted, newer⟩
      exact ⟨member, admitted, fun record isRecord same =>
        newer record isRecord (spelledAlike candidate member record isRecord same)⟩
    · rintro ⟨member, admitted, newer⟩
      exact ⟨member, admitted, fun record isRecord same =>
        newer record isRecord (congrArg Path.parts same)⟩
  · intro others markers sameCandidates sameRecords
    have otherOrdered : (select others (latestKnown records) filter).Pairwise
        Candidate.Precedes :=
      select_pairwise (different.perm sameCandidates.symm fun unlike => unlike.symm) _ filter
    have rearranged : select others (latestKnown markers) filter =
        select others (latestKnown records) filter := by
      rw [select, select, isNew_perm sameRecords]
    rw [rearranged]
    exact (select_perm sameCandidates _ filter).eq_of_pairwise
      (fun _ _ _ _ ahead behind => absurd behind ahead.asymm) otherOrdered ordered

/-- Three files of which two are as old as each other. -/
def daily : List Candidate :=
  [⟨"in/b.json", 20⟩, ⟨"in/a.json", 20⟩, ⟨"in/c.json", 5⟩, ⟨"in/d.json", 7⟩]

/-- Markers of two of the files, one of them as new as its file. -/
def dailyMarkers : List DataFileRecord :=
  [⟨"DF:1", "DF", "", "", "in/c.json", 5, "obs"⟩, ⟨"DF:2", "DF", "", "", "in/b.json", 10, "obs"⟩,
    ⟨"DF:3", "DF", "", "", "in/c.json", 3, "obs"⟩]

theorem selects_new_in_order_daily :
    (daily.Pairwise fun first second => Path.parts first.path ≠ Path.parts second.path) ∧
      (∀ candidate ∈ daily, ∀ record ∈ dailyMarkers,
        Path.parts record.url = Path.parts candidate.path → record.url = candidate.path) ∧
      ⟨"in/b.json", 20⟩ ∈ select daily (latestKnown dailyMarkers) {} ∧
      ⟨"in/c.json", 5⟩ ∉ select daily (latestKnown dailyMarkers) {} ∧
      select daily.reverse (latestKnown dailyMarkers.reverse) {} =
        select daily (latestKnown dailyMarkers) {} := by
  have different : daily.Pairwise fun first second =>
      Path.parts first.path ≠ Path.parts second.path := by decide
  have spelledAlike : ∀ candidate ∈ daily, ∀ record ∈ dailyMarkers,
      Path.parts record.url = Path.parts candidate.path → record.url = candidate.path := by
    decide
  obtain ⟨_, _, exact, anyOrder⟩ := selects_new_in_order different spelledAlike {}
  refine ⟨different, spelledAlike, (exact _).mpr ⟨by decide, rfl, by decide⟩, ?_, ?_⟩
  · rw [exact]
    rintro ⟨_, _, newer⟩
    exact absurd (newer ⟨"DF:1", "DF", "", "", "in/c.json", 5, "obs"⟩ (by decide) rfl) (by decide)
  · exact anyOrder _ _ (List.reverse_perm daily) (List.reverse_perm dailyMarkers)

end Discovery

end DocumentIngest
