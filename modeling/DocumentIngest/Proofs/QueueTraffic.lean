import DocumentIngest.Queue
import Mathlib.Data.List.Nodup
import Mathlib.Data.List.Perm.Basic

/-!
# Traffic at the work queue

The copies of a queue share its channel, its ledger and its counter, so what all
their holders do is one history of acts.  A pop is two of them, taking the oldest
ticket and entering it in the ledger, and any other act may come between the two,
halves of other pops included.  Whatever the order, no accepted ticket is lost or
handed out twice, tickets leave in the order they came, and a queue that was once
found drained hands out nothing any more.
-/

namespace DocumentIngest

namespace WorkQueue

theorem acknowledge_waiting (queue : WorkQueue) (number : Nat) :
    (queue.acknowledge number).waiting = queue.waiting := by
  unfold acknowledge
  split <;> rfl

theorem acknowledge_isOpen (queue : WorkQueue) (number : Nat) :
    (queue.acknowledge number).isOpen = queue.isOpen := by
  unfold acknowledge
  split <;> rfl

theorem acknowledge_next (queue : WorkQueue) (number : Nat) :
    (queue.acknowledge number).next = queue.next := by
  unfold acknowledge
  split <;> rfl

theorem acknowledge_of_not_mem {queue : WorkQueue} {number : Nat}
    (unknown : number ∉ queue.ledger) : queue.acknowledge number = queue := by
  unfold acknowledge
  rw [if_neg]
  rwa [List.contains_iff_mem]

/-- An acknowledgement moves a number from the ledger to the count, or does nothing. -/
theorem acknowledge_balance (queue : WorkQueue) (number : Nat) :
    (queue.acknowledge number).ledger.length + (queue.acknowledge number).acknowledged =
      queue.ledger.length + queue.acknowledged := by
  by_cases known : number ∈ queue.ledger
  · have positive := List.length_pos_of_mem known
    have contained : queue.ledger.contains number = true := List.contains_iff_mem.mpr known
    rw [acknowledge, if_pos contained]
    simp only [List.length_erase_of_mem known]
    omega
  · rw [acknowledge_of_not_mem known]

theorem acknowledge_ledger_sublist (queue : WorkQueue) (number : Nat) :
    (queue.acknowledge number).ledger.Sublist queue.ledger := by
  unfold acknowledge
  split
  · exact List.erase_sublist
  · exact List.Sublist.refl _

theorem push_of_accepts {queue : WorkQueue} (accepts : queue.accepts = true) (item : WorkItem) :
    queue.push item =
      { queue with
        waiting := queue.waiting ++ [⟨queue.next, item⟩]
        next := queue.next + 1 } :=
  if_pos accepts

theorem push_of_refuses {queue : WorkQueue} (refuses : queue.accepts = false) (item : WorkItem) :
    queue.push item = { queue with next := queue.next + 1 } := by
  rw [push, refuses]
  rfl

end WorkQueue

/-- What somebody who holds a copy of the queue, or its feeder, does. -/
inductive QueueAct where
  | push (item : WorkItem)
  | dropFeeder
  /-- The first half of a pop. -/
  | take
  /-- The second half of a pop, that at a position among those half done. -/
  | enter (position : Nat)
  | acknowledge (number : Nat)
deriving DecidableEq, Repr

/-- What an act answers. -/
inductive QueueAnswer where
  | accepted (ticket : Ticket)
  | refused
  | polled (found : Polled)
  | done
deriving DecidableEq, Repr

namespace QueueAnswer

def accepted? : QueueAnswer → Option Ticket
  | accepted ticket => some ticket
  | _ => none

def handedOut? : QueueAnswer → Option Ticket
  | polled (.ticket ticket) => some ticket
  | _ => none

/-- The tickets of the pushes that were accepted, in order. -/
def acceptedOnes (answers : List QueueAnswer) : List Ticket :=
  answers.filterMap accepted?

/-- The tickets that pops answered, in order. -/
def handedOut (answers : List QueueAnswer) : List Ticket :=
  answers.filterMap handedOut?

theorem acceptedOnes_concat (answers : List QueueAnswer) (answer : QueueAnswer) :
    acceptedOnes (answers ++ [answer]) = acceptedOnes answers ++ answer.accepted?.toList := by
  cases found : answer.accepted? <;> simp [acceptedOnes, found]

theorem handedOut_concat (answers : List QueueAnswer) (answer : QueueAnswer) :
    handedOut (answers ++ [answer]) = handedOut answers ++ answer.handedOut?.toList := by
  cases found : answer.handedOut? <;> simp [handedOut, found]

end QueueAnswer

open QueueAnswer

/-- A queue together with the pops that are half done, by whichever copies. -/
structure QueueTraffic where
  queue : WorkQueue := {}
  /-- Tickets taken and not yet entered, the oldest first. -/
  inHand : List Ticket := []
deriving DecidableEq, Repr

namespace QueueTraffic

/-- One act, with its answer. -/
def act (traffic : QueueTraffic) : QueueAct → QueueTraffic × QueueAnswer
  | .push item =>
      ({ traffic with queue := traffic.queue.push item },
        if traffic.queue.accepts then .accepted ⟨traffic.queue.next, item⟩ else .refused)
  | .dropFeeder => ({ traffic with queue := traffic.queue.close }, .done)
  | .take =>
      match traffic.queue.take with
      | (queue, .ticket ticket) =>
          (⟨queue, traffic.inHand ++ [ticket]⟩, .polled (.ticket ticket))
      | (queue, found) => (⟨queue, traffic.inHand⟩, .polled found)
  | .enter position =>
      match traffic.inHand[position]? with
      | none => (traffic, .done)
      | some ticket =>
          (⟨traffic.queue.enter ticket.number, traffic.inHand.eraseIdx position⟩, .done)
  | .acknowledge number => ({ traffic with queue := traffic.queue.acknowledge number }, .done)

/-- A history of acts, with their answers. -/
def perform (traffic : QueueTraffic) : List QueueAct → QueueTraffic × List QueueAnswer
  | [] => (traffic, [])
  | act :: rest =>
      let performed := (traffic.act act).1.perform rest
      (performed.1, (traffic.act act).2 :: performed.2)

/-- The two halves of a pop with nothing between them are a whole pop. -/
theorem perform_take_enter (queue : WorkQueue) :
    (perform ⟨queue, []⟩ [.take, .enter 0]).1 = ⟨queue.pop.1, []⟩ ∧
      (perform ⟨queue, []⟩ [.take, .enter 0]).2 = [.polled queue.pop.2, .done] := by
  cases waiting : queue.waiting with
  | cons ticket rest => simp [perform, act, WorkQueue.pop, WorkQueue.take, waiting]
  | nil =>
      cases isOpen : queue.isOpen <;>
        simp [perform, act, WorkQueue.pop, WorkQueue.take, waiting, isOpen]

/-- Finding nothing changes nothing. -/
theorem act_take_of_waiting_nil {traffic : QueueTraffic} (empty : traffic.queue.waiting = []) :
    traffic.act .take = (traffic, .polled (if traffic.queue.isOpen then .empty else .drained)) := by
  cases isOpen : traffic.queue.isOpen <;> simp [act, WorkQueue.take, empty, isOpen]

theorem act_take_of_waiting_cons {traffic : QueueTraffic} {ticket : Ticket} {rest : List Ticket}
    (waiting : traffic.queue.waiting = ticket :: rest) :
    traffic.act .take =
      (⟨{ traffic.queue with waiting := rest }, traffic.inHand ++ [ticket]⟩,
        .polled (.ticket ticket)) := by
  simp [act, WorkQueue.take, waiting]

/-- The numbers of the tickets that were handed out and not acknowledged. -/
def outside (traffic : QueueTraffic) : List Nat :=
  traffic.inHand.map Ticket.number ++ traffic.queue.ledger

/-- The books of a queue after a history with some answers. -/
structure Balanced (traffic : QueueTraffic) (answers : List QueueAnswer) : Prop where
  counted : (acceptedOnes answers).length =
    traffic.queue.waiting.length + traffic.queue.ledger.length + traffic.queue.acknowledged +
      traffic.inHand.length
  inOrder : handedOut answers ++ traffic.queue.waiting = acceptedOnes answers
  distinct : ((acceptedOnes answers).map Ticket.number).Nodup
  numbered : ∀ ticket ∈ acceptedOnes answers, ticket.number < traffic.queue.next
  known : ∀ number ∈ traffic.outside, number ∈ (handedOut answers).map Ticket.number
  once : traffic.outside.Nodup

theorem balanced_start : Balanced {} [] := by
  constructor <;> simp [acceptedOnes, handedOut, outside]

namespace Balanced

variable {traffic : QueueTraffic} {answers : List QueueAnswer}

theorem push (balanced : Balanced traffic answers) (item : WorkItem) :
    Balanced (traffic.act (.push item)).1 (answers ++ [(traffic.act (.push item)).2]) := by
  obtain ⟨counted, inOrder, distinct, numbered, known, once⟩ := balanced
  cases accepts : traffic.queue.accepts with
  | false =>
      have pushed : traffic.act (.push item) =
          ({ traffic with queue := { traffic.queue with next := traffic.queue.next + 1 } },
            .refused) := by
        simp [act, accepts, WorkQueue.push_of_refuses accepts]
      rw [pushed]
      constructor
      · simpa [acceptedOnes_concat, accepted?] using counted
      · simpa [acceptedOnes_concat, handedOut_concat, accepted?, handedOut?] using inOrder
      · simpa [acceptedOnes_concat, accepted?] using distinct
      · intro ticket member
        have bound := numbered ticket (by simpa [acceptedOnes_concat, accepted?] using member)
        exact Nat.lt_succ_of_lt bound
      · simpa [handedOut_concat, handedOut?, outside] using known
      · exact once
  | true =>
      have pushed : traffic.act (.push item) =
          ({ traffic with
              queue :=
                { traffic.queue with
                  waiting := traffic.queue.waiting ++ [⟨traffic.queue.next, item⟩]
                  next := traffic.queue.next + 1 } },
            .accepted ⟨traffic.queue.next, item⟩) := by
        simp [act, accepts, WorkQueue.push_of_accepts accepts]
      rw [pushed]
      have ones : acceptedOnes (answers ++ [.accepted ⟨traffic.queue.next, item⟩]) =
          acceptedOnes answers ++ [⟨traffic.queue.next, item⟩] := acceptedOnes_concat _ _
      have same : handedOut (answers ++ [.accepted ⟨traffic.queue.next, item⟩]) =
          handedOut answers := by simp [handedOut_concat, handedOut?]
      constructor
      · simp only [ones, List.length_append, List.length_singleton, counted]
        omega
      · rw [same, ones, ← inOrder, List.append_assoc]
      · rw [ones, List.map_append, List.map_singleton, List.nodup_append]
        refine ⟨distinct, List.nodup_singleton _, ?_⟩
        -- The new number is above all numbers given before.
        intro number earlier other new
        obtain ⟨ticket, member, rfl⟩ := List.mem_map.mp earlier
        have below := numbered ticket member
        rw [List.mem_singleton.mp new]
        exact Nat.ne_of_lt below
      · intro ticket member
        rw [ones] at member
        rcases List.mem_append.mp member with earlier | new
        · exact Nat.lt_succ_of_lt (numbered ticket earlier)
        · rw [List.mem_singleton.mp new]
          exact Nat.lt_succ_self _
      · rw [same]
        exact known
      · exact once

theorem take (balanced : Balanced traffic answers) :
    Balanced (traffic.act .take).1 (answers ++ [(traffic.act .take).2]) := by
  obtain ⟨counted, inOrder, distinct, numbered, known, once⟩ := balanced
  cases waiting : traffic.queue.waiting with
  | nil =>
      rw [act_take_of_waiting_nil waiting]
      have ones : ∀ found, acceptedOnes (answers ++ [.polled found]) = acceptedOnes answers :=
        fun found => by simp [acceptedOnes_concat, accepted?]
      have same : handedOut (answers ++
          [.polled (if traffic.queue.isOpen then .empty else .drained)]) = handedOut answers := by
        cases traffic.queue.isOpen <;> simp [handedOut_concat, handedOut?]
      constructor
      · rw [ones]
        exact counted
      · rw [ones, same]
        exact inOrder
      · rw [ones]
        exact distinct
      · rw [ones]
        exact numbered
      · rw [same]
        exact known
      · exact once
  | cons ticket rest =>
      rw [act_take_of_waiting_cons waiting]
      have ones : acceptedOnes (answers ++ [.polled (.ticket ticket)]) = acceptedOnes answers := by
        simp [acceptedOnes_concat, accepted?]
      have more : handedOut (answers ++ [.polled (.ticket ticket)]) =
          handedOut answers ++ [ticket] := handedOut_concat _ _
      rw [waiting] at counted inOrder
      have fresh : ticket.number ∉ (handedOut answers).map Ticket.number := by
        rw [← inOrder, List.map_append, List.map_cons, List.nodup_append] at distinct
        intro earlier
        exact distinct.2.2 _ earlier _ List.mem_cons_self rfl
      have outsideNow :
          (outside ⟨{ traffic.queue with waiting := rest }, traffic.inHand ++ [ticket]⟩).Perm
            (ticket.number :: traffic.outside) := by
        simp only [outside, List.map_append, List.map_singleton, List.append_assoc]
        exact List.perm_middle
      constructor
      · simp only [ones, counted, List.length_append, List.length_cons, List.length_nil]
        omega
      · rw [ones, more, ← inOrder, List.append_assoc]
        rfl
      · rw [ones]
        exact distinct
      · rw [ones]
        exact numbered
      · intro number member
        rw [more, List.map_append, List.mem_append]
        rcases List.mem_cons.mp (outsideNow.mem_iff.mp member) with rfl | earlier
        · exact .inr List.mem_cons_self
        · exact .inl (known number earlier)
      · rw [outsideNow.nodup_iff]
        exact List.nodup_cons.mpr ⟨fun earlier => fresh (known _ earlier), once⟩

/-- What neither accepts nor hands out anything keeps the books if it keeps the
channel and the number of tickets outside it, and adds nothing to those. -/
theorem aside (balanced : Balanced traffic answers) {after : QueueTraffic}
    (waiting : after.queue.waiting = traffic.queue.waiting)
    (next : after.queue.next = traffic.queue.next)
    (total : after.queue.ledger.length + after.queue.acknowledged + after.inHand.length =
      traffic.queue.ledger.length + traffic.queue.acknowledged + traffic.inHand.length)
    (fewer : ∃ others, (after.outside ++ others).Perm traffic.outside) :
    Balanced after (answers ++ [.done]) := by
  obtain ⟨counted, inOrder, distinct, numbered, known, once⟩ := balanced
  have ones : acceptedOnes (answers ++ [.done]) = acceptedOnes answers := by
    simp [acceptedOnes_concat, accepted?]
  have same : handedOut (answers ++ [.done]) = handedOut answers := by
    simp [handedOut_concat, handedOut?]
  obtain ⟨others, fewer⟩ := fewer
  constructor
  · rw [ones, counted, waiting]
    omega
  · rw [ones, same, waiting]
    exact inOrder
  · rw [ones]
    exact distinct
  · rw [ones, next]
    exact numbered
  · intro number member
    rw [same]
    exact known number (fewer.mem_iff.mp (List.mem_append_left _ member))
  · exact (fewer.nodup_iff.mpr once).of_append_left

/-- Every act keeps the books. -/
theorem act (balanced : Balanced traffic answers) (act : QueueAct) :
    Balanced (traffic.act act).1 (answers ++ [(traffic.act act).2]) := by
  cases act with
  | push item => exact balanced.push item
  | dropFeeder =>
      have same : (traffic.act .dropFeeder).1.outside = traffic.outside := rfl
      exact balanced.aside rfl rfl rfl ⟨[], by rw [same, List.append_nil]⟩
  | take => exact balanced.take
  | enter position =>
      cases found : traffic.inHand[position]? with
      | none =>
          simp only [QueueTraffic.act, found]
          exact balanced.aside rfl rfl rfl ⟨[], by simp⟩
      | some ticket =>
          obtain ⟨inside, here⟩ := List.getElem?_eq_some_iff.mp found
          simp only [QueueTraffic.act, found]
          have moved : traffic.inHand.Perm (ticket :: traffic.inHand.eraseIdx position) := by
            rw [← here]
            exact (List.getElem_cons_eraseIdx_perm inside).symm
          refine balanced.aside rfl rfl ?_ ⟨[], ?_⟩
          · have length := moved.length_eq
            simp only [WorkQueue.enter, List.length_append, List.length_cons,
              List.length_nil] at length ⊢
            omega
          · rw [List.append_nil]
            simp only [outside, WorkQueue.enter]
            have numbers := (moved.map Ticket.number).append_right traffic.queue.ledger
            refine List.Perm.trans ?_ numbers.symm
            rw [← List.append_assoc]
            exact List.perm_append_singleton _ _
  | acknowledge number =>
      have total := traffic.queue.acknowledge_balance number
      refine balanced.aside (traffic.queue.acknowledge_waiting number)
        (traffic.queue.acknowledge_next number) ?_ ?_
      · simp only [QueueTraffic.act]
        omega
      · obtain ⟨others, kept⟩ :=
          (traffic.queue.acknowledge_ledger_sublist number).exists_perm_append
        refine ⟨others, ?_⟩
        simp only [outside, QueueTraffic.act, List.append_assoc]
        exact kept.symm.append_left _

theorem perform (balanced : Balanced traffic answers) (acts : List QueueAct) :
    Balanced (traffic.perform acts).1 (answers ++ (traffic.perform acts).2) := by
  induction acts generalizing traffic answers with
  | nil => simpa [QueueTraffic.perform] using balanced
  | cons act rest ih =>
      have behind := ih (balanced.act act)
      rwa [List.append_assoc] at behind

end Balanced

/-- Whether the feeder is gone and the channel empty. -/
def IsDrained (traffic : QueueTraffic) : Prop :=
  traffic.queue.isOpen = false ∧ traffic.queue.waiting = []

theorem isDrained_of_take {traffic : QueueTraffic}
    (answer : (traffic.act .take).2 = .polled .drained) : traffic.IsDrained := by
  cases waiting : traffic.queue.waiting with
  | nil =>
      rw [act_take_of_waiting_nil waiting] at answer
      cases isOpen : traffic.queue.isOpen with
      | false => exact ⟨isOpen, waiting⟩
      | true => simp [isOpen] at answer
  | cons ticket rest =>
      rw [act_take_of_waiting_cons waiting] at answer
      simp at answer

/-- A drained queue stays drained and hands out nothing, whatever the act: pushes come
too late. -/
theorem IsDrained.act {traffic : QueueTraffic} (drained : traffic.IsDrained) (act : QueueAct) :
    (traffic.act act).1.IsDrained ∧ (traffic.act act).2.handedOut? = none := by
  obtain ⟨closed, empty⟩ := drained
  cases act with
  | push item =>
      have refuses : traffic.queue.accepts = false := by simp [WorkQueue.accepts, closed]
      have pushed := WorkQueue.push_of_refuses refuses item
      simp [QueueTraffic.act, IsDrained, refuses, pushed, closed, empty, handedOut?]
  | dropFeeder => exact ⟨⟨rfl, empty⟩, rfl⟩
  | take =>
      rw [act_take_of_waiting_nil empty]
      simp [IsDrained, closed, empty, handedOut?]
  | enter position =>
      simp only [QueueTraffic.act]
      split <;> exact ⟨⟨closed, empty⟩, rfl⟩
  | acknowledge number =>
      have stillClosed := (traffic.queue.acknowledge_isOpen number).trans closed
      have stillEmpty := (traffic.queue.acknowledge_waiting number).trans empty
      exact ⟨⟨stillClosed, stillEmpty⟩, rfl⟩

theorem IsDrained.perform {traffic : QueueTraffic} (drained : traffic.IsDrained)
    (acts : List QueueAct) : handedOut (traffic.perform acts).2 = [] := by
  induction acts generalizing traffic with
  | nil => rfl
  | cons act rest ih =>
      obtain ⟨stillDrained, nothing⟩ := drained.act act
      have behind := ih stillDrained
      rw [QueueTraffic.perform, handedOut, List.filterMap_cons_none nothing]
      exact behind

/-- Nothing is lost at the queue.  After any history of acts on a queue that starts
empty and open, the accepted pushes are those that wait, are in the ledger, are
acknowledged, or are between the two halves of a pop; the tickets handed out are the
first of those accepted, in order, and no two are one; acknowledging a number that is
not in the ledger changes nothing; and a pop that answers that the queue is drained
finds it without feeder and empty, and no later pop answers a ticket. -/
theorem conserves_tickets (acts : List QueueAct) :
    (acceptedOnes (perform {} acts).2).length =
        (perform {} acts).1.queue.waiting.length + (perform {} acts).1.queue.ledger.length +
          (perform {} acts).1.queue.acknowledged + (perform {} acts).1.inHand.length ∧
      (perform {} acts).1.queue.ledger.Nodup ∧
      handedOut (perform {} acts).2 ++ (perform {} acts).1.queue.waiting =
        acceptedOnes (perform {} acts).2 ∧
      ((acceptedOnes (perform {} acts).2).map Ticket.number).Nodup ∧
      (∀ number, number ∉ (perform {} acts).1.queue.ledger →
        (perform {} acts).1.act (.acknowledge number) = ((perform {} acts).1, .done)) ∧
      ∀ later, ((perform {} acts).1.act .take).2 = .polled .drained →
        (perform {} acts).1.queue.isOpen = false ∧ (perform {} acts).1.queue.waiting = [] ∧
          handedOut (((perform {} acts).1.act .take).1.perform later).2 = [] := by
  have balanced := balanced_start.perform acts
  rw [List.nil_append] at balanced
  generalize (perform {} acts).1 = traffic at balanced ⊢
  generalize (perform {} acts).2 = answers at balanced ⊢
  refine ⟨balanced.counted, balanced.once.of_append_right, balanced.inOrder,
    balanced.distinct, ?_, ?_⟩
  · intro number unknown
    simp only [act, WorkQueue.acknowledge_of_not_mem unknown]
  · intro later answer
    have drained := isDrained_of_take answer
    exact ⟨drained.1, drained.2, (drained.act .take).1.perform later⟩

/-- Two overlapping pops, of which the later one finishes first and is acknowledged
while the other is still half done. -/
def overlapping : List QueueAct :=
  [.push ⟨.identifier "a", "d"⟩, .push ⟨.identifier "b", "d"⟩, .take, .take, .enter 1,
    .acknowledge 1, .dropFeeder]

theorem conserves_tickets_overlapping :
    (acceptedOnes (perform {} overlapping).2).length = 0 + 0 + 1 + 1 ∧
      ((perform {} overlapping).1.act .take).2 = .polled .drained ∧
      handedOut (((perform {} overlapping).1.act .take).1.perform
        [.enter 0, .push ⟨.identifier "c", "d"⟩, .take, .acknowledge 0]).2 = [] := by
  have conserves := conserves_tickets overlapping
  have drained : ((perform {} overlapping).1.act .take).2 = .polled .drained := by decide
  exact ⟨conserves.1, drained, (conserves.2.2.2.2.2 _ drained).2.2⟩

end QueueTraffic

end DocumentIngest
