import Mathlib.Data.List.Nodup
import Mathlib.Data.List.Range
import Mathlib.Data.UInt
import Mathlib.Data.Nat.ModEq
import Mathlib.Tactic.Ring

namespace Library

universe u v

/-!
# Rings behind two free-running counters

A producer and a consumer share an array of slots.  Each has a counter of 32
bits that it only ever increments, and a counter stands for the slot that is
its remainder by the size of the array.  The counters wrap round; as long as
the size divides `2 ^ 32` the slots do not notice.

`Occupies` says which elements are in the slots between two counters, one in
each, oldest first.  What being in a slot means is a parameter.  The relation
is extended at the producer's end, shortened at the consumer's end, and may be
cut anywhere between, so that a third party can have a place of its own in the
same ring.
-/

section Ring

variable (size : Nat) [NeZero size]

/-- The slot that a counter stands for. -/
def slot (counter : UInt32) : Fin size :=
  Fin.ofNat size counter.toNat

/-- The slots of `count` counters from `first` on. -/
def slots : UInt32 -> Nat -> List (Fin size)
  | _, 0 => []
  | first, count + 1 => slot size first :: slots (first + 1) count

variable {size}

theorem val_slot (counter : UInt32) : (slot size counter).val = counter.toNat % size :=
  rfl

theorem val_slot_add (divides : size ∣ 2 ^ 32) (first : UInt32) (offset : Nat) :
    (slot size (first + UInt32.ofNat offset)).val = (first.toNat + offset) % size := by
  rw [val_slot, UInt32.toNat_add, UInt32.toNat_ofNat', Nat.add_mod_mod, Nat.mod_mod_of_dvd _ divides]

theorem add_ofNat_zero (first : UInt32) : first + UInt32.ofNat 0 = first :=
  UInt32.add_zero first

theorem add_one_add_ofNat (first : UInt32) (count : Nat) :
    first + 1 + UInt32.ofNat count = first + UInt32.ofNat (count + 1) := by
  rw [UInt32.ofNat_add, UInt32.add_assoc, UInt32.add_comm 1]
  rfl

theorem mem_slots {first : UInt32} {count : Nat} {index : Fin size} :
    index ∈ slots size first count ↔
      Exists fun offset : Nat => offset < count ∧ index = slot size (first + UInt32.ofNat offset) := by
  induction count generalizing first with
  | zero => simp only [slots, List.not_mem_nil, Nat.not_lt_zero, false_and, exists_false]
  | succ count inductionHypothesis =>
      rw [slots, List.mem_cons, inductionHypothesis]
      constructor
      · rintro (rfl | ⟨offset, earlier, rfl⟩)
        · exact ⟨0, Nat.succ_pos count, by rw [add_ofNat_zero]⟩
        · exact ⟨offset + 1, Nat.succ_lt_succ earlier, by rw [add_one_add_ofNat]⟩
      · rintro ⟨offset, earlier, rfl⟩
        cases offset with
        | zero => exact .inl (by rw [add_ofNat_zero])
        | succ offset => exact .inr ⟨offset, Nat.lt_of_succ_lt_succ earlier, by rw [add_one_add_ofNat]⟩

theorem slots_append (first : UInt32) (front back : Nat) :
    slots size first (front + back) = slots size first front ++ slots size (first + UInt32.ofNat front) back := by
  induction front generalizing first with
  | zero => rw [Nat.zero_add, add_ofNat_zero, slots, List.nil_append]
  | succ front inductionHypothesis =>
      rw [Nat.succ_add, slots, slots, inductionHypothesis, add_one_add_ofNat, List.cons_append]

/-- Counters less than a round apart have different slots. -/
theorem nodup_slots (divides : size ∣ 2 ^ 32) (first : UInt32) {count : Nat} (short : count ≤ size) :
    (slots size first count).Nodup := by
  induction count generalizing first with
  | zero => exact List.nodup_nil
  | succ count inductionHypothesis =>
      rw [slots, List.nodup_cons]
      refine ⟨?_, inductionHypothesis (first + 1) (Nat.le_of_succ_le short)⟩
      intro member
      rcases mem_slots.mp member with ⟨offset, earlier, same⟩
      have values := congrArg Fin.val same
      rw [add_one_add_ofNat, val_slot_add divides, val_slot] at values
      have congruent : 0 % size = (offset + 1) % size := Nat.ModEq.add_left_cancel' first.toNat values
      rw [Nat.zero_mod, Nat.mod_eq_of_lt (by omega)] at congruent
      cases congruent

/-- The next counter stands for the next slot, and for the first one after the last. -/
theorem val_slot_succ (divides : size ∣ 2 ^ 32) (counter : UInt32) :
    (slot size (counter + 1)).val = if (slot size counter).val = size - 1 then 0 else (slot size counter).val + 1 := by
  have next := val_slot_add divides counter 1
  have positive : 0 < size := Nat.pos_of_neZero size
  have below := Nat.mod_lt counter.toNat positive
  rw [show UInt32.ofNat 1 = 1 from rfl, ← Nat.mod_add_mod] at next
  rw [next, val_slot]
  split_ifs with last
  · rw [last, Nat.sub_add_cancel positive, Nat.mod_self]
  · exact Nat.mod_eq_of_lt (by omega)

/-! ## Occupied slots -/

variable {A : Type u} {B : Type v} {cell : Fin size -> A -> Prop} {cons mid prod : UInt32} {queue front back : List A}

/-- The elements are in the slots from `cons` up to `prod`. -/
def Occupies (cell : Fin size -> A -> Prop) (cons prod : UInt32) : List A -> Prop
  | [] => prod = cons
  | element :: rest => cell (slot size cons) element ∧ Occupies cell (cons + 1) prod rest

theorem Occupies.prod_eq (occupied : Occupies cell cons prod queue) : prod = cons + UInt32.ofNat queue.length := by
  induction queue generalizing cons with
  | nil =>
      rw [List.length_nil, add_ofNat_zero]
      exact occupied
  | cons element rest inductionHypothesis =>
      rw [inductionHypothesis occupied.2, add_one_add_ofNat, List.length_cons]

/-- What the difference of the counters says. -/
theorem Occupies.count_eq (occupied : Occupies cell cons prod queue) (short : queue.length < 2 ^ 32) :
    (prod - cons).toNat = queue.length := by
  rw [occupied.prod_eq, UInt32.add_comm, UInt32.add_sub_cancel, UInt32.toNat_ofNat', Nat.mod_eq_of_lt short]

theorem Occupies.eq_nil_iff (occupied : Occupies cell cons prod queue) (short : queue.length < 2 ^ 32) :
    cons = prod ↔ queue = [] := by
  constructor
  · rintro rfl
    have none_left := occupied.count_eq short
    rw [UInt32.sub_self] at none_left
    exact List.length_eq_zero_iff.mp none_left.symm
  · rintro rfl
    exact occupied.symm

theorem occupies_append : Occupies cell cons prod (front ++ back) ↔
    Occupies cell cons (cons + UInt32.ofNat front.length) front ∧
      Occupies cell (cons + UInt32.ofNat front.length) prod back := by
  induction front generalizing cons with
  | nil =>
      rw [List.nil_append, List.length_nil, add_ofNat_zero]
      exact ⟨fun occupied => ⟨rfl, occupied⟩, fun parts => parts.2⟩
  | cons element front inductionHypothesis =>
      rw [List.cons_append, Occupies, inductionHypothesis, add_one_add_ofNat, List.length_cons, Occupies, and_assoc]

/-- One more element at the producer's end. -/
theorem Occupies.push {element : A} (occupied : Occupies cell cons prod queue)
    (placed : cell (slot size prod) element) :
    Occupies cell cons (prod + 1) (queue ++ [element]) := by
  have last := occupied.prod_eq
  rw [occupies_append, ← last]
  exact ⟨occupied, placed, rfl⟩

/-- The relation depends on the occupied slots only. -/
theorem Occupies.imp {cell' : Fin size -> A -> Prop} (occupied : Occupies cell cons prod queue)
    (keeps : forall index, index ∈ slots size cons queue.length -> forall element, element ∈ queue ->
      cell index element -> cell' index element) :
    Occupies cell' cons prod queue := by
  induction queue generalizing cons with
  | nil => exact occupied
  | cons element rest inductionHypothesis =>
      rw [List.length_cons, slots] at keeps
      exact ⟨keeps _ List.mem_cons_self element List.mem_cons_self occupied.1,
        inductionHypothesis occupied.2 fun index member other inside =>
          keeps index (List.mem_cons_of_mem _ member) other (List.mem_cons_of_mem _ inside)⟩

theorem Occupies.exists_of_mem (occupied : Occupies cell cons prod queue) {index : Fin size}
    (member : index ∈ slots size cons queue.length) :
    Exists fun element : A => element ∈ queue ∧ cell index element := by
  induction queue generalizing cons with
  | nil => exact absurd member List.not_mem_nil
  | cons element rest inductionHypothesis =>
      rw [List.length_cons, slots, List.mem_cons] at member
      rcases member with rfl | later
      · exact ⟨element, List.mem_cons_self, occupied.1⟩
      · rcases inductionHypothesis occupied.2 later with ⟨other, inside, holds⟩
        exact ⟨other, List.mem_cons_of_mem _ inside, holds⟩

/-! ## Rings shared with a device

The producer gives elements to a device, which takes them in order and hands
each slot back.  The slots between the counters are then of two kinds: first
those that have come back, then those that the device still has.  The device
has its own idea of where it is. -/

variable {C : Type v} {given given' : Fin size -> A -> Prop} {back back' : Fin size -> C -> Prop}
  {owned owned' : Fin size -> Prop} {next : Nat} {returned : List C} {waiting : List A}

structure Shares (given : Fin size -> A -> Prop) (back : Fin size -> C -> Prop) (owned : Fin size -> Prop)
    (cons prod : UInt32) (next : Nat) (returned : List C) (waiting : List A) : Prop where
  bounded : returned.length + waiting.length ≤ size
  behind : Occupies back cons (cons + UInt32.ofNat returned.length) returned
  ahead : Occupies given (cons + UInt32.ofNat returned.length) prod waiting
  place : next = (slot size (cons + UInt32.ofNat returned.length)).val
  /-- The device has no slot but those that it was given. -/
  only : forall index, owned index -> index ∈ slots size (cons + UInt32.ofNat returned.length) waiting.length

namespace Shares

theorem empty (counter : UInt32) (vacant : forall index, ¬ owned index) :
    Shares given back owned counter counter (slot size counter).val [] [] where
  bounded := Nat.zero_le size
  behind := (add_ofNat_zero counter)
  ahead := (add_ofNat_zero counter).symm
  place := by rw [List.length_nil, add_ofNat_zero]
  only index has := absurd has (vacant index)

theorem prod_eq (shares : Shares given back owned cons prod next returned waiting) :
    prod = cons + UInt32.ofNat (returned.length + waiting.length) := by
  rw [shares.ahead.prod_eq, UInt32.ofNat_add, UInt32.add_assoc]

section Counts

variable (shares : Shares given back owned cons prod next returned waiting) (short : size < 2 ^ 32)
include shares short

theorem count_eq : (prod - cons).toNat = returned.length + waiting.length := by
  have small := Nat.lt_of_le_of_lt shares.bounded short
  rw [shares.prod_eq, UInt32.add_comm, UInt32.add_sub_cancel, UInt32.toNat_ofNat', Nat.mod_eq_of_lt small]

theorem cons_eq_prod_iff : cons = prod ↔ returned = [] ∧ waiting = [] := by
  have counted := shares.count_eq short
  constructor
  · rintro rfl
    rw [UInt32.sub_self, UInt32.toNat_zero] at counted
    exact ⟨List.length_eq_zero_iff.mp (by omega), List.length_eq_zero_iff.mp (by omega)⟩
  · rintro ⟨rfl, rfl⟩
    rw [shares.prod_eq]
    exact (add_ofNat_zero cons).symm

end Counts

/-- The slot that comes next is none of those in use. -/
theorem prod_not_mem (shares : Shares given back owned cons prod next returned waiting) (divides : size ∣ 2 ^ 32)
    (room : returned.length + waiting.length < size) :
    slot size prod ∉ slots size cons (returned.length + waiting.length) := by
  have distinct := nodup_slots divides cons (Nat.succ_le_of_lt room)
  rw [Nat.succ_eq_add_one, slots_append, ← shares.prod_eq] at distinct
  exact fun member => (List.nodup_append.mp distinct).2.2 _ member _ List.mem_cons_self rfl

/-- The producer fills the next slot. -/
theorem give (shares : Shares given back owned cons prod next returned waiting) (divides : size ∣ 2 ^ 32)
    (room : returned.length + waiting.length < size) {element : A} (placed : given' (slot size prod) element)
    (givenKept : forall index, index ≠ slot size prod -> forall other, given index other -> given' index other)
    (backKept : forall index, index ≠ slot size prod -> forall other, back index other -> back' index other)
    (ownedKept : forall index, index ≠ slot size prod -> owned' index -> owned index) :
    Shares given' back' owned' cons (prod + 1) next returned (waiting ++ [element]) := by
  have fresh := shares.prod_not_mem divides room
  rw [slots_append, List.mem_append, not_or] at fresh
  constructor
  · rw [List.length_append, List.length_singleton]
    omega
  · exact shares.behind.imp fun index member other _ holds =>
      backKept index (fun same => fresh.1 (same ▸ member)) other holds
  · exact (shares.ahead.imp fun index member other _ holds =>
      givenKept index (fun same => fresh.2 (same ▸ member)) other holds).push placed
  · exact shares.place
  · intro index has
    rw [List.length_append, slots_append, ← shares.ahead.prod_eq, List.mem_append]
    by_cases last : index = slot size prod
    · exact .inr (last ▸ List.mem_cons_self)
    · exact .inl (shares.only index (ownedKept index last has))

/-- The consumer takes the oldest slot, once it has come back. -/
theorem take {first : C} (shares : Shares given back owned cons prod next (first :: returned) waiting)
    (divides : size ∣ 2 ^ 32)
    (givenKept : forall index, index ≠ slot size cons -> forall other, given index other -> given' index other)
    (backKept : forall index, index ≠ slot size cons -> forall other, back index other -> back' index other)
    (ownedKept : forall index, owned' index -> owned index) :
    Shares given' back' owned' (cons + 1) prod next returned waiting := by
  rcases shares with ⟨bounded, behind, ahead, place, only⟩
  rw [List.length_cons] at bounded ahead place only behind
  rw [← add_one_add_ofNat] at ahead place only behind
  have distinct := nodup_slots divides cons bounded
  rw [Nat.succ_add, slots, List.nodup_cons, slots_append, List.mem_append, not_or] at distinct
  constructor
  · omega
  · exact behind.2.imp fun index member other _ holds =>
      backKept index (fun same => distinct.1.1 (same ▸ member)) other holds
  · exact ahead.imp fun index member other _ holds =>
      givenKept index (fun same => distinct.1.2 (same ▸ member)) other holds
  · exact place
  · exact fun index has => only index (ownedKept index has)

/-- The device hands back the slot that it has come to, and goes on. -/
theorem handBack {first : A} (shares : Shares given back owned cons prod next returned (first :: waiting))
    (divides : size ∣ 2 ^ 32) {result : C} {index : Fin size} (here : index.val = next) (placed : back' index result)
    (givenKept : forall other, other ≠ index -> forall element, given other element -> given' other element)
    (backKept : forall other, other ≠ index -> forall element, back other element -> back' other element)
    (ownedKept : forall other, owned' other -> owned other ∧ other ≠ index) :
    Shares given' back' owned' cons prod (if next = size - 1 then 0 else next + 1) (returned ++ [result]) waiting := by
  have at_place : index = slot size (cons + UInt32.ofNat returned.length) := Fin.ext (here.trans shares.place)
  have distinct := nodup_slots divides cons shares.bounded
  rw [slots_append, List.length_cons, slots, ← at_place] at distinct
  have parts := List.nodup_append.mp distinct
  have apart := List.nodup_cons.mp parts.2.1
  have advanced : cons + UInt32.ofNat (returned ++ [result]).length = cons + UInt32.ofNat returned.length + 1 := by
    rw [List.length_append, UInt32.ofNat_add, UInt32.add_assoc]
    rfl
  constructor
  · have bounded := shares.bounded
    simp only [List.length_append, List.length_cons, List.length_nil] at bounded ⊢
    omega
  · rw [advanced]
    refine (shares.behind.imp fun other member element _ holds => backKept other ?_ element holds).push
      (at_place ▸ placed)
    rintro rfl
    exact parts.2.2 _ member _ List.mem_cons_self rfl
  · rw [advanced]
    refine shares.ahead.2.imp fun other member element _ holds => givenKept other ?_ element holds
    rintro rfl
    exact apart.1 member
  · rw [advanced, val_slot_succ divides, ← at_place, here]
  · intro other has
    rw [advanced]
    rcases ownedKept other has with ⟨before, different⟩
    have member := shares.only other before
    rw [List.length_cons, slots, List.mem_cons, ← at_place] at member
    exact member.resolve_left different

/-- The device owns the slot that it comes to only if something waits there. -/
theorem exists_waiting (shares : Shares given back owned cons prod next returned waiting) {index : Fin size}
    (here : index.val = next) (has : owned index) :
    Exists fun first : A => Exists fun rest : List A => waiting = first :: rest ∧ given index first := by
  have at_place : index = slot size (cons + UInt32.ofNat returned.length) := Fin.ext (here.trans shares.place)
  cases waiting with
  | nil => exact absurd (shares.only index has) List.not_mem_nil
  | cons first rest => exact ⟨first, rest, rfl, at_place ▸ shares.ahead.1⟩

/-- The consumer's slot, while the window is not empty. -/
theorem oldest (shares : Shares given back owned cons prod next returned waiting) (short : size < 2 ^ 32)
    (filled : cons ≠ prod) :
    (Exists fun first : C => Exists fun rest : List C => returned = first :: rest ∧ back (slot size cons) first) ∨
      returned = [] ∧
        Exists fun first : A => Exists fun rest : List A => waiting = first :: rest ∧ given (slot size cons) first := by
  cases returned with
  | cons first rest => exact .inl ⟨first, rest, rfl, shares.behind.1⟩
  | nil =>
      refine .inr ⟨rfl, ?_⟩
      cases waiting with
      | nil => exact absurd ((shares.cons_eq_prod_iff short).mpr ⟨rfl, rfl⟩) filled
      | cons first rest =>
          have given := shares.ahead.1
          rw [List.length_nil, add_ofNat_zero] at given
          exact ⟨first, rest, rfl, given⟩

end Shares
end Ring
end Library
