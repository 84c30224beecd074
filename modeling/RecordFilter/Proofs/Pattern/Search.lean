/-
# What a search finds

`Regex.Leads` says where the texts of a pattern end that start at a place of a subject, by recursion
on the pattern and without sets of places.  The search agrees with it (`traces_route`): the set to
which a route leads consists of the places to which a place of the first set leads.  So a pattern
occurs in a subject if and only if it leads from a place of the subject anywhere (`occursIn_iff`).

The one point that is not a rewriting of definitions is a repetition without an upper bound, which
the search takes up to `n + 1` times over a subject of `n` characters.  A round that moves at all
moves on, so of any number of rounds no more than `n` are needed (`Iterated.shorten`).
-/

import Mathlib
import RecordFilter.Pattern.Search

namespace RecordFilter
namespace Pattern

/-! ### Relations between places -/

/-- A relation taken a number of times. -/
def Iterated (R : Nat → Nat → Prop) : (rounds : Nat) → Nat → Nat → Prop
  | 0, i, j => j = i
  | rounds + 1, i, j => ∃ k, R i k ∧ Iterated R rounds k j

/-- A function of sets of places leads where a relation leads. -/
def Traces (f : Nat → Nat) (R : Nat → Nat → Prop) : Prop :=
  ∀ s j, (f s).testBit j = true ↔ ∃ i, s.testBit i = true ∧ R i j

section Traces

variable {f g : Nat → Nat} {R Q : Nat → Nat → Prop} {m n i j k : Nat}

/-- Sets of places are traced by every relation with the same pairs. -/
theorem Traces.congr (h : Traces f R) (hR : ∀ i j, R i j ↔ Q i j) : Traces f Q := by
  intro s j
  rw [h s j]
  simp only [hR]

/-- One map behind another traces the relation over a place between them. -/
theorem Traces.comp (hf : Traces f R) (hg : Traces g Q) :
    Traces (fun s => g (f s)) fun i j => ∃ k, R i k ∧ Q k j := by
  intro s j
  rw [hg]
  constructor
  · rintro ⟨k, hk, hq⟩
    obtain ⟨i, hi, hr⟩ := (hf s k).1 hk
    exact ⟨i, hi, k, hr, hq⟩
  · rintro ⟨i, hi, k, hr, hq⟩
    exact ⟨k, (hf s k).2 ⟨i, hi, hr⟩, hq⟩

/-- The union of two maps traces that one of the relations holds. -/
theorem Traces.or (hf : Traces f R) (hg : Traces g Q) :
    Traces (fun s => f s ||| g s) fun i j => R i j ∨ Q i j := by
  intro s j
  rw [Nat.testBit_or, Bool.or_eq_true, hf, hg, ← exists_or]
  simp only [and_or_left]

/-- Sets that stay what they are trace that places do. -/
theorem traces_id : Traces (fun s => s) fun i j => j = i := by
  intro s j
  refine ⟨fun h => ⟨j, h, rfl⟩, ?_⟩
  rintro ⟨i, hi, rfl⟩
  exact hi

/-- A map that is iterated traces the relation so many times. -/
theorem Traces.iterate (hf : Traces f R) (n : Nat) : Traces f^[n] (Iterated R n) := by
  induction n with
  | zero => exact traces_id
  | succ n ih => exact hf.comp ih

/-- Settling is iterating, and may stop as soon as nothing changes. -/
theorem settle_eq (f : Nat → Nat) (n s : Nat) : settle f n s = f^[n] s := by
  induction n generalizing s with
  | zero => rfl
  | succ n ih =>
    rw [settle]
    split
    · next h => rw [Function.iterate_succ_apply, h, Function.iterate_fixed h]
    · rw [ih, Function.iterate_succ_apply]

/-- A sum of times is the one number of times behind the other. -/
theorem iterated_add : Iterated R (m + n) i j ↔ ∃ k, Iterated R m i k ∧ Iterated R n k j := by
  induction m generalizing i with
  | zero => simp only [Nat.zero_add, Iterated, exists_eq_left]
  | succ m ih =>
    rw [Nat.succ_add]
    simp only [Iterated, ih]
    constructor
    · rintro ⟨l, hl, k, hm, hn⟩
      exact ⟨k, ⟨l, hl, hm⟩, hn⟩
    · rintro ⟨k, ⟨l, hl, hm⟩, hn⟩
      exact ⟨l, hl, k, hm, hn⟩

/-- Rounds that may be left out are a smaller number of rounds. -/
theorem iterated_or_eq :
    Iterated (fun i j => j = i ∨ R i j) n i j ↔ ∃ m ≤ n, Iterated R m i j := by
  induction n generalizing i with
  | zero => simp only [Nat.le_zero, exists_eq_left, Iterated]
  | succ n ih =>
    simp only [Iterated, ih]
    constructor
    · rintro ⟨k, rfl | hk, m, hm, h⟩
      · exact ⟨m, Nat.le_succ_of_le hm, h⟩
      · exact ⟨m + 1, Nat.succ_le_succ hm, k, hk, h⟩
    · rintro ⟨m, hm, h⟩
      cases m with
      | zero => exact ⟨i, .inl rfl, 0, Nat.zero_le n, h⟩
      | succ m =>
        obtain ⟨k, hk, h⟩ := h
        exact ⟨k, .inr hk, m, Nat.le_of_succ_le_succ hm, h⟩

/-- Rounds that do not move can be left out. -/
theorem Iterated.shorten (hR : ∀ i j, R i j → i ≤ j) (h : Iterated R m i j) :
    i ≤ j ∧ ∃ n ≤ j - i, Iterated R n i j := by
  induction m generalizing i with
  | zero =>
    cases h
    exact ⟨Nat.le_refl _, 0, Nat.zero_le _, rfl⟩
  | succ m ih =>
    obtain ⟨k, hk, h⟩ := h
    obtain ⟨hkj, n, hn, h⟩ := ih h
    have hik := hR i k hk
    refine ⟨Nat.le_trans hik hkj, ?_⟩
    rcases Nat.eq_or_lt_of_le hik with rfl | hlt
    · exact ⟨n, hn, h⟩
    · exact ⟨n + 1, by omega, k, hk, h⟩

/-- Rounds of a relation that leads on, and not past a place, do so too. -/
theorem Iterated.bounds {last : Nat} (hR : ∀ i j, R i j → i ≤ j ∧ j ≤ max i last)
    (h : Iterated R n i j) : i ≤ j ∧ j ≤ max i last := by
  induction n generalizing i with
  | zero =>
    cases h
    omega
  | succ n ih =>
    obtain ⟨k, hk, h⟩ := h
    have hik := hR i k hk
    have hkj := ih h
    omega

end Traces

/-! ### Sets of places -/

/-- A bit of a number that is made of bits is that one. -/
theorem testBit_ofBits (bs : List Bool) (i : Nat) : (ofBits bs).testBit i = bs[i]?.getD false := by
  induction bs generalizing i with
  | nil => exact Nat.zero_testBit i
  | cons b bs ih =>
    cases i with
    | zero => cases b <;> simp [ofBits, Nat.testBit_zero]
    | succ i =>
      have hb : b.toNat < 2 := Bool.toNat_lt b
      have h : (b.toNat + 2 * ofBits bs) / 2 = ofBits bs := by omega
      rw [ofBits, Nat.testBit_succ, h, ih, List.getElem?_cons_succ]

/-- The character before a place. -/
def charBefore? (subject : List Char) (i : Nat) : Option Char :=
  match i with
  | 0 => none
  | i + 1 => subject[i]?

/-- The places of a subject are those between its characters, and its two ends. -/
theorem getElem?_placesAfter (before : Option Char) (subject : List Char) (i : Nat) :
    (placesAfter before subject)[i]? =
      if i ≤ subject.length then
        some ((if i = 0 then before else charBefore? subject i), subject[i]?)
      else none := by
  induction subject generalizing before i with
  | nil => cases i <;> rfl
  | cons c subject ih =>
    cases i with
    | zero => rfl
    | succ i =>
      rw [placesAfter, List.getElem?_cons_succ, ih]
      cases i <;> simp [charBefore?]

/-! ### Patterns over a subject -/

namespace Regex

/-- Induction on the tree of a pattern. -/
@[elab_as_elim]
theorem induct {motive : Regex → Prop} (empty : motive empty)
    (chars : ∀ set, motive (chars set)) (place : ∀ p, motive (place p))
    (sequence : ∀ items, (∀ r ∈ items, motive r) → motive (sequence items))
    (choice : ∀ branches, (∀ r ∈ branches, motive r) → motive (choice branches))
    (repetition : ∀ operand least most, motive operand → motive (repetition operand least most))
    (capture : ∀ inner, motive inner → motive (capture inner)) (r : Regex) : motive r :=
  @Regex.rec motive (fun rs => ∀ r ∈ rs, motive r) empty chars place sequence choice repetition
    capture (fun _ h => absurd h List.not_mem_nil)
    (fun _ _ hr hrs => List.forall_mem_cons.2 ⟨hr, hrs⟩) r

mutual

/-- Whether a text of a pattern starts at the place `i` of a subject and ends at the place `j`. -/
def Leads (subject : List Char) : Regex → (i j : Nat) → Prop
  | empty, i, j => j = i
  | chars set, i, j => j = i + 1 ∧ ∃ c, subject[i]? = some c ∧ set.contains c = true
  | place p, i, j =>
    j = i ∧ i ≤ subject.length ∧ p.holds (charBefore? subject i) subject[i]? = true
  | sequence items, i, j => LeadsInTurn subject items i j
  | choice branches, i, j => LeadsByAny subject branches i j
  | repetition operand least most, i, j =>
    ∃ rounds, least ≤ rounds ∧ (∀ m ∈ most, rounds ≤ max least m) ∧
      Iterated (operand.Leads subject) rounds i j
  | capture inner, i, j => inner.Leads subject i j

/-- Whether texts of patterns, one after the other, lead from one place to another. -/
def LeadsInTurn (subject : List Char) : List Regex → (i j : Nat) → Prop
  | [], i, j => j = i
  | r :: rest, i, j => ∃ k, r.Leads subject i k ∧ LeadsInTurn subject rest k j

/-- Whether a text of one of several patterns leads from one place to another. -/
def LeadsByAny (subject : List Char) : List Regex → (i j : Nat) → Prop
  | [], _, _ => False
  | r :: rest, i, j => r.Leads subject i j ∨ LeadsByAny subject rest i j

end

variable {subject : List Char} {i j : Nat}

/-- A text leads on, and not past the end of the subject. -/
theorem Leads.bounds {r : Regex} (h : r.Leads subject i j) :
    i ≤ j ∧ j ≤ max i subject.length := by
  induction r using Regex.induct generalizing i j with
  | empty =>
    cases h
    omega
  | chars set =>
    obtain ⟨rfl, c, hc, -⟩ := h
    have hi := (List.getElem?_eq_some_iff.1 hc).1
    omega
  | place p =>
    obtain ⟨rfl, -⟩ := h
    omega
  | sequence items ih =>
    change LeadsInTurn subject items i j at h
    induction items generalizing i with
    | nil =>
      cases h
      omega
    | cons r items ihs =>
      obtain ⟨k, hr, hrs⟩ := h
      have hk := ih r List.mem_cons_self hr
      have hj := ihs (fun r hr => ih r (List.mem_cons_of_mem _ hr)) hrs
      omega
  | choice branches ih =>
    change LeadsByAny subject branches i j at h
    induction branches with
    | nil => exact h.elim
    | cons r branches ihs =>
      rcases h with h | h
      · exact ih r List.mem_cons_self h
      · exact ihs (fun r hr => ih r (List.mem_cons_of_mem _ hr)) h
  | repetition operand least most ih =>
    obtain ⟨rounds, -, -, h⟩ := h
    exact h.bounds fun _ _ => ih
  | capture inner ih => exact ih h

/-- The route of a set of characters traces where it leads. -/
theorem traces_chars (set : CodeSet) :
    Traces ((chars set).route subject).ends ((chars set).Leads subject) := by
  intro s j
  cases j with
  | zero => simp [route, Route.ends, Leads]
  | succ j =>
    have hbit : (ofBits (subject.map set.contains)).testBit j = true ↔
        ∃ c, subject[j]? = some c ∧ set.contains c = true := by
      rw [testBit_ofBits, List.getElem?_map]
      cases subject[j]? <;> simp
    simp only [route, Route.ends, Leads, Nat.testBit_shiftLeft, Nat.testBit_and, Bool.and_eq_true,
      Nat.add_sub_cancel, hbit]
    constructor
    · rintro ⟨-, hs, h⟩
      exact ⟨j, hs, rfl, h⟩
    · rintro ⟨i, hs, hi, h⟩
      cases hi
      exact ⟨by simp, hs, h⟩

/-- The route of a place traces where it leads. -/
theorem traces_place (p : Place) :
    Traces ((place p).route subject).ends ((place p).Leads subject) := by
  intro s j
  have hbit (holds : Option Char × Option Char → Bool) :
      (ofBits ((placesAfter none subject).map holds)).testBit j = true ↔
        j ≤ subject.length ∧ holds (charBefore? subject j, subject[j]?) = true := by
    rw [testBit_ofBits, List.getElem?_map, getElem?_placesAfter]
    by_cases hj : j ≤ subject.length
    · cases j <;> simp [hj, charBefore?]
    · simp [hj]
  simp only [route, Route.ends, Leads, Nat.testBit_and, Bool.and_eq_true, hbit]
  constructor
  · rintro ⟨hs, h⟩
    exact ⟨j, hs, rfl, h⟩
  · rintro ⟨i, hs, rfl, h⟩
    exact ⟨hs, h⟩

/-- Routes in turn trace where their patterns lead in turn. -/
theorem traces_sequence {items : List Regex}
    (h : ∀ r ∈ items, Traces (r.route subject).ends (r.Leads subject)) :
    Traces (Route.endsInTurn (routes subject items)) (LeadsInTurn subject items) := by
  induction items with
  | nil => exact traces_id
  | cons r items ih =>
    obtain ⟨hr, hrs⟩ := List.forall_mem_cons.1 h
    exact hr.comp (ih hrs)

/-- Alternative routes trace where one of their patterns leads. -/
theorem traces_choice {branches : List Regex}
    (h : ∀ r ∈ branches, Traces (r.route subject).ends (r.Leads subject)) :
    Traces (Route.endsOfAny (routes subject branches)) (LeadsByAny subject branches) := by
  induction branches with
  | nil =>
    intro s j
    simp [routes, Route.endsOfAny, LeadsByAny]
  | cons r branches ih =>
    obtain ⟨hr, hrs⟩ := List.forall_mem_cons.1 h
    exact hr.or (ih hrs)

/-- A route taken a number of times, and up to another number of times more. -/
theorem traces_settle {f : Nat → Nat} {R : Nat → Nat → Prop} (h : Traces f R) (least extra : Nat) :
    Traces (fun s => settle (fun s => s ||| f s) extra (settle f least s)) fun i j =>
      ∃ more ≤ extra, Iterated R (least + more) i j := by
  simp only [settle_eq]
  refine ((h.iterate least).comp ((traces_id.or h).iterate extra)).congr fun i j => ?_
  simp only [iterated_or_eq, iterated_add]
  constructor
  · rintro ⟨k, hk, more, hmore, h⟩
    exact ⟨more, hmore, k, hk, h⟩
  · rintro ⟨more, hmore, k, hk, h⟩
    exact ⟨k, hk, more, hmore, h⟩

/-- The route of a repetition traces where it leads. -/
theorem traces_repetition {operand : Regex} (least : Nat) (most : Option Nat)
    (h : Traces (operand.route subject).ends (operand.Leads subject)) :
    Traces ((repetition operand least most).route subject).ends
      ((repetition operand least most).Leads subject) := by
  cases most with
  | some m =>
    refine (traces_settle h least (m - least)).congr fun i j => ?_
    simp only [Leads, Option.mem_some_iff, forall_eq']
    constructor
    · rintro ⟨more, hmore, h⟩
      exact ⟨least + more, by omega, by omega, h⟩
    · rintro ⟨rounds, hleast, hmost, h⟩
      refine ⟨rounds - least, by omega, ?_⟩
      rwa [Nat.add_sub_cancel' hleast]
  | none =>
    refine (traces_settle h least (subject.length + 1)).congr fun i j => ?_
    simp only [Leads, Option.mem_def, reduceCtorEq, false_imp_iff, implies_true, true_and]
    constructor
    · rintro ⟨more, -, h⟩
      exact ⟨least + more, Nat.le_add_right _ _, h⟩
    · rintro ⟨rounds, hleast, h⟩
      -- the rounds behind the first `least` can be cut down to the characters that are left
      rw [← Nat.add_sub_cancel' hleast, iterated_add] at h
      obtain ⟨k, hk, h⟩ := h
      have hj := h.bounds fun _ _ h => h.bounds
      obtain ⟨-, more, hmore, h⟩ := h.shorten fun _ _ h => h.bounds.1
      exact ⟨more, by omega, iterated_add.2 ⟨k, hk, h⟩⟩

/-- **The search goes where the pattern leads.** -/
theorem traces_route (subject : List Char) (r : Regex) :
    Traces (r.route subject).ends (r.Leads subject) := by
  induction r using induct with
  | empty => exact traces_id
  | chars set => exact traces_chars set
  | place p => exact traces_place p
  | sequence items ih => exact traces_sequence ih
  | choice branches ih => exact traces_choice ih
  | repetition operand least most ih => exact traces_repetition least most ih
  | capture inner ih => exact ih

/-- A pattern occurs in a subject if it leads from one of its places anywhere. -/
theorem occursIn_iff (r : Regex) (subject : List Char) :
    r.occursIn subject = true ↔ ∃ i j, i ≤ subject.length ∧ r.Leads subject i j := by
  have hall (i : Nat) : (2 ^ (subject.length + 1) - 1).testBit i = true ↔ i ≤ subject.length := by
    rw [Nat.testBit_two_pow_sub_one, decide_eq_true_iff, Nat.lt_succ_iff]
  have hne (s : Nat) : s ≠ 0 ↔ ∃ j, s.testBit j = true := by
    refine ⟨Nat.exists_testBit_of_ne_zero, ?_⟩
    rintro ⟨j, hj⟩ rfl
    simp at hj
  rw [occursIn, bne_iff_ne, hne]
  simp only [traces_route subject r _ _, hall]
  exact exists_comm

end Regex

end Pattern
end RecordFilter
