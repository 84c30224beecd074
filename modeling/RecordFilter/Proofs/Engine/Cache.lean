/-
# How long a cache keeps what was built

A cache serves requests one after the other (`Cache.run`).  Two kinds of requests empty it: to clear
it, and to put something new into it while it is full (`Cache.Empties`).  Nothing else takes
anything out of it, and a thing that was taken out never comes back, since what is built later has a
greater number.  So what was built for a key is found again, and is the very same thing, if and only
if nothing has emptied the cache since (`keeps_until_emptied`).

The invariant (`Cache.Sound`) is that no more is kept than the capacity allows, that no key is kept
twice, and that every number that is kept was given out.
-/

import Mathlib
import RecordFilter.Engine.Cache

namespace RecordFilter
namespace Cache

/-- What can be asked of a cache. -/
inductive Request (ε α : Type) where
  /-- What is kept for a key; if nothing is, it is built. -/
  | ask (key : String) (build : Unit → Except ε α)
  /-- What is kept for a key. -/
  | get (key : String)
  /-- To keep nothing. -/
  | clear

variable {ε α : Type}

/-- The cache behind a request. -/
def serve (c : Cache α) : Request ε α → Cache α
  | .ask key build => (c.ask key build).cache
  | .get _ => c
  | .clear => c.clear

/-- The cache behind several requests. -/
def run (c : Cache α) (rs : List (Request ε α)) : Cache α := rs.foldl serve c

/-- A request empties the cache: to clear it, or to put something new into it while it is full. -/
def Empties (c : Cache α) : Request ε α → Prop
  | .ask key build => c.get? key = none ∧ (∃ a, build () = .ok a) ∧ c.capacity ≤ c.size
  | .get _ => False
  | .clear => True

/-- One of several requests empties the cache. -/
def EmptiedBy (c : Cache α) : List (Request ε α) → Prop
  | [] => False
  | r :: rs => c.Empties r ∨ (c.serve r).EmptiedBy rs

/-- What holds of every cache that is used through requests. -/
structure Sound (c : Cache α) : Prop where
  size_le : c.size ≤ c.capacity
  nodup : (c.entries.map Prod.fst).Nodup
  serial_lt : ∀ x ∈ c.entries, x.2.serial < c.builds

/-- The thing with a number is not kept, and its number was given out. -/
def Gone (serial : Nat) (c : Cache α) : Prop :=
  serial < c.builds ∧ ∀ x ∈ c.entries, x.2.serial ≠ serial

variable {c : Cache α} {key other : String} {build : Unit → Except ε α} {a : α} {b : Built α}
  {e : ε} {r : Request ε α} {serial : Nat}

/-! ### What a request does -/

/-- What is kept is given, and the cache stays as it is. -/
theorem ask_hit (h : c.get? key = some b) : c.ask key build = ⟨.ok b, false, c⟩ := by
  unfold ask
  rw [h]

/-- A building that fails is reported, and nothing is kept of it. -/
theorem ask_failed (h : c.get? key = none) (hb : build () = .error e) :
    c.ask key build = ⟨.error e, true, c⟩ := by
  unfold ask
  rw [h]
  dsimp only
  rw [hb]

/-- What is built is given under the next number, and put into the cache. -/
theorem ask_built (h : c.get? key = none) (hb : build () = .ok a) :
    c.ask key build = ⟨.ok ⟨c.builds, a⟩, true, c.insert key a⟩ := by
  unfold ask
  rw [h]
  dsimp only
  rw [hb]

/-- What is kept is given; else something is built, which may fail. -/
theorem ask_cases (c : Cache α) (key : String) (build : Unit → Except ε α) :
    (∃ b, c.get? key = some b ∧ c.ask key build = ⟨.ok b, false, c⟩) ∨
      (c.get? key = none ∧ ∃ e, build () = .error e ∧ c.ask key build = ⟨.error e, true, c⟩) ∨
      (c.get? key = none ∧ ∃ a, build () = .ok a ∧
        c.ask key build = ⟨.ok ⟨c.builds, a⟩, true, c.insert key a⟩) := by
  cases hk : c.get? key with
  | some b => exact .inl ⟨b, rfl, ask_hit hk⟩
  | none =>
    cases hb : build () with
    | error e => exact .inr (.inl ⟨rfl, e, rfl, ask_failed hk hb⟩)
    | ok a => exact .inr (.inr ⟨rfl, a, rfl, ask_built hk hb⟩)

/-- What is given comes from the cache or is new. -/
theorem ask_eq_ok (h : (c.ask key build).result = .ok b) :
    (c.get? key = some b ∧ (c.ask key build).cache = c) ∨
      (c.get? key = none ∧ b.serial = c.builds ∧
        (c.ask key build).cache = c.insert key b.value) := by
  rcases c.ask_cases key build with ⟨b', hk, ha⟩ | ⟨-, e, -, ha⟩ | ⟨hk, a, -, ha⟩ <;>
    rw [ha] at h ⊢ <;> cases h
  · exact .inl ⟨hk, rfl⟩
  · exact .inr ⟨hk, rfl, rfl⟩

/-- An answer is new if and only if nothing was kept for its key. -/
theorem isNew_ask : (c.ask key build).isNew = true ↔ c.get? key = none := by
  rcases c.ask_cases key build with ⟨b, hk, ha⟩ | ⟨hk, e, -, ha⟩ | ⟨hk, a, -, ha⟩ <;> rw [ha, hk]
  · exact ⟨nofun, nofun⟩
  · exact ⟨fun _ => rfl, fun _ => rfl⟩
  · exact ⟨fun _ => rfl, fun _ => rfl⟩

/-- A cache without a place keeps nothing new. -/
theorem entries_insert_zero (h : c.capacity = 0) : (c.insert key a).entries = c.entries :=
  if_pos h

/-- A full cache is emptied for what is new. -/
theorem entries_insert_full (h : 0 < c.capacity) (hf : c.capacity ≤ c.size) :
    (c.insert key a).entries = [(key, ⟨c.builds, a⟩)] := by
  rw [insert, if_neg (Nat.ne_of_gt h), if_pos hf]

/-- A cache with a free place keeps what is new beside what it has. -/
theorem entries_insert_room (h : c.size < c.capacity) :
    (c.insert key a).entries = (key, ⟨c.builds, a⟩) :: c.entries := by
  rw [insert, if_neg (Nat.ne_zero_of_lt h), if_neg (Nat.not_le_of_lt h)]

/-- What is put into a cache with capacity comes in front of some of what it has. -/
theorem entries_insert (c : Cache α) (key : String) (a : α) :
    (c.capacity = 0 ∧ (c.insert key a).entries = c.entries) ∨
      ∃ kept, kept.Sublist c.entries ∧ kept.length < c.capacity ∧
        (c.insert key a).entries = (key, ⟨c.builds, a⟩) :: kept := by
  rcases Nat.eq_zero_or_pos c.capacity with h | hpos
  · exact .inl ⟨h, entries_insert_zero h⟩
  · by_cases hf : c.capacity ≤ c.size
    · exact .inr ⟨[], List.nil_sublist _, hpos, entries_insert_full hpos hf⟩
    · have hr := Nat.lt_of_not_le hf
      exact .inr ⟨c.entries, List.Sublist.refl _, hr, entries_insert_room hr⟩

/-- A cache with capacity has what is put into it. -/
theorem get?_insert_self (h : 0 < c.capacity) :
    (c.insert key a).get? key = some ⟨c.builds, a⟩ := by
  rcases c.entries_insert key a with ⟨h0, -⟩ | ⟨kept, -, -, he⟩
  · exact absurd h0 (Nat.ne_of_gt h)
  · rw [get?, he, List.lookup_cons_self]

/-- A cache that is not full keeps what it has. -/
theorem get?_insert_of_ne (h : c.size < c.capacity) (hne : other ≠ key) :
    (c.insert key a).get? other = c.get? other := by
  have hb : (other == key) = false := beq_false_of_ne hne
  rw [get?, entries_insert_room h, List.lookup_cons, hb]
  rfl

/-- What is found is one of the entries. -/
theorem mem_entries_of_get? (h : c.get? key = some b) : (key, b) ∈ c.entries := by
  obtain ⟨l, m, hc, -⟩ := List.lookup_eq_some_iff.1 h
  rw [hc]
  exact List.mem_append_right _ (List.mem_cons_self ..)

/-- A key for which nothing is found has no entry. -/
theorem not_mem_keys_of_get? (h : c.get? key = none) : key ∉ c.entries.map Prod.fst := by
  intro hm
  obtain ⟨x, hx, rfl⟩ := List.mem_map.1 hm
  exact bne_iff_ne.1 (List.lookup_eq_none_iff.1 h x hx) rfl

/-- A request changes nothing, puts something new into the cache, or clears it. -/
theorem serve_cases (c : Cache α) (r : Request ε α) :
    (c.serve r = c ∧ ¬ c.Empties r) ∨
      (∃ key a, c.get? key = none ∧ c.serve r = c.insert key a ∧
        (c.Empties r ↔ c.capacity ≤ c.size)) ∨
      (c.serve r = c.clear ∧ c.Empties r) := by
  cases r with
  | ask key build =>
    rw [serve, Empties]
    rcases c.ask_cases key build with ⟨b, hk, ha⟩ | ⟨-, e, hb, ha⟩ | ⟨hk, a, hb, ha⟩ <;> rw [ha]
    · refine .inl ⟨rfl, fun h => ?_⟩
      rw [hk] at h
      exact absurd h.1 nofun
    · refine .inl ⟨rfl, fun ⟨_, ⟨_, ha⟩, _⟩ => ?_⟩
      rw [hb] at ha
      cases ha
    · exact .inr (.inl ⟨key, a, hk, rfl, fun h => h.2.2, fun h => ⟨hk, ⟨a, hb⟩, h⟩⟩)
  | get key => exact .inl ⟨rfl, id⟩
  | clear => exact .inr (.inr ⟨rfl, trivial⟩)

/-! ### The invariant -/

/-- A cache is sound from its start. -/
theorem sound_empty (capacity : Nat) : Sound (empty capacity : Cache α) where
  size_le := Nat.zero_le _
  nodup := List.nodup_nil
  serial_lt _ h := absurd h List.not_mem_nil

/-- A cleared cache is sound. -/
theorem sound_clear (c : Cache α) : Sound c.clear where
  size_le := Nat.zero_le _
  nodup := List.nodup_nil
  serial_lt _ h := absurd h List.not_mem_nil

/-- A cache stays sound when something is put in for a key that has no entry. -/
theorem Sound.insert (h : Sound c) (hk : c.get? key = none) : Sound (c.insert key a) := by
  have hold : ∀ x ∈ c.entries, x.2.serial < c.builds + 1 :=
    fun x hx => Nat.lt_succ_of_lt (h.serial_lt x hx)
  rcases c.entries_insert key a with ⟨-, he⟩ | ⟨kept, hsub, hlen, he⟩
  · refine ⟨?_, ?_, ?_⟩
    · rw [size, he]
      exact h.size_le
    · rw [he]
      exact h.nodup
    · rw [he]
      exact hold
  · have hkeys : (kept.map Prod.fst).Sublist (c.entries.map Prod.fst) := hsub.map Prod.fst
    refine ⟨?_, ?_, ?_⟩
    · rw [size, he]
      exact hlen
    · rw [he]
      exact List.nodup_cons.2
        ⟨fun hm => not_mem_keys_of_get? hk (hkeys.subset hm), h.nodup.sublist hkeys⟩
    · rw [he]
      exact List.forall_mem_cons.2 ⟨Nat.lt_succ_self _, fun x hx => hold x (hsub.subset hx)⟩

/-- One request leaves a sound cache sound. -/
theorem Sound.serve (h : Sound c) (r : Request ε α) : Sound (c.serve r) := by
  rcases c.serve_cases r with ⟨hs, -⟩ | ⟨key, a, hk, hs, -⟩ | ⟨hs, -⟩ <;> rw [hs]
  · exact h
  · exact h.insert hk
  · exact sound_clear c

/-- Requests leave a sound cache sound. -/
theorem Sound.run (h : Sound c) (rs : List (Request ε α)) : Sound (c.run rs) := by
  induction rs generalizing c with
  | nil => exact h
  | cons r rs ih => exact ih (h.serve r)

/-- A request leaves the capacity as it is. -/
theorem capacity_serve (c : Cache α) (r : Request ε α) : (c.serve r).capacity = c.capacity := by
  rcases c.serve_cases r with ⟨hs, -⟩ | ⟨key, a, -, hs, -⟩ | ⟨hs, -⟩ <;> rw [hs]
  · rfl
  · rfl

/-- Requests leave the capacity as it is. -/
theorem capacity_run (c : Cache α) (rs : List (Request ε α)) :
    (c.run rs).capacity = c.capacity := by
  induction rs generalizing c with
  | nil => rfl
  | cons r rs ih => exact (ih (c.serve r)).trans (c.capacity_serve r)

/-! ### What is kept and what is gone -/

/-- What does not empty the cache leaves what it has. -/
theorem get?_serve (hg : c.get? key = some b) (hr : ¬ c.Empties r) :
    (c.serve r).get? key = some b := by
  rcases c.serve_cases r with ⟨hs, -⟩ | ⟨other, a, hk, hs, he⟩ | ⟨-, he⟩
  · rw [hs]
    exact hg
  · have hne : key ≠ other := by
      rintro rfl
      rw [hk] at hg
      cases hg
    rw [hs, get?_insert_of_ne (Nat.lt_of_not_le (mt he.2 hr)) hne]
    exact hg
  · exact absurd he hr

/-- What is kept stays kept as long as no request empties the cache. -/
theorem get?_run {rs : List (Request ε α)} (hg : c.get? key = some b) (hr : ¬ c.EmptiedBy rs) :
    (c.run rs).get? key = some b := by
  induction rs generalizing c with
  | nil => exact hg
  | cons r rs ih => exact ih (get?_serve hg (mt .inl hr)) (mt .inr hr)

/-- A number that was given out is never given out again. -/
theorem lt_builds_serve (h : serial < c.builds) (r : Request ε α) :
    serial < (c.serve r).builds := by
  rcases c.serve_cases r with ⟨hs, -⟩ | ⟨key, a, -, hs, -⟩ | ⟨hs, -⟩ <;> rw [hs]
  · exact h
  · exact Nat.lt_succ_of_lt h
  · exact h

/-- What is put in has a new number, so what is gone stays gone. -/
theorem Gone.insert (h : Gone serial c) : Gone serial (c.insert key a) := by
  obtain ⟨hlt, hx⟩ := h
  refine ⟨Nat.lt_succ_of_lt hlt, ?_⟩
  rcases c.entries_insert key a with ⟨-, he⟩ | ⟨kept, hsub, -, he⟩ <;> rw [he]
  · exact hx
  · exact List.forall_mem_cons.2 ⟨Nat.ne_of_gt hlt, fun x hm => hx x (hsub.subset hm)⟩

/-- What is gone does not come back with a request. -/
theorem Gone.serve (h : Gone serial c) (r : Request ε α) : Gone serial (c.serve r) := by
  rcases c.serve_cases r with ⟨hs, -⟩ | ⟨key, a, -, hs, -⟩ | ⟨hs, -⟩ <;> rw [hs]
  · exact h
  · exact h.insert
  · exact ⟨h.1, fun _ hx => absurd hx List.not_mem_nil⟩

/-- What is gone does not come back. -/
theorem Gone.run (h : Gone serial c) (rs : List (Request ε α)) : Gone serial (c.run rs) := by
  induction rs generalizing c with
  | nil => exact h
  | cons r rs ih => exact ih (h.serve r)

/-- What is emptied has nothing that it had before. -/
theorem gone_serve (h : serial < c.builds) (hpos : 0 < c.capacity) (hr : c.Empties r) :
    Gone serial (c.serve r) := by
  rcases c.serve_cases r with ⟨-, hn⟩ | ⟨key, a, -, hs, he⟩ | ⟨hs, -⟩
  · exact absurd hr hn
  · rw [hs]
    refine ⟨Nat.lt_succ_of_lt h, ?_⟩
    rw [entries_insert_full hpos (he.1 hr)]
    exact List.forall_mem_singleton.2 (Nat.ne_of_gt h)
  · rw [hs]
    exact ⟨h, fun _ hx => absurd hx List.not_mem_nil⟩

/-- Once a request has emptied a cache that has a place, all that was built before is gone. -/
theorem gone_run {rs : List (Request ε α)} (h : serial < c.builds) (hpos : 0 < c.capacity)
    (hr : c.EmptiedBy rs) : Gone serial (c.run rs) := by
  induction rs generalizing c with
  | nil => exact hr.elim
  | cons r rs ih =>
    rcases hr with hr | hr
    · exact (gone_serve h hpos hr).run rs
    · exact ih (lt_builds_serve h r) (by rwa [capacity_serve]) hr

/-- What is given is kept for its key, if the cache has capacity. -/
theorem get?_ask (hpos : 0 < c.capacity) (hb : (c.ask key build).result = .ok b) :
    (c.ask key build).cache.get? key = some b := by
  rcases ask_eq_ok hb with ⟨hk, hs⟩ | ⟨-, hn, hs⟩ <;> rw [hs]
  · exact hk
  · rw [get?_insert_self hpos, ← hn]

/-- What is given has a number that was given out. -/
theorem Sound.serial_lt_ask (h : Sound c) (hb : (c.ask key build).result = .ok b) :
    b.serial < (c.ask key build).cache.builds := by
  rcases ask_eq_ok hb with ⟨hk, hs⟩ | ⟨-, hn, hs⟩ <;> rw [hs]
  · exact h.serial_lt _ (mem_entries_of_get? hk)
  · rw [hn]
    exact Nat.lt_succ_self _

/-- What is given when a number is gone has another number. -/
theorem Gone.serial_ne (h : Gone serial c) (hb : (c.ask key build).result = .ok b) :
    b.serial ≠ serial := by
  rcases ask_eq_ok hb with ⟨hk, -⟩ | ⟨-, hs, -⟩
  · exact h.2 _ (mem_entries_of_get? hk)
  · rw [hs]
    exact Nat.ne_of_gt h.1

/-- **A cache keeps what it built until it is emptied.**  In every state that requests reach: no
more is kept than the capacity allows, under distinct keys; something is built if and only if
nothing is kept for its key; what cannot be built changes nothing; without capacity nothing is kept,
and what is put into a full cache is all that is kept then.  With capacity, what was given for a key
is given again, and is the same thing, if and only if no request in between emptied the cache. -/
theorem keeps_until_emptied (capacity : Nat) (rs : List (Request ε α)) {c : Cache α}
    (hc : (empty capacity).run rs = c) :
    (c.size ≤ capacity ∧ (c.entries.map Prod.fst).Nodup) ∧
      (∀ (key : String) (build : Unit → Except ε α),
        ((c.ask key build).isNew = true ↔ c.get? key = none) ∧
        (∀ b, c.get? key = some b → c.ask key build = ⟨.ok b, false, c⟩) ∧
        ∀ e, c.get? key = none → build () = .error e →
          (c.ask key build).result = .error e ∧ (c.ask key build).cache = c) ∧
      (capacity = 0 → c.entries = []) ∧
      (∀ (key : String) (build : Unit → Except ε α) (a : α), 0 < capacity → c.get? key = none →
        build () = .ok a → capacity ≤ c.size →
          (c.ask key build).cache.entries = [(key, ⟨c.builds, a⟩)]) ∧
      ∀ (key : String) (build : Unit → Except ε α) (b : Built α) (later : List (Request ε α)),
        0 < capacity → (c.ask key build).result = .ok b →
          (¬ (c.ask key build).cache.EmptiedBy later →
            ((c.ask key build).cache.run later).get? key = some b ∧
              ∀ build' : Unit → Except ε α,
                (((c.ask key build).cache.run later).ask key build').result = .ok b) ∧
          ∀ (build' : Unit → Except ε α) (b' : Built α),
            (((c.ask key build).cache.run later).ask key build').result = .ok b' →
              (b'.serial = b.serial ↔ ¬ (c.ask key build).cache.EmptiedBy later) := by
  have hcap : c.capacity = capacity := hc ▸ capacity_run (empty capacity) rs
  have hs : Sound c := hc ▸ (sound_empty capacity).run rs
  refine ⟨⟨hcap ▸ hs.size_le, hs.nodup⟩, fun key build => ⟨isNew_ask, fun b => ask_hit, ?_⟩, ?_, ?_,
    ?_⟩
  · intro e hk hb
    rw [ask_failed hk hb]
    exact ⟨rfl, rfl⟩
  · intro h0
    have hle := hs.size_le
    rw [hcap, h0] at hle
    exact List.eq_nil_of_length_eq_zero (Nat.le_zero.1 hle)
  · intro key build a hpos hk hb hf
    rw [ask_built hk hb]
    exact entries_insert_full (hcap ▸ hpos) (hcap ▸ hf)
  · intro key build b later hpos hb
    have hpos' : 0 < (c.ask key build).cache.capacity := by
      rwa [← serve, capacity_serve, hcap]
    have hkept := get?_ask (hcap ▸ hpos) hb
    have hlt := hs.serial_lt_ask hb
    have hsame (h : ¬ (c.ask key build).cache.EmptiedBy later) := get?_run hkept h
    refine ⟨fun h => ⟨hsame h, fun build' => ?_⟩,
      fun build' b' hb' => ⟨fun he h => ?_, fun h => ?_⟩⟩
    · rw [ask_hit (hsame h)]
    · exact (gone_run hlt hpos' h).serial_ne hb' he
    · rw [ask_hit (hsame h)] at hb'
      cases hb'
      rfl

/-- With one place, a failure for another key leaves what is kept, and a success takes its place, so
that the first key is built anew. -/
theorem keeps_until_emptied_one_place :
    (empty 1).run [Request.ask "a" fun _ => (.ok 10 : Except Unit Nat)] =
        ⟨1, [("a", ⟨0, 10⟩)], 1⟩ ∧
      (ask ⟨1, [("a", ⟨0, 10⟩)], 1⟩ "b" fun _ => (.error () : Except Unit Nat)).cache =
        ⟨1, [("a", ⟨0, 10⟩)], 1⟩ ∧
      (ask ⟨1, [("a", ⟨0, 10⟩)], 1⟩ "b" fun _ => (.ok 20 : Except Unit Nat)).cache.entries =
        [("b", ⟨1, 20⟩)] ∧
      ∀ b, (((ask ⟨1, [("a", ⟨0, 10⟩)], 1⟩ "a" fun _ => (.ok 30 : Except Unit Nat)).cache.run
          [Request.ask "b" fun _ => (.ok 20 : Except Unit Nat)]).ask "a"
            fun _ => (.ok 30 : Except Unit Nat)).result = .ok b → b.serial ≠ 0 := by
  have h := keeps_until_emptied 1 [Request.ask "a" fun _ => (.ok 10 : Except Unit Nat)] rfl
  obtain ⟨-, hask, -, hfull, hlater⟩ := h
  refine ⟨rfl, ((hask "b" _).2.2 () rfl rfl).2, hfull "b" _ 20 (by decide) rfl rfl (by decide),
    fun b hb hz => ?_⟩
  refine ((hlater "a" (fun _ => .ok 30) ⟨0, 10⟩ _ (by decide) rfl).2 _ b hb).1 hz ?_
  exact .inl ⟨rfl, ⟨20, rfl⟩, by decide⟩

end Cache
end RecordFilter
