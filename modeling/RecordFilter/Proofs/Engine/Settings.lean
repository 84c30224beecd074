/-
# How settings are stored

Stored settings are an object or an array (`Settings.IsWritten`).  An object has an entry for each
setting that it stores, in any order and none of them twice; an array has counts only, in the order
of the settings, and may end early.  A text is read as settings if and only if they are stored in it
and leave a level to an expression (`Settings.ofJson_eq_ok_iff`); a setting that is not stored is as
it is by default.

Reading goes from one item to the next.  What it keeps is that the settings of the items read so far
were not set before and are set now (`Settings.Adds`).
-/

import Mathlib
import RecordFilter.Engine.Settings
import RecordFilter.Proofs.Json.Spelling

namespace RecordFilter
namespace Settings

open Json (IsBlanks IsCount IsString Spaced parted)

/-- What can be set. -/
inductive Setting where
  | maxDepth
  | cacheCapacity
deriving DecidableEq, Repr

/-- The name that a setting is stored under. -/
def Setting.name : Setting → String
  | maxDepth => "max_depth"
  | cacheCapacity => "cache_capacity"

/-- The parts of an entry of an object. -/
inductive IsEntry : List (List Char) → Setting × Nat → Prop where
  | of {key count f n} (hkey : IsString key f.name) (hcount : IsCount count n) :
    IsEntry [key, [':'], count] (f, n)

/-- The parts of an element of an array. -/
inductive IsElement : List (List Char) → Setting × Nat → Prop where
  | of {count f n} (hcount : IsCount count n) : IsElement [count] (f, n)

/-- The parts of stored settings. -/
inductive IsWritten : List (List Char) → List (Setting × Nat) → Prop where
  /-- An object. -/
  | object {items stored} (h : List.Forall₂ IsEntry items stored)
      (hnodup : (stored.map Prod.fst).Nodup) :
    IsWritten (['\x7b'] :: (parted true items ++ [['\x7d']])) stored
  /-- An array. -/
  | array {items stored} (h : List.Forall₂ IsElement items stored)
      (hinit : stored.map Prod.fst <+: [.maxDepth, .cacheCapacity]) :
    IsWritten (['['] :: (parted true items ++ [[']']])) stored

/-- The settings are stored in a text, as far as they are not the default ones. -/
def IsStoredIn (s : Settings) (text : String) : Prop :=
  ∃ parts stored front close, IsWritten parts stored ∧ Spaced parts front ∧ IsBlanks close ∧
    text.toList = front ++ close ∧ s.maxDepth = (stored.lookup .maxDepth).getD 256 ∧
    s.cacheCapacity = (stored.lookup .cacheCapacity).getD 512

/-- The count that was read for a setting. -/
def Partial.get (p : Partial) : Setting → Option Nat
  | .maxDepth => p.maxDepth
  | .cacheCapacity => p.cacheCapacity

/-- The settings with one more count. -/
def Partial.put (p : Partial) (n : Nat) : Setting → Partial
  | .maxDepth => { p with maxDepth := some n }
  | .cacheCapacity => { p with cacheCapacity := some n }

/-- The field of a setting. -/
def Setting.field (f : Setting) : Json.Field Partial :=
  .of f.name (·.get f) (fun n p => p.put n f) Json.count

/-- Settings were set that were not set before. -/
structure Adds (p : Partial) (stored : List (Setting × Nat)) (q : Partial) : Prop where
  /-- No setting was set twice. -/
  nodup : (stored.map Prod.fst).Nodup
  /-- None of the settings was set before. -/
  fresh : ∀ e ∈ stored, p.get e.1 = none
  /-- The other settings are as before. -/
  get : ∀ f, q.get f = (p.get f).or (stored.lookup f)

variable {p q : Partial} {f : Setting} {n limit : Nat} {isFirst : Bool} {key : String}
  {cs rest front : List Char} {items : List (List (List Char))} {stored : List (Setting × Nat)}

/-! ### What was read -/

/-- A count that is put in for a setting is that of no other. -/
theorem Partial.get_put (p : Partial) (n : Nat) (f g : Setting) :
    (p.put n f).get g = if g = f then some n else p.get g := by
  cases f <;> cases g <;> rfl

/-- Settings are known by what was read of each. -/
theorem Partial.ext_get (h : ∀ f, p.get f = q.get f) : p = q := by
  obtain ⟨a, b⟩ := p
  obtain ⟨c, d⟩ := q
  exact congrArg₂ Partial.mk (h .maxDepth) (h .cacheCapacity)

/-- Where no setting is set, all are as before. -/
theorem adds_nil : Adds p [] q ↔ q = p := by
  constructor
  · intro h
    exact Partial.ext_get fun f => (h.get f).trans (Option.or_none)
  · rintro rfl
    exact ⟨List.nodup_nil, nofun, fun f => Option.or_none.symm⟩

/-- The first setting is set, and then the others. -/
theorem adds_cons (hf : p.get f = none) :
    Adds p ((f, n) :: stored) q ↔ Adds (p.put n f) stored q := by
  have hmem : f ∈ stored.map Prod.fst ↔ ∃ e ∈ stored, e.1 = f := List.mem_map
  have hfresh (e : Setting × Nat) :
      (p.put n f).get e.1 = none ↔ e.1 ≠ f ∧ p.get e.1 = none := by
    rw [Partial.get_put]
    by_cases he : e.1 = f
    · simp [he]
    · simp [he]
  have hget (g : Setting) : ((p.put n f).get g).or (stored.lookup g) =
      (p.get g).or (((f, n) :: stored).lookup g) := by
    rw [Partial.get_put, List.lookup_cons]
    by_cases hg : g = f
    · subst hg
      rw [if_pos rfl, hf, beq_self_eq_true]
      rfl
    · rw [if_neg hg, beq_eq_false_iff_ne.2 hg]
  constructor
  · rintro ⟨hnodup, hnone, hall⟩
    obtain ⟨hnot, hnodup⟩ := List.nodup_cons.1 hnodup
    exact ⟨hnodup, fun e he => (hfresh e).2 ⟨fun hef => hnot (hmem.2 ⟨e, he, hef⟩),
      hnone e (List.mem_cons_of_mem _ he)⟩, fun g => (hall g).trans (hget g).symm⟩
  · rintro ⟨hnodup, hnone, hall⟩
    refine ⟨List.nodup_cons.2 ⟨fun hin => ?_, hnodup⟩, List.forall_mem_cons.2 ⟨hf, fun e he =>
      ((hfresh e).1 (hnone e he)).2⟩, fun g => (hall g).trans (hget g)⟩
    obtain ⟨e, he, hef⟩ := hmem.1 hin
    exact ((hfresh e).1 (hnone e he)).1 hef

/-- The fields of stored settings are those of the settings. -/
theorem jsonFields_eq : jsonFields = [Setting.maxDepth, .cacheCapacity].map Setting.field := rfl

/-! ### Objects -/

/-- The field of a name is that of the setting with this name. -/
theorem find?_jsonFields (f : Setting) :
    jsonFields.find? (fun field => field.name = f.name) = some f.field := by
  cases f <;> rfl

/-- What is read behind a key is the count of a setting that was not read yet. -/
theorem exists_of_fieldByName (h : Json.fieldByName jsonFields false p key cs = .ok (q, rest)) :
    ∃ f n count front, key = f.name ∧ p.get f = none ∧ q = p.put n f ∧ IsCount count n ∧
      Spaced [[':'], count] front ∧ cs = front ++ rest := by
  unfold Json.fieldByName at h
  split at h
  · next field hfield =>
    have hmem := List.mem_of_find?_eq_some hfield
    rw [jsonFields_eq] at hmem
    obtain ⟨f, -, rfl⟩ := List.mem_map.1 hmem
    have hname : f.field.name = key := of_decide_eq_true (List.find?_some hfield :)
    split at h
    · cases h
    next hset =>
    obtain ⟨behind, hcolon, h⟩ := Json.bind_eq_ok h
    obtain ⟨⟨n, _⟩, hread, h⟩ := Json.map_eq_ok h
    cases h
    obtain ⟨gap, hgap, rfl⟩ := Json.colon_eq_ok_iff.1 hcolon
    obtain ⟨gap', count, hgap', hcount, rfl⟩ := Json.exists_of_count hread
    have hnone : p.get f = none := Option.not_isSome_iff_eq_none.1 hset
    exact ⟨f, n, count, gap ++ ([':'] ++ (gap' ++ count)), hname.symm, hnone, rfl, hcount,
      ⟨gap, _, hgap, Json.spaced_singleton.2 ⟨gap', hgap', rfl⟩, rfl⟩, by simp⟩
  · cases h

/-- A count behind the key of a setting is read, if it is the first one. -/
theorem fieldByName_of_isCount {count : List Char} (hnone : p.get f = none)
    (hcount : IsCount count n) (hfront : Spaced [[':'], count] front) (hrest : Json.Ends rest) :
    Json.fieldByName jsonFields false p f.name (front ++ rest) = .ok (p.put n f, rest) := by
  obtain ⟨gap, _, hgap, hmore, rfl⟩ := hfront
  obtain ⟨gap', hgap', rfl⟩ := Json.spaced_singleton.1 hmore
  have hset : f.field.isSet p = false := by
    change (p.get f).isSome = false
    rw [hnone]
    rfl
  have hcolon : Json.colon (gap ++ ([':'] ++ (gap' ++ count)) ++ rest) =
      .ok (gap' ++ (count ++ rest)) :=
    Json.colon_eq_ok_iff.2 ⟨gap, hgap, by simp⟩
  rw [Json.fieldByName, find?_jsonFields]
  dsimp only
  rw [hset, if_neg Bool.false_ne_true, hcolon]
  change (Json.count (gap' ++ (count ++ rest))).map _ = _
  rw [hcount.count hgap' hrest]
  rfl

/-- What is read as entries up to the end of an object is such entries. -/
theorem exists_of_entriesFrom
    (h : Json.entriesFrom (Json.fieldByName jsonFields false) limit isFirst p cs = .ok (q, rest)) :
    ∃ items stored front, List.Forall₂ IsEntry items stored ∧ Adds p stored q ∧
      Spaced (parted isFirst items ++ [['\x7d']]) front ∧ cs = front ++ rest := by
  induction limit generalizing isFirst p cs with
  | zero => cases h
  | succ limit ih =>
    rw [Json.entriesFrom] at h
    obtain ⟨⟨isMore, behind⟩, hnext, h⟩ := Json.bind_eq_ok h
    dsimp only at h
    cases isMore with
    | false =>
      rw [if_neg Bool.false_ne_true] at h
      cases h
      obtain ⟨gap, more, hgap, rfl, rfl⟩ := Json.exists_of_nextKey_close hnext
      exact ⟨[], [], gap ++ ['\x7d'], .nil, adds_nil.2 rfl,
        Json.spaced_singleton.2 ⟨gap, hgap, rfl⟩, by simp⟩
    | true =>
      rw [if_pos rfl] at h
      obtain ⟨⟨key, behindKey⟩, hkey, h⟩ := Json.bind_eq_ok h
      obtain ⟨⟨p', behindEntry⟩, hread, h⟩ := Json.bind_eq_ok h
      obtain ⟨items, stored, front, hitems, hadds, hfront, rfl⟩ := ih h
      obtain ⟨f, n, count, entry, rfl, hnone, rfl, hcount, hentry, rfl⟩ :=
        exists_of_fieldByName hread
      obtain ⟨inner, hinner, rfl⟩ := Json.stringBody_eq_ok_iff.1 hkey
      obtain ⟨before, hbefore, rfl⟩ := Json.nextKey_eq_true_iff.1 hnext
      obtain ⟨start, quote, hstart, hquote, rfl⟩ := Json.spaced_append.1 hbefore
      obtain ⟨gap, hgap, rfl⟩ := Json.spaced_singleton.1 hquote
      have hmine : Spaced ['"' :: (inner ++ ['"']), [':'], count]
          (gap ++ ('"' :: (inner ++ ['"']) ++ entry)) := ⟨gap, entry, hgap, hentry, rfl⟩
      refine ⟨_ :: items, (f, n) :: stored, start ++ (gap ++ ('"' :: (inner ++ ['"']) ++ entry) ++
        front), .cons (.of ⟨inner, rfl, hinner⟩ hcount) hitems, (adds_cons hnone).2 hadds, ?_,
        by simp⟩
      rw [parted, List.append_assoc, List.append_assoc]
      exact Json.spaced_append.2 ⟨start, _, hstart, Json.spaced_append.2 ⟨_, front, hmine, hfront,
        rfl⟩, rfl⟩

/-- Entries up to the end of an object are read, if none of them was read before. -/
theorem entriesFrom_of_forall₂ (h : List.Forall₂ IsEntry items stored) (hadds : Adds p stored q)
    (hfront : Spaced (parted isFirst items ++ [['\x7d']]) front) (hlimit : items.length < limit)
    (rest : List Char) :
    Json.entriesFrom (Json.fieldByName jsonFields false) limit isFirst p (front ++ rest) =
      .ok (q, rest) := by
  induction h generalizing limit isFirst p front with
  | nil =>
    obtain ⟨limit, rfl⟩ := Nat.exists_eq_succ_of_ne_zero (Nat.ne_of_gt hlimit)
    obtain rfl := adds_nil.1 hadds
    obtain ⟨gap, hgap, rfl⟩ := Json.spaced_singleton.1 hfront
    rw [List.append_assoc, List.singleton_append, Json.entriesFrom, Json.nextKey_close hgap]
    rfl
  | @cons item e items stored hitem _ ih =>
    obtain ⟨limit, rfl⟩ := Nat.exists_eq_succ_of_ne_zero (Nat.ne_of_gt (Nat.zero_lt_of_lt hlimit))
    obtain @⟨_, count, f, n, ⟨inner, rfl, hinner⟩, hcount⟩ := hitem
    have hnone : p.get f = none := hadds.fresh _ List.mem_cons_self
    rw [parted, List.append_assoc, List.append_assoc] at hfront
    obtain ⟨start, _, hstart, hmore, rfl⟩ := Json.spaced_append.1 hfront
    obtain ⟨_, close, ⟨gap, entry, hgap, hentry, rfl⟩, hclose, rfl⟩ := Json.spaced_append.1 hmore
    have hends : Json.Ends (close ++ rest) := by
      cases items with
      | nil => exact hclose.ends (.inr (.inr rfl)) rest
      | cons item items => exact hclose.ends (.inl rfl) rest
    have hnext : Json.nextKey isFirst (start ++ (gap ++ ('"' :: (inner ++ ['"']) ++ entry) ++ close)
        ++ rest) = .ok (true, inner ++ '"' :: (entry ++ (close ++ rest))) :=
      Json.nextKey_eq_true_iff.2 ⟨start ++ (gap ++ ['"']), Json.spaced_append.2 ⟨start, _, hstart,
        Json.spaced_singleton.2 ⟨gap, hgap, rfl⟩, rfl⟩, by simp⟩
    have hkey : Json.stringBody (inner ++ '"' :: (entry ++ (close ++ rest))) =
        .ok (f.name, entry ++ (close ++ rest)) := Json.stringBody_eq_ok_iff.2 ⟨inner, hinner, rfl⟩
    rw [Json.entriesFrom, hnext]
    change (Json.stringBody _).bind _ = _
    rw [hkey]
    change (Json.fieldByName jsonFields false p f.name (entry ++ (close ++ rest))).bind _ = _
    rw [fieldByName_of_isCount hnone hcount hentry hends]
    exact ih ((adds_cons hnone).1 hadds) hclose (Nat.lt_of_succ_lt_succ hlimit)

/-! ### Arrays -/

/-- What is read as counts up to the end of an array is such counts. -/
theorem exists_of_fieldsInOrder {fs : List Setting} (hnodup : fs.Nodup)
    (hnone : ∀ f ∈ fs, p.get f = none)
    (h : Json.fieldsInOrder p isFirst (fs.map Setting.field) cs = .ok (q, rest)) :
    ∃ items stored front, List.Forall₂ IsElement items stored ∧ stored.map Prod.fst <+: fs ∧
      Adds p stored q ∧ Spaced (parted isFirst items ++ [[']']]) front ∧ cs = front ++ rest := by
  induction fs generalizing isFirst p cs with
  | nil =>
    rw [List.map_nil, Json.fieldsInOrder] at h
    split at h
    · cases h
    · next hcs =>
      cases h
      obtain ⟨gap, hgap, rfl⟩ := Json.exists_of_skipBlanks_eq hcs
      exact ⟨[], [], gap ++ [']'], .nil, List.nil_prefix, adds_nil.2 rfl,
        Json.spaced_singleton.2 ⟨gap, hgap, rfl⟩, by simp⟩
    · cases h
  | cons f fs ih =>
    rw [List.map_cons, Json.fieldsInOrder] at h
    obtain ⟨⟨isMore, behind⟩, hnext, h⟩ := Json.bind_eq_ok h
    dsimp only at h
    cases isMore with
    | false =>
      rw [if_neg Bool.false_ne_true] at h
      cases h
      obtain ⟨gap, more, hgap, rfl, rfl⟩ := Json.exists_of_nextElement_close hnext
      exact ⟨[], [], gap ++ [']'], .nil, List.nil_prefix, adds_nil.2 rfl,
        Json.spaced_singleton.2 ⟨gap, hgap, rfl⟩, by simp⟩
    | true =>
      rw [if_pos rfl] at h
      obtain ⟨⟨p', behindCount⟩, hread, h⟩ := Json.bind_eq_ok h
      obtain ⟨⟨n, _⟩, hnumber, hread⟩ := Json.map_eq_ok hread
      cases hread
      obtain ⟨hnot, hnodup⟩ := List.nodup_cons.1 hnodup
      obtain ⟨hf, hnone⟩ := List.forall_mem_cons.1 hnone
      have hput : ∀ g ∈ fs, (p.put n f).get g = none := fun g hg => by
        rw [Partial.get_put, if_neg (ne_of_mem_of_not_mem hg hnot), hnone g hg]
      obtain ⟨items, stored, front, hitems, hinit, hadds, hfront, rfl⟩ := ih hnodup hput h
      obtain ⟨gap, count, hgap, hcount, rfl⟩ := Json.exists_of_count hnumber
      obtain ⟨start, gap', hstart, hgap', rfl⟩ := Json.exists_of_nextElement hnext
      have hmine : Spaced [count] (gap' ++ gap ++ count) :=
        Json.spaced_singleton.2 ⟨gap' ++ gap, List.forall_mem_append.2 ⟨hgap', hgap⟩, rfl⟩
      refine ⟨_ :: items, (f, n) :: stored, start ++ (gap' ++ gap ++ count ++ front),
        .cons (.of hcount) hitems, List.cons_prefix_cons.2 ⟨rfl, hinit⟩, (adds_cons hf).2 hadds,
        ?_, by simp⟩
      rw [parted, List.append_assoc, List.append_assoc]
      exact Json.spaced_append.2 ⟨start, _, hstart, Json.spaced_append.2 ⟨_, front, hmine, hfront,
        rfl⟩, rfl⟩

/-- Counts up to the end of an array are read as those of the first settings. -/
theorem fieldsInOrder_of_forall₂ {fs : List Setting} (h : List.Forall₂ IsElement items stored)
    (hinit : stored.map Prod.fst <+: fs) (hadds : Adds p stored q)
    (hfront : Spaced (parted isFirst items ++ [[']']]) front) (rest : List Char) :
    Json.fieldsInOrder p isFirst (fs.map Setting.field) (front ++ rest) = .ok (q, rest) := by
  induction h generalizing fs isFirst p front with
  | nil =>
    obtain rfl := adds_nil.1 hadds
    obtain ⟨gap, hgap, rfl⟩ := Json.spaced_singleton.1 hfront
    rw [List.append_assoc, List.singleton_append]
    cases fs with
    | nil =>
      rw [List.map_nil, Json.fieldsInOrder, Json.skipBlanks_append hgap]
      rfl
    | cons f fs =>
      rw [List.map_cons, Json.fieldsInOrder, Json.nextElement_close hgap]
      rfl
  | @cons item e items stored hitem _ ih =>
    obtain @⟨count, f, n, hcount⟩ := hitem
    obtain ⟨fs, rfl⟩ : ∃ more, fs = f :: more := by
      obtain ⟨more, rfl⟩ := hinit
      exact ⟨_, rfl⟩
    rw [parted, List.append_assoc, List.append_assoc] at hfront
    obtain ⟨start, _, hstart, hmore, rfl⟩ := Json.spaced_append.1 hfront
    obtain ⟨gap, close, hgap, hclose, rfl⟩ := hmore
    have hends : Json.Ends (close ++ rest) := by
      cases items with
      | nil => exact hclose.ends (.inr (.inl rfl)) rest
      | cons item items => exact hclose.ends (.inl rfl) rest
    have hnext : Json.nextElement isFirst (start ++ (gap ++ (count ++ (close ++ rest)))) =
        .ok (true, count ++ (close ++ rest)) :=
      Json.nextElement_spaced hstart hgap (hcount.starts.append _)
    have hread : f.field.read p (count ++ (close ++ rest)) = .ok (p.put n f, close ++ rest) := by
      change (Json.count (count ++ (close ++ rest))).map _ = _
      rw [show Json.count (count ++ (close ++ rest)) = .ok (n, close ++ rest) from
        hcount.count Json.isBlanks_nil hends]
      rfl
    rw [List.append_assoc, List.append_assoc, List.append_assoc, List.map_cons, Json.fieldsInOrder,
      hnext]
    change (f.field.read p (count ++ (close ++ rest))).bind _ = _
    rw [hread]
    exact ih (List.cons_prefix_cons.1 hinit).2
      ((adds_cons (hadds.fresh _ List.mem_cons_self)).1 hadds) hclose

/-! ### Texts -/

/-- Nothing was read. -/
theorem get_none (f : Setting) : (⟨none, none⟩ : Partial).get f = none := by
  cases f <;> rfl

/-- The settings are different. -/
theorem nodup_settings : [Setting.maxDepth, .cacheCapacity].Nodup := by decide

/-- No setting is stored twice. -/
theorem IsWritten.nodup {parts : List (List Char)} (h : IsWritten parts stored) :
    (stored.map Prod.fst).Nodup := by
  cases h with
  | object _ hnodup => exact hnodup
  | array _ hinit => exact nodup_settings.sublist hinit.sublist

/-- There are no more items than characters. -/
theorem length_le_of_forall₂ (h : List.Forall₂ IsEntry items stored)
    (hfront : Spaced (parted isFirst items ++ [['\x7d']]) front) : items.length ≤ front.length := by
  induction h generalizing isFirst front with
  | nil => exact Nat.zero_le _
  | cons hitem _ ih =>
    obtain ⟨⟨inner, rfl, -⟩, -⟩ := hitem
    rw [parted, List.append_assoc, List.append_assoc] at hfront
    obtain ⟨start, _, -, hmore, rfl⟩ := Json.spaced_append.1 hfront
    obtain ⟨_, close, ⟨gap, entry, -, -, rfl⟩, hclose, rfl⟩ := Json.spaced_append.1 hmore
    have := ih hclose
    simp only [List.length_append, List.length_cons]
    omega

/-- What is read as the fields of stored settings is that. -/
theorem exists_of_fields
    (h : Json.fields Json.levelLimit jsonFields false ⟨none, none⟩ cs = .ok (q, rest)) :
    ∃ parts stored front, IsWritten parts stored ∧ Adds ⟨none, none⟩ stored q ∧
      Spaced parts front ∧ cs = front ++ rest := by
  unfold Json.fields at h
  split at h
  · next hcs =>
    rw [if_neg (by decide)] at h
    obtain ⟨gap, hgap, rfl⟩ := Json.exists_of_skipBlanks_eq hcs
    obtain ⟨items, stored, front, hitems, hinit, hadds, hfront, rfl⟩ :=
      exists_of_fieldsInOrder nodup_settings (fun f _ => get_none f) h
    exact ⟨_, stored, _, .array hitems hinit, hadds, ⟨gap, front, hgap, hfront, rfl⟩, by simp⟩
  · next hcs =>
    rw [if_neg (by decide)] at h
    obtain ⟨gap, hgap, rfl⟩ := Json.exists_of_skipBlanks_eq hcs
    obtain ⟨items, stored, front, hitems, hadds, hfront, rfl⟩ := exists_of_entriesFrom h
    exact ⟨_, stored, _, .object hitems hadds.nodup, hadds, ⟨gap, front, hgap, hfront, rfl⟩,
      by simp⟩
  · cases h

/-- Stored settings are read. -/
theorem fields_of_isWritten {parts : List (List Char)} (h : IsWritten parts stored)
    (hadds : Adds ⟨none, none⟩ stored q) (hfront : Spaced parts front) (rest : List Char) :
    Json.fields Json.levelLimit jsonFields false ⟨none, none⟩ (front ++ rest) = .ok (q, rest) := by
  cases h with
  | @object items _ hitems _ =>
    obtain ⟨gap, front, hgap, hfront, rfl⟩ := hfront
    have hlimit : items.length < (front ++ rest).length + 1 := by
      have := length_le_of_forall₂ hitems hfront
      rw [List.length_append]
      omega
    rw [List.append_assoc, List.append_assoc, Json.fields, Json.skipBlanks_append hgap]
    exact entriesFrom_of_forall₂ hitems hadds hfront hlimit rest
  | array hitems hinit =>
    obtain ⟨gap, front, hgap, hfront, rfl⟩ := hfront
    rw [List.append_assoc, List.append_assoc, Json.fields, Json.skipBlanks_append hgap]
    exact fieldsInOrder_of_forall₂ hitems hinit hadds hfront rest

/-- Settings that were added to none are completed by the default ones. -/
theorem completed_eq_iff {s : Settings} (h : Adds ⟨none, none⟩ stored q) :
    q.completed = s ↔ s.maxDepth = (stored.lookup .maxDepth).getD 256 ∧
      s.cacheCapacity = (stored.lookup .cacheCapacity).getD 512 := by
  have hmaxDepth : q.maxDepth = stored.lookup .maxDepth := h.get .maxDepth
  have hcacheCapacity : q.cacheCapacity = stored.lookup .cacheCapacity := h.get .cacheCapacity
  obtain ⟨maxDepth, cacheCapacity⟩ := s
  rw [Partial.completed, hmaxDepth, hcacheCapacity, Settings.mk.injEq, eq_comm (b := maxDepth),
    eq_comm (b := cacheCapacity)]
  rfl

/-- **A text is read as settings if and only if they are stored in it and leave a level.** -/
theorem ofJson_eq_ok_iff {s : Settings} {text : String} :
    ofJson text = .ok s ↔ s.IsStoredIn text ∧ 0 < s.maxDepth := by
  constructor
  · intro h
    unfold ofJson at h
    split at h
    · next q hq =>
      unfold Json.whole at hq
      split at hq
      · cases hq
      next rest hread =>
      split at hq
      · next hblanks =>
        cases hq
        unfold validated at h
        split at h
        · cases h
        next hlevels =>
        obtain ⟨parts, stored, front, hparts, hadds, hfront, htext⟩ := exists_of_fields hread
        have hcompleted := (completed_eq_iff hadds).1 (Except.ok.inj h)
        rw [Except.ok.inj h] at hlevels
        obtain ⟨close, hclose, rfl⟩ := Json.exists_of_skipBlanks_eq (List.isEmpty_iff.1 hblanks)
        rw [List.append_nil] at htext
        exact ⟨⟨parts, stored, front, close, hparts, hfront, hclose, htext, hcompleted⟩,
          Nat.pos_of_ne_zero hlevels⟩
      · cases hq
    · cases h
  · rintro ⟨⟨parts, stored, front, close, hparts, hfront, hclose, htext, hcompleted⟩, hlevels⟩
    have hadds : Adds ⟨none, none⟩ stored ⟨stored.lookup .maxDepth, stored.lookup .cacheCapacity⟩ :=
      ⟨hparts.nodup, fun e _ => get_none e.1, fun f => by cases f <;> rfl⟩
    have hblanks : Json.skipBlanks close = [] := by
      rw [← List.append_nil close, Json.skipBlanks_append hclose]
      rfl
    rw [ofJson, Json.whole, htext, fields_of_isWritten hparts hadds hfront close]
    dsimp only
    rw [hblanks]
    change Settings.validated (Partial.completed _) = _
    rw [(completed_eq_iff hadds).2 hcompleted]
    exact if_neg (Nat.ne_of_gt hlevels)

example : ofJson "\x7b\"cache_capacity\": 0, \"max_depth\": 4\x7d " = .ok ⟨4, 0⟩ ∧
    ofJson "[8]" = .ok ⟨8, 512⟩ ∧ ofJson "[0]" = .error .zeroMaxDepth := by
  decide +kernel

end Settings
end RecordFilter
