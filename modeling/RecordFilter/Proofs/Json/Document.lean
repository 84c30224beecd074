/-
# Values through documents

The entries of an object ascend by key (`Json.KeysAscend`), however they were put in, and entries
with distinct keys that ascend are determined by which they are (`KeysAscend.eq_of_perm`).  So no
field is lost or merged on the way from a value to a document and back: what comes back equals the
value with null for what JSON has no form for (`Value.normalized`), and of equal values without a
negative zero one document is made, whatever the order of their fields (`Value.document_laws`).
-/

import Mathlib
import RecordFilter.Proofs.Json.Value
import RecordFilter.Proofs.Value.Equivalence

namespace RecordFilter

namespace Json

/-! ### Entries in the order of their keys -/

section Entries

variable {α β : Type} {key : String} {a : α} {es fs : List (String × α)}

/-- Every key is less than those behind it. -/
def KeysAscend (es : List (String × α)) : Prop := es.Pairwise fun e f => e.1 < f.1

/-- Keys that ascend are distinct. -/
theorem KeysAscend.nodup (h : KeysAscend es) : (es.map Prod.fst).Nodup :=
  (List.pairwise_map.2 h : (es.map Prod.fst).Pairwise (· < ·)).nodup

/-- Keys ascend whatever is made of what they lead to. -/
theorem keysAscend_map (f : α → β) :
    KeysAscend (es.map fun e => (e.1, f e.2)) ↔ KeysAscend es := List.pairwise_map

/-- Entries that ascend are determined by which they are. -/
theorem KeysAscend.eq_of_perm (he : KeysAscend es) (hf : KeysAscend fs) (h : es.Perm fs) :
    es = fs :=
  h.eq_of_pairwise (fun _ _ _ _ hlt hgt => absurd (hlt.trans hgt) (lt_irrefl _)) he hf

/-- What is in the entries behind an insertion was put in or was there. -/
theorem mem_insertEntry {e : String × α} (h : e ∈ insertEntry key a es) :
    e = (key, a) ∨ e ∈ es := by
  induction es with
  | nil => exact .inl (List.mem_singleton.1 h)
  | cons f es ih =>
    rw [insertEntry] at h
    split at h
    · exact List.mem_cons.1 h
    · split at h
      · exact (List.mem_cons.1 h).imp_right (List.mem_cons_of_mem _)
      · rcases List.mem_cons.1 h with rfl | h
        · exact .inr List.mem_cons_self
        · exact (ih h).imp_right (List.mem_cons_of_mem _)

/-- What is put in takes its place in the order. -/
theorem KeysAscend.insertEntry (h : KeysAscend es) (key : String) (a : α) :
    KeysAscend (insertEntry key a es) := by
  induction es with
  | nil => exact List.pairwise_singleton _ _
  | cons f es ih =>
    obtain ⟨hf, hes⟩ := List.pairwise_cons.1 h
    rw [Json.insertEntry]
    split
    · next hlt =>
      refine .cons (fun e he => ?_) h
      rcases List.mem_cons.1 he with rfl | he
      · exact hlt
      · exact hlt.trans (hf e he)
    · next hge =>
      split
      · next heq =>
        subst heq
        exact .cons hf hes
      · next hne =>
        refine .cons (fun e he => ?_) (ih hes)
        rcases mem_insertEntry he with rfl | he
        · exact lt_of_le_of_ne (not_lt.1 hge) (Ne.symm hne)
        · exact hf e he

/-- The keys of entries that are collected ascend. -/
theorem keysAscend_collectEntries (es : List (String × α)) : KeysAscend (collectEntries es) := by
  have hfold : ∀ all : List (String × α), KeysAscend all →
      KeysAscend (es.foldl (fun all e => insertEntry e.1 e.2 all) all) := by
    induction es with
    | nil => exact fun _ h => h
    | cons e es ih => exact fun all h => ih _ (h.insertEntry e.1 e.2)
  exact hfold [] List.Pairwise.nil

/-- Only what is given is collected. -/
theorem mem_collectEntries {e : String × α} (h : e ∈ collectEntries es) : e ∈ es := by
  have hfold : ∀ all : List (String × α),
      e ∈ es.foldl (fun all e => insertEntry e.1 e.2 all) all → e ∈ es ∨ e ∈ all := by
    clear h
    induction es with
    | nil => exact fun _ h => .inr h
    | cons f es ih =>
      intro all h
      rcases ih _ h with h | h
      · exact .inl (List.mem_cons_of_mem f h)
      · rcases mem_insertEntry h with rfl | h
        · exact .inl List.mem_cons_self
        · exact .inr h
  exact (hfold [] h).resolve_right List.not_mem_nil

/-- A new key leaves the other entries as they are. -/
theorem insertEntry_perm (h : key ∉ es.map Prod.fst) :
    (insertEntry key a es).Perm ((key, a) :: es) := by
  induction es with
  | nil => exact .refl _
  | cons f es ih =>
    obtain ⟨hf, hes⟩ := not_or.1 (mt List.mem_cons.2 h)
    rw [insertEntry, if_neg (show ¬ key = f.1 from hf)]
    split
    · exact .refl _
    · exact ((ih hes).cons f).trans (.swap _ _ _)

/-- **No entry is lost or merged** where the keys are distinct. -/
theorem collectEntries_perm (h : (es.map Prod.fst).Nodup) : (collectEntries es).Perm es := by
  have hfold : ∀ all : List (String × α), (es.map Prod.fst ++ all.map Prod.fst).Nodup →
      (es.foldl (fun all e => insertEntry e.1 e.2 all) all).Perm (es ++ all) := by
    clear h
    induction es with
    | nil => exact fun all _ => .refl all
    | cons e es ih =>
      intro all hall
      obtain ⟨he, hrest⟩ := List.nodup_cons.1 hall
      have hnew : e.1 ∉ all.map Prod.fst := fun hmem => he (List.mem_append_right _ hmem)
      have hperm := insertEntry_perm (a := e.2) hnew
      have hkeys := ((hperm.map Prod.fst).append_left (es.map Prod.fst)).nodup_iff.2
        (List.perm_middle.nodup_iff.2 hall)
      exact (ih _ hkeys).trans ((hperm.append_left es).trans List.perm_middle)
  have hperm := hfold [] (by rwa [List.map_nil, List.append_nil])
  rwa [List.append_nil] at hperm

/-- Entries that ascend stay as they are. -/
theorem KeysAscend.collectEntries (h : KeysAscend es) : collectEntries es = es :=
  (keysAscend_collectEntries es).eq_of_perm h (collectEntries_perm h.nodup)

/-- The order in which entries are put in does not count. -/
theorem collectEntries_congr (he : (es.map Prod.fst).Nodup) (h : es.Perm fs) :
    collectEntries es = collectEntries fs := by
  have hf := (h.map Prod.fst).nodup_iff.1 he
  exact (keysAscend_collectEntries es).eq_of_perm (keysAscend_collectEntries fs)
    ((collectEntries_perm he).trans (h.trans (collectEntries_perm hf).symm))

end Entries

namespace Document

/-- The documents of items are those of each. -/
theorem ofItems_eq (items : List Value) : ofItems items = items.map ofValue := by
  induction items with
  | nil => rfl
  | cons v items ih => rw [ofItems, ih, List.map_cons]

/-- The documents of fields are those of each, under its name. -/
theorem ofFields_eq (fields : List (String × Value)) :
    ofFields fields = fields.map fun f => (f.1, ofValue f.2) := by
  induction fields with
  | nil => rfl
  | cons f fields ih => rw [ofFields, ih, List.map_cons]

/-- The values of items are those of each. -/
theorem toItems_eq (items : List Document) : toItems items = items.map toValue := by
  induction items with
  | nil => rfl
  | cons d items ih => rw [toItems, ih, List.map_cons]

/-- The values of entries are those of each, under its key. -/
theorem toFields_eq (entries : List (String × Document)) :
    toFields entries = entries.map fun e => (e.1, e.2.toValue) := by
  induction entries with
  | nil => rfl
  | cons e entries ih => rw [toFields, ih, List.map_cons]

/-- The entries of an object become fields in the order of their keys. -/
theorem toValue_object {entries : List (String × Document)} (h : KeysAscend entries) :
    (object entries).toValue = .map (entries.map fun e => (e.1, e.2.toValue)) := by
  have hkeys : ((toFields entries).map Prod.fst).Nodup := by
    rw [toFields_eq]
    exact ((keysAscend_map toValue).2 h).nodup
  rw [toValue, foldl_putField_new Prod.snd [] hkeys, List.nil_append]
  exact congrArg Value.map ((List.map_id _).trans (toFields_eq entries))

end Document
end Json

namespace Value

open Json (Document KeysAscend collectEntries keysAscend_collectEntries collectEntries_perm)
open Json.Document

variable {v w : Value} {fs gs : List (String × Value)}

mutual

/-- The value with null for all that JSON has no form for. -/
def normalized : Value → Value
  | absent => null
  | number x => if x.isFinite then number x else null
  | list items => list (normalizedItems items)
  | map fields => map (normalizedFields fields)
  | v => v

/-- The items with null for all that JSON has no form for. -/
def normalizedItems : List Value → List Value
  | [] => []
  | v :: rest => v.normalized :: normalizedItems rest

/-- The fields with null for all that JSON has no form for. -/
def normalizedFields : List (String × Value) → List (String × Value)
  | [] => []
  | (name, v) :: rest => (name, v.normalized) :: normalizedFields rest

end

/-- A list is normalized item by item. -/
theorem normalized_list (items : List Value) :
    (list items).normalized = list (items.map normalized) := by
  rw [normalized, list.injEq]
  induction items with
  | nil => rfl
  | cons v items ih => rw [normalizedItems, ih, List.map_cons]

/-- A map is normalized field by field. -/
theorem normalized_map (fields : List (String × Value)) :
    (map fields).normalized = map (fields.map fun f => (f.1, f.2.normalized)) := by
  rw [normalized, map.injEq]
  induction fields with
  | nil => rfl
  | cons f fields ih => rw [normalizedFields, ih, List.map_cons]

/-! ### There and back -/

/-- A list is sorted inside of its items. -/
theorem sorted_list (items : List Value) : (list items).sorted = list (items.map sorted) := by
  rw [sorted, ofValue, toValue, ofItems_eq, toItems_eq, List.map_map]
  rfl

/-- The fields of a document are those of the value in the order of their names. -/
theorem sorted_map (fields : List (String × Value)) : (map fields).sorted =
    map ((collectEntries (fields.map fun f => (f.1, ofValue f.2))).map fun e =>
      (e.1, e.2.toValue)) := by
  rw [sorted, ofValue, ofFields_eq, toValue_object (keysAscend_collectEntries _)]

/-- A map is sorted to the same fields in another order, each of them sorted inside. -/
theorem sorted_map_perm (h : (fs.map Prod.fst).Nodup) :
    ∃ gs, (map fs).sorted = map gs ∧ gs.Perm (fs.map fun f => (f.1, f.2.sorted)) := by
  have hkeys : ((fs.map fun f => (f.1, ofValue f.2)).map Prod.fst).Nodup := by
    rwa [List.map_map]
  have hperm := (collectEntries_perm hkeys).map fun e => (e.1, e.2.toValue)
  rw [List.map_map] at hperm
  exact ⟨_, sorted_map fs, hperm⟩

/-- **What comes back of a document equals the value with null for what JSON has no form for.** -/
theorem sorted_beq_normalized (h : v.KeysDistinct) : equal v.sorted v.normalized = true := by
  rw [equal_iff]
  induction v using induct with
  | null | absent => exact .null
  | bool b => exact .bool b
  | number x =>
    rw [sorted, ofValue, normalized]
    split
    · exact .number (Binary64.same_iff.2 (.inl rfl))
    · exact .null
  | string s => exact .string s
  | list items ih =>
    rw [KeysDistinct, allKeysDistinct_iff] at h
    rw [sorted_list, normalized_list]
    refine .list (List.forall₂_map_left_iff.2 (List.forall₂_map_right_iff.2
      (List.forall₂_same.2 fun v hv => ?_)))
    exact equal_iff.2 (ih v hv (h v hv))
  | map fields ih =>
    rw [KeysDistinct, fieldsKeysDistinct_iff] at h
    obtain ⟨hkeys, hfields⟩ := h
    obtain ⟨gs, hgs, hperm⟩ := sorted_map_perm hkeys
    have hnormal : ((fields.map fun f => (f.1, f.2.normalized)).map Prod.fst).Nodup := by
      rwa [List.map_map]
    rw [hgs, normalized_map]
    refine .map (hperm.length_eq.trans (by simp)) fun g hg => ?_
    obtain ⟨f, hf, rfl⟩ := List.mem_map.1 (hperm.mem_iff.1 hg)
    have hmem : (f.1, f.2.normalized) ∈ fields.map fun f => (f.1, f.2.normalized) :=
      List.mem_map_of_mem hf
    exact ⟨f.2.normalized, lookup_of_mem hnormal hmem, equal_iff.2 (ih f hf (hfields f hf))⟩

/-- **Converting twice is converting once**: a document has its entries in order already. -/
theorem ofValue_sorted (v : Value) : ofValue v.sorted = ofValue v := by
  induction v using induct with
  | null | absent | bool | string => rfl
  | number x =>
    rw [sorted, ofValue]
    split
    · next h => rw [toValue, ofValue, if_pos h]
    · rfl
  | list items ih =>
    rw [sorted_list, ofValue, ofValue, ofItems_eq, ofItems_eq, List.map_map]
    exact congrArg array (List.map_congr_left ih)
  | map fields ih =>
    obtain ⟨entries, hentries⟩ : ∃ es, collectEntries (ofFields fields) = es := ⟨_, rfl⟩
    have hascend : KeysAscend entries := hentries ▸ keysAscend_collectEntries _
    have hsame : ∀ e ∈ entries, (e.1, ofValue e.2.toValue) = e := by
      intro e he
      have hmem := Json.mem_collectEntries (hentries ▸ he)
      rw [ofFields_eq] at hmem
      obtain ⟨f, hf, rfl⟩ := List.mem_map.1 hmem
      exact congrArg (f.1, ·) (ih f hf)
    rw [sorted, ofValue, hentries, toValue_object hascend, ofValue, ofFields_eq, List.map_map]
    have hmap : entries.map ((fun f => (f.1, ofValue f.2)) ∘ fun e => (e.1, e.2.toValue)) =
        entries := (List.map_congr_left hsame).trans (List.map_id entries)
    rw [hmap, hascend.collectEntries]

/-! ### Equal values -/

/-- Equal numbers are one number, but for the two zeros. -/
theorem eq_of_same {x y : Float} (hx : x ≠ Binary64.negativeZero)
    (hy : y ≠ Binary64.negativeZero) (h : Binary64.same x y = true) : x = y := by
  have hpositive {x : Float} {s} (hzero : Binary64.unpack x = .zero s)
      (hne : x ≠ Binary64.negativeZero) : Binary64.unpack x = .zero .positive := by
    cases s with
    | positive => exact hzero
    | negative => exact absurd (Binary64.unpack_inj hzero) hne
  rcases Binary64.same_iff.1 h with rfl | ⟨s, t, hxzero, hyzero⟩
  · rfl
  · have hxzero := hpositive hxzero hx
    have hyzero := hpositive hyzero hy
    exact Binary64.unpack_inj (hxzero.trans hyzero.symm)

/-- Fields of which all are among others of the same number make one document with them. -/
theorem ofValue_map_congr (hkeys : (fs.map Prod.fst).Nodup) (hlength : fs.length = gs.length)
    (h : ∀ f ∈ fs, ∃ g ∈ gs, g.1 = f.1 ∧ ofValue g.2 = ofValue f.2) :
    ofValue (map fs) = ofValue (map gs) := by
  have hdistinct : ((fs.map fun f => (f.1, ofValue f.2)).map Prod.fst).Nodup := by
    rwa [List.map_map]
  have hsubset : (fs.map fun f => (f.1, ofValue f.2)) ⊆ gs.map fun g => (g.1, ofValue g.2) := by
    intro e he
    obtain ⟨f, hf, rfl⟩ := List.mem_map.1 he
    obtain ⟨g, hg, hname, hvalue⟩ := h f hf
    exact List.mem_map.2 ⟨g, hg, Prod.ext hname hvalue⟩
  have hperm := (List.subperm_of_subset hdistinct.of_map hsubset).perm_of_length_le
    (by rw [List.length_map, List.length_map, hlength])
  rw [ofValue, ofValue, ofFields_eq, ofFields_eq, Json.collectEntries_congr hdistinct hperm]

/-- **Of equal values without a negative zero one document is made**, whatever the order in which
their fields were given. -/
theorem ofValue_congr (hv : v.KeysDistinct) (hw : w.KeysDistinct)
    (hvz : v.Everywhere (· ≠ number Binary64.negativeZero))
    (hwz : w.Everywhere (· ≠ number Binary64.negativeZero)) (h : equal v w = true) :
    ofValue v = ofValue w := by
  rw [equal_iff] at h
  induction v using induct generalizing w with
  | null | absent | bool | string =>
    cases h
    rfl
  | number x =>
    cases h with | number hsame =>
    rw [eq_of_same (mt (congrArg number) hvz.holds) (mt (congrArg number) hwz.holds) hsame]
  | list items ih =>
    cases h with | @list _ others hitems =>
    rw [KeysDistinct, allKeysDistinct_iff] at hv hw
    obtain ⟨hlength, hitems⟩ := List.forall₂_iff_zip.1 hitems
    have hsame : List.Forall₂ (fun v w => ofValue v = ofValue w) items others := by
      refine List.forall₂_iff_zip.2 ⟨hlength, fun hmem => ?_⟩
      obtain ⟨hvmem, hwmem⟩ := List.of_mem_zip hmem
      exact ih _ hvmem (hv _ hvmem) (hw _ hwmem) (hvz.inside _ hvmem) (hwz.inside _ hwmem)
        (equal_iff.1 (hitems hmem))
    have hdocuments : items.map ofValue = others.map ofValue := by
      rw [← List.forall₂_eq_eq_eq, List.forall₂_map_left_iff, List.forall₂_map_right_iff]
      exact hsame
    rw [ofValue, ofValue, ofItems_eq, ofItems_eq, hdocuments]
  | map fields ih =>
    cases h with | @map _ gs hlength hfields =>
    rw [KeysDistinct, fieldsKeysDistinct_iff] at hv hw
    have hinside {fs : List (String × Value)}
        (hz : (map fs).Everywhere (· ≠ number Binary64.negativeZero)) :
        ∀ f ∈ fs, f.2.Everywhere (· ≠ number Binary64.negativeZero) := fun f hf =>
      hz.inside f.2 (List.mem_map_of_mem hf)
    refine ofValue_map_congr hv.1 hlength fun f hf => ?_
    obtain ⟨w, hlookup, hequal⟩ := hfields f hf
    have hg := mem_of_lookup hlookup
    have hsame := ih f hf (hv.2 f hf) (hw.2 _ hg) (hinside hvz f hf) (hinside hwz _ hg)
      (equal_iff.1 hequal)
    exact ⟨(f.1, w), hg, rfl, hsame.symm⟩

/-- **Values go through documents as they are, but for what JSON has no form for.**  What comes back
equals the value with null for all that is absent or not finite, at any depth, and going there
again changes nothing more.  Equal values without a negative zero have one document, and so one
sorted text. -/
theorem document_laws :
    (∀ v : Value, v.KeysDistinct → ((ofValue v).toValue == v.normalized) = true) ∧
    (∀ v : Value, ofValue (ofValue v).toValue = ofValue v ∧ v.sorted.sorted = v.sorted) ∧
    ∀ v w : Value, v.KeysDistinct → w.KeysDistinct → (v == w) = true →
      v.Everywhere (· ≠ number Binary64.negativeZero) →
      w.Everywhere (· ≠ number Binary64.negativeZero) →
      ofValue v = ofValue w ∧ v.toSortedJson = w.toSortedJson := by
  refine ⟨?_, ?_, ?_⟩
  · intro v hv
    exact sorted_beq_normalized hv
  · intro v
    have htwice := ofValue_sorted v
    exact ⟨htwice, congrArg toValue htwice⟩
  · intro v w hv hw h hvz hwz
    have hsame := ofValue_congr hv hw hvz hwz h
    refine ⟨hsame, ?_⟩
    rw [toSortedJson, toSortedJson, sorted, sorted, hsame]

/-- Maps that differ in the order of their fields, one of which holds what JSON has no form for. -/
theorem document_laws_fields :
    (map [("b", number Binary64.nan), ("a", list [absent])]).KeysDistinct ∧
      ((ofValue (map [("b", number Binary64.nan), ("a", list [absent])])).toValue ==
        map [("b", null), ("a", list [null])]) = true ∧
      (map [("b", number Binary64.nan), ("a", list [absent])]).toSortedJson =
        "\x7b\"a\":[null],\"b\":null\x7d" ∧
      (map [("a", list [absent]), ("b", number Binary64.nan)]).toSortedJson =
        "\x7b\"a\":[null],\"b\":null\x7d" := by
  have hkeys : (map [("b", number Binary64.nan), ("a", list [absent])]).KeysDistinct :=
    ⟨by decide, trivial, ⟨trivial, trivial⟩, trivial⟩
  have hkeys' : (map [("a", list [absent]), ("b", number Binary64.nan)]).KeysDistinct :=
    ⟨by decide, ⟨trivial, trivial⟩, trivial, trivial⟩
  have hnan : (number Binary64.nan).Everywhere (· ≠ number Binary64.negativeZero) := by
    refine .single (fun h => ?_) rfl
    have hunpack := congrArg Binary64.unpack (number.inj h)
    cases hunpack
  have habsent : (list [absent]).Everywhere (· ≠ number Binary64.negativeZero) :=
    .intro nofun (List.forall_mem_singleton.2 (.single nofun rfl))
  obtain ⟨hnormal, -, hequal⟩ := document_laws
  have htext : (map [("b", number Binary64.nan), ("a", list [absent])]).toSortedJson =
      "\x7b\"a\":[null],\"b\":null\x7d" := by decide
  have hsame := hequal _ _ hkeys hkeys' rfl
    (.intro nofun (List.forall_mem_cons.2 ⟨hnan, List.forall_mem_singleton.2 habsent⟩))
    (.intro nofun (List.forall_mem_cons.2 ⟨habsent, List.forall_mem_singleton.2 hnan⟩))
  exact ⟨hkeys, hnormal _ hkeys, htext, hsame.2.symm.trans htext⟩

/-- The zeros are equal, and JSON tells them apart. -/
example : (number 0.0 == number Binary64.negativeZero) = true ∧
    (number 0.0).toSortedJson = "0.0" ∧
    (number Binary64.negativeZero).toSortedJson = "-0.0" := by
  decide

end Value
end RecordFilter
